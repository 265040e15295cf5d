import ImageLoader.Lock.Guarded
import ImageLoader.Lock.Monitor
import ImageLoader.Lock.Recursive
import ImageLoader.Lock.RwLock
import ImageLoader.ImageList
import ImageLoader.Loader.Basic
/-! The state of a process: the debugger gate, the locks, the registry of images behind its own lock,
the loader's tables, and whatever the client keeps. A fatal error is logged where it leaves a lock. -/

namespace ImageLoader

/-- The locks of a process, but for the registry's. -/
structure Locks where
  runtimeLock : RwLock := {}
  selLock : RwLock := {}
  cacheUpdateLock : Mutex := {}
  classLock : Mutex := {}
  methodListLock : Mutex := {}
  loadMethodLock : RecursiveMutex := .new
  classInitLock : Monitor := {}
  deriving DecidableEq, Repr

/-- A lock that the debugger took when it came. -/
inductive Taken
  | runtimeLock (mode : RwMode)
  | cacheUpdateLock
  | selLock (mode : RwMode)
  | headerLock
  deriving DecidableEq, Repr

structure Process (σ : Type) where
  gate : Gate := {}
  locks : Locks := {}
  registry : Guarded ImageList := { value := {} }
  loader : Loader := {}
  taken : List Taken := []
  log : List LogLine := []
  client : σ

abbrev ProcessAct (σ : Type) := EStateM Stop (Process σ)

/-- What handlers and callbacks do when they are called. A state handler may answer with a reason to
refuse its images; the answer of a callback is not looked at. -/
abbrev Client (σ : Type) := Call → ProcessAct σ (Option String)

namespace Process

variable {σ α L : Type}

/-- A process none of whose locks the debugger manages. -/
def unmanaged (config : Config) (client : σ) : Process σ := { gate := { config }, client }

/-- The locks that a debugger needs in order to look at a process. -/
def managedLocks : List LockId := [.runtimeLock, .selLock, .cacheUpdateLock, .headerLock]

def new (config : Config) (client : σ) : Process σ :=
  { gate := { config, managed := managedLocks }, client }

def note (lines : List LogLine) (p : Process σ) : Process σ := { p with log := p.log ++ lines }

def report (e : Stop) (p : Process σ) : Process σ :=
  match e with
  | .fatal cause => p.note (p.gate.fatalLines cause)
  | _ => p

def onLock (get : Process σ → L) (set : Process σ → L → Process σ) (x : LockAct L α) :
    ProcessAct σ α := fun p =>
  match x ⟨p.gate, get p⟩ with
  | .ok a s => .ok a (set { p with gate := s.gate } s.lock)
  | .error e s => .error e ((set { p with gate := s.gate } s.lock).report e)

def onRegistry (x : LockAct (Guarded ImageList) α) : ProcessAct σ α :=
  onLock (·.registry) (fun p r => { p with registry := r }) x

def say (level : LogLevel) (text : String) : ProcessAct σ Unit :=
  modify (note [⟨level, text⟩])

end Process

end ImageLoader
