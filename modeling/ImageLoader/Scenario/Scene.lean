import ImageLoader.Lock.Any
import ImageLoader.Scenario.Step
/-! The client of a scenario: the locks it added, its handlers and what they did, and the addresses
of the images it named. -/

namespace ImageLoader.Scenario

structure Scene where
  /-- Whether the process has a runtime, or only a gate, a registry and a loader. -/
  hasRuntime : Bool := false
  locks : List (LockId × AnyLock) := []
  handlers : List Handler := []
  events : List Event := []
  named : List UInt64 := []

/-- A client that adds locks. Of those with one name only the first can be meant. -/
def Scene.ofLocks (hasRuntime : Bool) (locks : List (LockId × AnyLock)) : Scene where
  hasRuntime
  locks := locks.eraseDupsBy fun a b => a.1 = b.1

abbrev SceneAct := ProcessAct Scene

def runtimeLocks : List LockId :=
  [.runtimeLock, .selLock, .cacheUpdateLock, .classLock, .methodListLock, .loadMethodLock,
    .classInitLock]

def lockIds (p : Process Scene) : List LockId :=
  (if p.client.hasRuntime then runtimeLocks else []) ++ .headerLock :: p.client.locks.map (·.1)

/-- The lock that a step means by a name: one of the process before an added one. -/
def lockOfName (hasRuntime : Bool) (name : String) : LockId :=
  let own := if hasRuntime then runtimeLocks ++ [.headerLock] else [.headerLock]
  (own.find? (·.name = name)).getD (.added name)

def lock? (p : Process Scene) : LockId → Option AnyLock
  | .runtimeLock => some (.rwLock p.locks.runtimeLock)
  | .selLock => some (.rwLock p.locks.selLock)
  | .cacheUpdateLock => some (.mutex p.locks.cacheUpdateLock)
  | .classLock => some (.mutex p.locks.classLock)
  | .methodListLock => some (.mutex p.locks.methodListLock)
  | .loadMethodLock => some (.recursive p.locks.loadMethodLock)
  | .classInitLock => some (.monitor p.locks.classInitLock)
  | .headerLock => some (.mutex p.registry.lock)
  | .added name => (p.client.locks.find? (·.1 = .added name)).map (·.2)

/-- Puts a lock back; one of another kind than the process has there changes nothing. -/
def setLock (p : Process Scene) (id : LockId) (lock : AnyLock) : Process Scene :=
  match id, lock with
  | .runtimeLock, .rwLock l => { p with locks := { p.locks with runtimeLock := l } }
  | .selLock, .rwLock l => { p with locks := { p.locks with selLock := l } }
  | .cacheUpdateLock, .mutex m => { p with locks := { p.locks with cacheUpdateLock := m } }
  | .classLock, .mutex m => { p with locks := { p.locks with classLock := m } }
  | .methodListLock, .mutex m => { p with locks := { p.locks with methodListLock := m } }
  | .loadMethodLock, .recursive m => { p with locks := { p.locks with loadMethodLock := m } }
  | .classInitLock, .monitor m => { p with locks := { p.locks with classInitLock := m } }
  | .headerLock, .mutex m => { p with registry := { p.registry with lock := m } }
  | .added name, lock =>
    { p with
      client := { p.client with
        locks := p.client.locks.map fun e => if e.1 = .added name then (e.1, lock) else e } }
  | _, _ => p

def onAnyLock (id : LockId) (x : LockAct AnyLock Reply) : SceneAct Reply := fun p =>
  match lock? p id with
  | some l => Process.onLock (fun _ => l) (fun p l => setLock p id l) x p
  | none => .ok .unsupported p

def onGate {α : Type} (x : EStateM Stop Gate α) : SceneAct α := fun p =>
  match x p.gate with
  | .ok a gate => .ok a { p with gate }
  | .error e gate => .error e ({ p with gate }.report e)

def addEvent (e : Event) : SceneAct Unit :=
  modify fun p => { p with client := { p.client with events := p.client.events ++ [e] } }

def addHandler (h : Handler) : SceneAct HandlerId := do
  let id := (← get).client.handlers.length
  modify fun p => { p with client := { p.client with handlers := p.client.handlers ++ [h] } }
  pure id

def setRules (id : HandlerId) (rules : List Rule) : SceneAct Unit :=
  modify fun p =>
    { p with
      client := { p.client with
        handlers := p.client.handlers.modify id fun h => { h with rules } } }

def nameImage (addr : UInt64) : SceneAct Unit :=
  modify fun p => { p with client := { p.client with named := p.client.named ++ [addr] } }

/-- The images of a step, all of them well formed; those before a malformed one count as named. -/
def takeImages : List ImageSource → SceneAct (Except LoaderError (List Image))
  | [] => pure (.ok [])
  | .error e :: _ => pure (.error e)
  | .ok i :: rest => do
    nameImage i.addr
    pure ((← takeImages rest).map (i :: ·))

end ImageLoader.Scenario
