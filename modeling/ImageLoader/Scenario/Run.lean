import ImageLoader.Scenario.Perform
/-! Running a scenario: its steps in order, each answered with what the process shows afterwards. A
fatal error is the last answer; a process that is aborted gives none. -/

namespace ImageLoader.Scenario

/-- What the counters of a gate read. -/
structure Readings where
  bypassed : Nat
  skipped : Nat
  violations : Nat
  deriving DecidableEq, Repr

def readings (c : Counters) : Readings :=
  ⟨c.bypassed.toNat, c.skipped.toNat, c.violations.toNat⟩

structure View where
  mode : DebuggerMode
  counters : Readings
  /-- The locks that are held. -/
  held : List String
  /-- Those of the named addresses that the loader knows, ascending, once an image was named. -/
  known : Option (List UInt64)
  /-- The registered addresses, while they can be read without waiting. -/
  registered : Option (List UInt64)
  deriving DecidableEq, Repr

def heldLocks (p : Process Scene) : List String :=
  (lockIds p).filterMap fun id => (lock? p id).bind (·.heldText? id)

def knownAddresses (p : Process Scene) : List UInt64 :=
  (p.client.named.filter (Loader.isKnown p)).eraseDups.mergeSort

def registryReadable (p : Process Scene) : Bool := p.gate.mode = .off && !p.registry.lock.isLocked

def view (p : Process Scene) : View where
  mode := p.gate.mode
  counters := readings p.gate.counters
  held := heldLocks p
  known := if p.client.named.isEmpty then none else some (knownAddresses p)
  registered :=
    if p.client.named.isEmpty || !registryReadable p then none
    else some (p.registry.value.toList.map (·.addr))

structure Answer where
  reply : Reply
  view : View
  events : List Event
  log : List LogLine
  violations : List Violation
  deriving DecidableEq, Repr

def answer (reply : Reply) (p : Process Scene) : Answer :=
  ⟨reply, view p, p.client.events, p.log, p.gate.recorded⟩

/-- Forgets what the steps before left to show. -/
def clearNotes (p : Process Scene) : Process Scene :=
  { p with
    log := []
    gate := { p.gate with recorded := [] }
    client := { p.client with events := [] } }

def runSteps (depth : Nat) : List Step → Process Scene → Option (List Answer)
  | [], _ => some []
  | s :: rest, p =>
    match attempt (client depth s.thread) s.thread s.action (clearNotes p) with
    | .ok reply p => (runSteps depth rest p).map (answer reply p :: ·)
    | .error (.fatal e) p => some [answer (.fatal e) p]
    | .error _ _ => none

/-- The answers of a scenario; none where its process was aborted. -/
def run (p : Process Scene) (steps : List Step) : Option (List Answer) :=
  runSteps (stepFirings steps + 1) steps p

/-- A gate, a registry and a loader, or a whole runtime, with locks added. -/
def start (hasRuntime : Bool) (config : Config) (locks : List (LockId × AnyLock)) : Process Scene :=
  let scene := Scene.ofLocks hasRuntime locks
  if hasRuntime then .new config scene else .unmanaged config scene

/-- A runtime that C code uses: a violation is announced before it is fatal. -/
def startForeign (config : Config) (locks : List (LockId × AnyLock)) : Process Scene :=
  let p : Process Scene := .new config (.ofLocks true locks)
  { p with gate := { p.gate with hook := .announced } }

end ImageLoader.Scenario
