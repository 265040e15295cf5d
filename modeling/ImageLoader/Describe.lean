import ImageLoader.Process
import ImageLoader.Text.Quoted
/-! Diagnostic texts of locks, the gate, the loader and a process. Lock identities are not shown. -/

namespace ImageLoader

def flagText (b : Bool) : String := if b then "true" else "false"

/-- The fields that every lock text begins with. -/
def LockId.fields (id : LockId) : List (String × String) :=
  [("name", Text.quote id.name), ("id", "LockId(#)")]

def Mutex.describe (id : LockId) (m : Mutex) : String :=
  Text.record "Mutex" (id.fields ++ [("locked", flagText m.isLocked)]) false

def RecursiveMutex.describe (id : LockId) (m : RecursiveMutex) : String :=
  Text.record "RecursiveMutex"
    (id.fields ++ [("initialized", flagText m.isInitialized), ("depth", toString m.depth)]) false

def Monitor.describe (id : LockId) (m : Monitor) : String :=
  Text.record "Monitor" (id.fields ++ [("entered", flagText m.isLocked)]) false

def RwLock.describe (id : LockId) (l : RwLock) : String :=
  let held := match l.mode with
    | some mode => s!"Some({mode.label})"
    | none => "None"
  Text.record "RwLock" (id.fields ++ [("held", held)]) false

def Guarded.describe {α : Type} (id : LockId) (_ : Guarded α) : String :=
  Text.record "Guarded" [("lock", Text.quote id.name)] true

def Counters.describe (c : Counters) : String :=
  Text.record "GateCounters"
    [("bypassed", toString c.bypassed), ("skipped", toString c.skipped),
      ("violations", toString c.violations)] false

def Gate.describe (g : Gate) : String :=
  Text.record "DebuggerGate"
    [("mode", g.mode.label), ("managed", toString g.managed.length), ("held", toString g.held.size),
      ("counters", g.counters.describe)] false

def Loader.describe (l : Loader) : String :=
  Text.record "LoaderShim"
    [("state_handlers", toString l.stateHandlers.length),
      ("add_callbacks", toString l.addCallbacks.length),
      ("remove_callbacks", toString l.removeCallbacks.length),
      ("known", toString l.known.size)] false

namespace Process

variable {σ : Type}

def describeRegistry (p : Process σ) : String :=
  Text.record "HeaderRegistry" [("lock", p.registry.lock.describe .headerLock)] true

def describe (p : Process σ) : String :=
  Text.record "Runtime"
    [("gate", p.gate.describe), ("registry", p.describeRegistry), ("loader", p.loader.describe)]
    true

end Process

end ImageLoader
