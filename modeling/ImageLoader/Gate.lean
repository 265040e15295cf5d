import ImageLoader.Config
import ImageLoader.Table
import ImageLoader.Log
import ImageLoader.Lock.Basic
/-! The debugger gate. While the mode is off, or for a lock that is not managed, every operation goes
to the native lock and the gate does not change. Otherwise an acquisition is bypassed and a release
skipped, and the gate counts both; an acquisition of a lock that the debugger does not hold well enough
is a violation besides. -/

namespace ImageLoader

/-- A managed lock was acquired and the debugger did not hold it. -/
structure Violation where
  lock : LockId
  mode : DebuggerMode
  need : Hold
  deriving DecidableEq, Repr

inductive ViolationHook
  | fatal
  /-- Fatal too, with a line for the debugger's user before. -/
  | announced
  /-- The violation is noted and the run goes on. -/
  | record
  deriving DecidableEq, Repr

/-- What the gate counts, modulo 2 ^ 64. -/
structure Counters where
  bypassed : UInt64 := 0
  skipped : UInt64 := 0
  violations : UInt64 := 0
  deriving DecidableEq, Repr

structure Gate where
  config : Config := {}
  mode : DebuggerMode := .off
  managed : List LockId := []
  held : Table LockId Hold := {}
  hook : ViolationHook := .fatal
  counters : Counters := {}
  recorded : List Violation := []

inductive Acquire
  | native
  | bypass
  deriving DecidableEq, Repr

def Acquire.label : Acquire → String
  | .native => "Native"
  | .bypass => "Bypass"

inductive Release
  | native
  | skip
  deriving DecidableEq, Repr

def Release.label : Release → String
  | .native => "Native"
  | .skip => "Skip"

namespace Gate

def manage (g : Gate) (id : LockId) : Gate := { g with managed := g.managed.insert id }

def isManaged (g : Gate) (id : LockId) : Bool := g.managed.contains id

def markHeld (g : Gate) (id : LockId) (hold : Hold) : Gate :=
  { g with held := g.held.insert id hold }

def clearHeld (g : Gate) : Gate := { g with held := {} }

def resetCounters (g : Gate) : Gate := { g with counters := {} }

/-- Whether operations on this lock are the debugger's at the moment. -/
def governs (g : Gate) (id : LockId) : Bool := g.mode ≠ .off && g.isManaged id

/-- Whether the debugger holds this lock well enough for `need`. -/
def satisfies (g : Gate) (id : LockId) (need : Hold) : Bool :=
  (g.held.get? id).any (·.satisfies need)

def countBypass (g : Gate) : Gate :=
  { g with counters := { g.counters with bypassed := g.counters.bypassed + 1 } }

def countSkip (g : Gate) : Gate :=
  { g with counters := { g.counters with skipped := g.counters.skipped + 1 } }

def countViolation (g : Gate) : Gate :=
  { g with counters := { g.counters with violations := g.counters.violations + 1 } }

def record (g : Gate) (v : Violation) : Gate := { g with recorded := g.recorded ++ [v] }

/-- How to acquire a lock. A violation is counted before its hook runs, a bypass after. -/
def acquire (id : LockId) (need : Hold) : EStateM Stop Gate Acquire := fun g =>
  if g.governs id then
    if g.satisfies id need then .ok .bypass g.countBypass
    else match g.hook with
      | .record => .ok .bypass (g.countViolation.record ⟨id, g.mode, need⟩).countBypass
      | _ => .error (.fatal (.debuggerModeFailure id.name g.mode)) g.countViolation
  else .ok .native g

def release (id : LockId) (g : Gate) : Release × Gate :=
  if g.governs id then (.skip, g.countSkip) else (.native, g)

/-- A change of mode, with what is logged about it. -/
def setMode (mode : DebuggerMode) (g : Gate) : Gate × List LogLine :=
  ({ g with mode },
    if g.config.printDebuggerMode && g.mode ≠ mode then
      [⟨.info, s!"objrt: debugger mode {g.mode.text} -> {mode.text}"⟩]
    else [])

/-- The lines that a fatal error leaves in the log. -/
def fatalLines (g : Gate) (e : FatalError) : List LogLine :=
  let line : LogLine := ⟨.error, s!"objrt: {e.message}"⟩
  match g.hook, e with
  | .announced, .debuggerModeFailure _ mode =>
    [⟨.error, s!"objrt: debugger mode failure in {mode.text} mode"⟩, line]
  | _, _ => [line]

end Gate

end ImageLoader
