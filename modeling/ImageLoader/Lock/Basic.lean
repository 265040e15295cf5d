/-! Names of the parts that locks are about: threads, lock identities and kinds, ways to hold a lock,
debugger modes, and the errors of lock operations. -/

namespace ImageLoader

inductive ThreadId
  | named (name : String)
  /-- A thread that lives for one joint operation only. -/
  | worker (index : Nat)
  deriving DecidableEq, Repr

/-- Which lock it is: one of a process, or one that its client adds. -/
inductive LockId
  | runtimeLock
  | selLock
  | cacheUpdateLock
  | classLock
  | methodListLock
  | loadMethodLock
  | classInitLock
  | headerLock
  | added (name : String)
  deriving DecidableEq, Repr

def LockId.name : LockId → String
  | .runtimeLock => "runtimeLock"
  | .selLock => "selLock"
  | .cacheUpdateLock => "cacheUpdateLock"
  | .classLock => "classLock"
  | .methodListLock => "methodListLock"
  | .loadMethodLock => "loadMethodLock"
  | .classInitLock => "classInitLock"
  | .headerLock => "headerLock"
  | .added name => name

inductive LockKind
  | mutex
  | recursiveMutex
  | monitor
  | rwLock
  deriving DecidableEq, Repr

def LockKind.label : LockKind → String
  | .mutex => "mutex"
  | .recursiveMutex => "recursive mutex"
  | .monitor => "monitor"
  | .rwLock => "rwlock"

inductive RwMode
  | read
  | write
  deriving DecidableEq, Repr

def RwMode.label : RwMode → String
  | .read => "Read"
  | .write => "Write"

/-- How the debugger holds a lock, or how an acquisition needs it. -/
inductive Hold
  | shared
  | exclusive
  deriving DecidableEq, Repr

namespace Hold

def label : Hold → String
  | .shared => "Shared"
  | .exclusive => "Exclusive"

def satisfies : (holding need : Hold) → Bool
  | .exclusive, _ => true
  | .shared, need => need = .shared

def ofMode : RwMode → Hold
  | .read => .shared
  | .write => .exclusive

end Hold

inductive DebuggerMode
  | off
  /-- Some managed locks are held by the debugger. -/
  | partly
  /-- Every managed lock is held by the debugger. -/
  | full
  deriving DecidableEq, Repr

namespace DebuggerMode

/-- The mode as the number that debuggers see. -/
def level : DebuggerMode → Nat
  | .off => 0
  | .partly => 1
  | .full => 2

def ofLevel : Nat → DebuggerMode
  | 1 => .partly
  | 2 => .full
  | _ => .off

def text : DebuggerMode → String
  | .off => "off"
  | .partly => "partial"
  | .full => "full"

def label : DebuggerMode → String
  | .off => "Off"
  | .partly => "Partial"
  | .full => "Full"

end DebuggerMode

inductive LockError
  | init (kind : LockKind) (name : String) (code : Int)
  | notOwner (kind : LockKind) (name : String)
  | waitDuringDebugger (name : String)
  deriving DecidableEq, Repr

namespace LockError

def message : LockError → String
  | .init kind name code => s!"failed to create {kind.label} `{name}`, error: {code}"
  | .notOwner kind name => s!"{kind.label} `{name}` is not locked by the calling thread"
  | .waitDuringDebugger name => s!"cannot wait on monitor `{name}` while the debugger is attached"

/-- The system's error number for the same condition. -/
def errno : LockError → Int
  | .init _ _ code => code
  | .notOwner _ _ => 1
  | .waitDuringDebugger _ => 35

end LockError

/-- Conditions that end the process. -/
inductive FatalError
  | lockInit (cause : LockError)
  | uninitialized (kind : LockKind) (name : String)
  | notLocked (kind : LockKind) (name : String)
  | locked (kind : LockKind) (name : String)
  | notReading (name : String)
  | notWriting (name : String)
  | native (call name : String) (code : Int)
  | debuggerModeFailure (name : String) (mode : DebuggerMode)
  deriving DecidableEq, Repr

def FatalError.message : FatalError → String
  | .lockInit cause => cause.message
  | .uninitialized kind name => s!"{kind.label} `{name}` used before initialization"
  | .notLocked kind name => s!"{kind.label} `{name}` incorrectly not locked"
  | .locked kind name => s!"{kind.label} `{name}` incorrectly locked"
  | .notReading name => s!"rwlock `{name}` incorrectly not reading"
  | .notWriting name => s!"rwlock `{name}` incorrectly not writing"
  | .native call name code => s!"{call} on `{name}` failed, error: {code}"
  | .debuggerModeFailure name mode =>
    s!"DEBUGGER MODE FAILURE: `{name}` acquired in {mode.label} mode but not held by the debugger"

/-- Why an operation does not finish. -/
inductive Stop
  | fatal (cause : FatalError)
  /-- The calling thread would have to wait for this lock. -/
  | blocked (lock : LockId)
  /-- A fatal error in a place that cannot report it: the process is gone. -/
  | aborted
  deriving DecidableEq, Repr

end ImageLoader
