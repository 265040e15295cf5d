import ImageLoader.Scenario.Reply
import ImageLoader.Gate
/-! The steps of a scenario. A handler comes with rules; a rule with steps of its own fires once. -/

namespace ImageLoader.Scenario

inductive LockOp
  | lock
  | tryLock
  | unlock
  | enter
  | tryEnter
  | exit
  | notify
  | acquire (mode : RwMode)
  | tryAcquire (mode : RwMode)
  | release (mode : RwMode)
  | heldMode
  | assertReading
  | assertWriting
  | init
  | isInitialized
  | depth
  /-- Adds to a guarded value, around the end of the 64-bit numbers. -/
  | withAdd (n : Int64)
  | isLocked
  | assertLocked
  | assertUnlocked
  | name
  | describe
  /-- One thread gives the lock to another that waits for it. -/
  | handoff (giver taker : ThreadId) (mode : RwMode)
  /-- A wait, while another thread notifies. -/
  | waitNotify
  /-- Threads that take and release the lock in turn. -/
  | hammer (threads rounds : Nat) (nested : Bool)
  deriving DecidableEq, Repr

/-- What the gate is asked or told about one lock. -/
inductive GateOp
  | manage
  | isManaged
  | markHeld (hold : Hold)
  | held
  | acquire (need : Hold)
  | release
  deriving DecidableEq, Repr

inductive Part
  | gate
  | loader
  | registry
  | process
  deriving DecidableEq, Repr

inductive ProcessOp
  | setMode (mode : DebuggerMode)
  | clearHeld
  | setHook (hook : ViolationHook)
  | resetCounters
  | config
  | describe (part : Part)
  | startDebugger
  | endDebugger
  | debuggerMode
  | isRuntimeLocked
  deriving DecidableEq, Repr

/-- The image of a step, or what is wrong with its file. -/
abbrev ImageSource := Except LoaderError Image

inductive RegistryOp
  | append (image : ImageSource)
  | remove (addr : UInt64)
  | find (addr : UInt64)
  | contains (addr : UInt64)
  | setRealized (addr : UInt64) (value : Bool)
  | pathContaining (addr : UInt64)
  | first
  | last
  | count
  | isEmpty
  | list

inductive LoaderOp
  | map (images : List ImageSource)
  | mapOne (image : ImageSource)
  | unmap (addr : UInt64)
  | sectionData (addr : UInt64) (segname sectname : String)
  | pathContaining (addr : UInt64)
  | nameOf (addr : UInt64)
  | isKnown (addr : UInt64)
  | imageCount
  | knownCount
  /-- Whether loader and process have one registry. -/
  | sharesRegistry

inductive ForeignOp
  | sectionData (addr : UInt64) (segname sectname : Option Bytes) (wantsSize : Bool)
  | pathContaining (addr : UInt64)
  | nameOf (addr : UInt64)
  | imageCount
  | startDebugger
  | debuggerMode
  | endDebugger
  | isRuntimeLocked
  | announceFailure
  | isLoaded (name : Option Bytes)
  /-- Opens an object and closes it again; without a name, the program itself. -/
  | openObject (name : Option Bytes)
  deriving DecidableEq, Repr

/-- What a call must be about for a rule to apply: one image with the address and the name, and at
least `min` images. -/
structure Condition where
  addr : Option UInt64 := none
  name : Option String := none
  min : Nat := 0
  deriving DecidableEq, Repr

mutual

inductive Action
  | lock (id : LockId) (op : LockOp)
  | gate (id : LockId) (op : GateOp)
  | process (op : ProcessOp)
  | registry (op : RegistryOp)
  | loader (op : LoaderOp)
  | onState (state : ImageState) (batch : Bool) (handler : Handler)
  | onAdd (handler : Handler)
  | onRemove (handler : Handler)
  | foreign (op : ForeignOp)
  | foreignState (code : Int) (batch : Bool) (handler : Option Handler)
  | foreignAdd (handler : Option Handler)
  | foreignRemove (handler : Option Handler)
  /-- A pass over the host's objects. -/
  | sync
  /-- Tries to put another runtime in the place of the one there is. -/
  | installAgain (config : Config)

structure Handler where
  label : String
  foreign : Bool
  rules : List Rule

structure Rule where
  condition : Condition
  steps : Option (List Step)
  reason : Option String

structure Step where
  name : String
  thread : ThreadId
  action : Action

end

mutual

/-- How many rules in the action can fire. -/
def Action.firings : Action → Nat
  | .onState _ _ h => h.firings
  | .onAdd h => h.firings
  | .onRemove h => h.firings
  | .foreignState _ _ (some h) => h.firings
  | .foreignAdd (some h) => h.firings
  | .foreignRemove (some h) => h.firings
  | _ => 0

def Handler.firings : Handler → Nat
  | ⟨_, _, rules⟩ => ruleFirings rules

def ruleFirings : List Rule → Nat
  | [] => 0
  | r :: rest => r.firings + ruleFirings rest

def Rule.firings : Rule → Nat
  | ⟨_, some steps, _⟩ => 1 + stepFirings steps
  | ⟨_, none, _⟩ => 0

def stepFirings : List Step → Nat
  | [] => 0
  | s :: rest => s.firings + stepFirings rest

def Step.firings : Step → Nat
  | ⟨_, _, action⟩ => action.firings

end

def Condition.holds (c : Condition) (images : List Seen) : Bool :=
  c.min ≤ images.length &&
    (c.addr.isNone && c.name.isNone ||
      images.any fun i => c.addr.all (· = i.addr) && c.name.all (· = i.name))

/-- The first rule that applies, and the rules that stay: one with steps does not. -/
def firstRule? (images : List Seen) : List Rule → Option (Rule × List Rule)
  | [] => none
  | r :: rest =>
    if r.condition.holds images then some (r, if r.steps.isSome then rest else r :: rest)
    else (firstRule? images rest).map fun (found, rest) => (found, r :: rest)

end ImageLoader.Scenario
