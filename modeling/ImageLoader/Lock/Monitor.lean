import ImageLoader.Lock.Gated
/-! A mutex with a condition to wait for. A wait is two operations, `beginWait` and `endWait`; other
threads run between them. -/

namespace ImageLoader

structure Monitor where
  /-- Whether the native lock is held. -/
  busy : Bool := false
  owner : Option ThreadId := none
  deriving DecidableEq, Repr

namespace Monitor

def take? (t : ThreadId) (m : Monitor) : Option Monitor :=
  if m.busy then none else some ⟨true, some t⟩

def release? (t : ThreadId) (m : Monitor) : Option Monitor :=
  if m.owner = some t then some {} else none

def isLocked (m : Monitor) : Bool := m.owner.isSome

def enter (id : LockId) (t : ThreadId) : LockAct Monitor Unit :=
  Gated.blocking id .exclusive (take? t)

def tryEnter (id : LockId) (t : ThreadId) : LockAct Monitor Bool :=
  Gated.trying id .exclusive (take? t)

def exit (id : LockId) (t : ThreadId) : LockAct Monitor (Except LockError Unit) :=
  Gated.releasing id .monitor (release? t)

/-- Gives the monitor up and sleeps. Refused while the monitor is the debugger's: nobody could
notify. -/
def beginWait (id : LockId) (t : ThreadId) : LockAct Monitor (Except LockError Unit) := fun s =>
  if s.gate.governs id then .ok (.error (.waitDuringDebugger id.name)) s
  else match release? t s.lock with
    | some m => .ok (.ok ()) { s with lock := m }
    | none => .ok (.error (.notOwner .monitor id.name)) s

/-- Wakes and takes the monitor back, without asking the gate. -/
def endWait (id : LockId) (t : ThreadId) : LockAct Monitor Unit := fun s =>
  match take? t s.lock with
  | some m => .ok () { s with lock := m }
  | none => .error (.blocked id) s

/-- A whole wait, with what the other threads do meanwhile. -/
def wait (id : LockId) (t : ThreadId) (others : LockAct Monitor Unit) :
    LockAct Monitor (Except LockError Unit) := do
  match ← beginWait id t with
  | .error e => pure (.error e)
  | .ok () =>
    others
    endWait id t
    pure (.ok ())

def assertLocked (id : LockId) : LockAct Monitor Unit :=
  Gated.asserting isLocked (.notLocked .monitor id.name)

def assertUnlocked (id : LockId) : LockAct Monitor Unit :=
  Gated.asserting (!·.isLocked) (.locked .monitor id.name)

end Monitor

end ImageLoader
