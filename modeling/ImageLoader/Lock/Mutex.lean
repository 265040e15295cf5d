import ImageLoader.Lock.Gated
/-! Mutual exclusion. The owner is recorded beside the native lock, so that a release by another
thread is an error and changes nothing. -/

namespace ImageLoader

structure Mutex where
  /-- Whether the native lock is held. -/
  busy : Bool := false
  owner : Option ThreadId := none
  deriving DecidableEq, Repr

namespace Mutex

/-- Takes the native lock, past the gate; `none` where it is held. -/
def take? (t : ThreadId) (m : Mutex) : Option Mutex := if m.busy then none else some ⟨true, some t⟩

/-- Frees the native lock, past the gate, whoever holds it. -/
def free (_ : Mutex) : Mutex := ⟨false, none⟩

def release? (t : ThreadId) (m : Mutex) : Option Mutex :=
  if m.owner = some t then some m.free else none

def isLocked (m : Mutex) : Bool := m.owner.isSome

def lock (id : LockId) (t : ThreadId) : LockAct Mutex Unit :=
  Gated.blocking id .exclusive (take? t)

def tryLock (id : LockId) (t : ThreadId) : LockAct Mutex Bool := Gated.trying id .exclusive (take? t)

def unlock (id : LockId) (t : ThreadId) : LockAct Mutex (Except LockError Unit) :=
  Gated.releasing id .mutex (release? t)

def assertLocked (id : LockId) : LockAct Mutex Unit :=
  Gated.asserting isLocked (.notLocked .mutex id.name)

def assertUnlocked (id : LockId) : LockAct Mutex Unit :=
  Gated.asserting (!·.isLocked) (.locked .mutex id.name)

end Mutex

end ImageLoader
