import ImageLoader.Lock.Gated
/-! Read and write locking over one native lock: readers exclude each other too. A release must name
the mode in which the lock is held. -/

namespace ImageLoader

structure RwLock where
  /-- Whether the native lock is held. -/
  busy : Bool := false
  owner : Option ThreadId := none
  mode : Option RwMode := none
  deriving DecidableEq, Repr

namespace RwLock

/-- Takes the native lock, past the gate; `none` where it is held. -/
def take? (t : ThreadId) (mode : RwMode) (l : RwLock) : Option RwLock :=
  if l.busy then none else some ⟨true, some t, some mode⟩

/-- Frees the native lock, past the gate, whoever holds it. -/
def free (_ : RwLock) : RwLock := {}

def release? (t : ThreadId) (mode : RwMode) (l : RwLock) : Option RwLock :=
  if l.owner = some t ∧ l.mode = some mode then some l.free else none

def isLocked (l : RwLock) : Bool := l.mode.isSome

def acquire (id : LockId) (t : ThreadId) (mode : RwMode) : LockAct RwLock Unit :=
  Gated.blocking id (.ofMode mode) (take? t mode)

def tryAcquire (id : LockId) (t : ThreadId) (mode : RwMode) : LockAct RwLock Bool :=
  Gated.trying id (.ofMode mode) (take? t mode)

def unlock (id : LockId) (t : ThreadId) (mode : RwMode) : LockAct RwLock (Except LockError Unit) :=
  Gated.releasing id .rwLock (release? t mode)

def assertLocked (id : LockId) : LockAct RwLock Unit :=
  Gated.asserting isLocked (.notLocked .rwLock id.name)

def assertUnlocked (id : LockId) : LockAct RwLock Unit :=
  Gated.asserting (!·.isLocked) (.locked .rwLock id.name)

def assertReading (id : LockId) : LockAct RwLock Unit :=
  Gated.asserting (·.mode = some .read) (.notReading id.name)

def assertWriting (id : LockId) : LockAct RwLock Unit :=
  Gated.asserting (·.mode = some .write) (.notWriting id.name)

end RwLock

end ImageLoader
