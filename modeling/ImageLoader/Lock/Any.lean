import ImageLoader.Describe
/-! A lock of any kind, and what can be done to it whatever its kind. -/

namespace ImageLoader

inductive AnyLock
  | mutex (m : Mutex)
  | recursive (m : RecursiveMutex)
  | monitor (m : Monitor)
  | rwLock (l : RwLock)
  | guarded (g : Guarded Int64)

namespace AnyLock

def inside {L α : Type} (wrap : L → AnyLock) (lock : L) (x : LockAct L α) : LockAct AnyLock α :=
  Gated.focus (fun _ => lock) (fun _ => wrap) x

def isLocked : AnyLock → Bool
  | .mutex m => m.isLocked
  | .recursive m => m.isLocked
  | .monitor m => m.isLocked
  | .rwLock l => l.isLocked
  | .guarded g => g.lock.isLocked

/-- How the lock is listed among those held: a read-write lock with its mode, a recursive one with
its depth. -/
def heldText? (id : LockId) (l : AnyLock) : Option String :=
  if l.isLocked then
    some <| match l with
      | .recursive m => s!"{id.name}*{m.depth}"
      | .rwLock ⟨_, _, some mode⟩ => s!"{id.name}:{mode.label}"
      | _ => id.name
  else none

def describe (id : LockId) : AnyLock → String
  | .mutex m => m.describe id
  | .recursive m => m.describe id
  | .monitor m => m.describe id
  | .rwLock l => l.describe id
  | .guarded g => g.describe id

/-- Acquires in `mode` a lock that has modes, and any other as a whole. -/
def acquire (id : LockId) (t : ThreadId) (mode : RwMode) : LockAct AnyLock Unit := fun s =>
  match s.lock with
  | .mutex m => inside .mutex m (Mutex.lock id t) s
  | .recursive m => inside .recursive m (RecursiveMutex.lock id t) s
  | .monitor m => inside .monitor m (Monitor.enter id t) s
  | .rwLock l => inside .rwLock l (RwLock.acquire id t mode) s
  | .guarded g => inside .guarded g (Guarded.onLock (Mutex.lock id t)) s

def release (id : LockId) (t : ThreadId) (mode : RwMode) :
    LockAct AnyLock (Except LockError Unit) := fun s =>
  match s.lock with
  | .mutex m => inside .mutex m (Mutex.unlock id t) s
  | .recursive m => inside .recursive m (RecursiveMutex.unlock id t) s
  | .monitor m => inside .monitor m (Monitor.exit id t) s
  | .rwLock l => inside .rwLock l (RwLock.unlock id t mode) s
  | .guarded g => inside .guarded g (Guarded.onLock (Mutex.unlock id t)) s

def assertLocked (id : LockId) : LockAct AnyLock Unit := fun s =>
  match s.lock with
  | .mutex m => inside .mutex m (Mutex.assertLocked id) s
  | .recursive m => inside .recursive m (RecursiveMutex.assertLocked id) s
  | .monitor m => inside .monitor m (Monitor.assertLocked id) s
  | .rwLock l => inside .rwLock l (RwLock.assertLocked id) s
  | .guarded g => inside .guarded g (Guarded.onLock (Mutex.assertLocked id)) s

def assertUnlocked (id : LockId) : LockAct AnyLock Unit := fun s =>
  match s.lock with
  | .mutex m => inside .mutex m (Mutex.assertUnlocked id) s
  | .recursive m => inside .recursive m (RecursiveMutex.assertUnlocked id) s
  | .monitor m => inside .monitor m (Monitor.assertUnlocked id) s
  | .rwLock l => inside .rwLock l (RwLock.assertUnlocked id) s
  | .guarded g => inside .guarded g (Guarded.onLock (Mutex.assertUnlocked id)) s

end AnyLock

end ImageLoader
