import ImageLoader.Lock.Mutex
/-! A value behind a mutex. The value is reached only between an acquisition and a release. -/

namespace ImageLoader

structure Guarded (α : Type) where
  lock : Mutex := {}
  value : α

namespace Guarded

variable {α β : Type}

def onLock {γ : Type} (x : LockAct Mutex γ) : LockAct (Guarded α) γ :=
  Gated.focus (·.lock) (fun g m => { g with lock := m }) x

def update (f : α → β × α) : LockAct (Guarded α) β := fun s =>
  let (b, v) := f s.lock.value
  .ok b { s with lock := { s.lock with value := v } }

/-- Runs `f` on the value with the lock held. -/
def withValue (id : LockId) (t : ThreadId) (f : α → β × α) : LockAct (Guarded α) β := do
  onLock (Mutex.lock id t)
  let b ← update f
  discard (onLock (Mutex.unlock id t))
  pure b

end Guarded

end ImageLoader
