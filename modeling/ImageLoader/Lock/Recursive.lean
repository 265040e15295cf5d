import ImageLoader.Lock.Gated
/-! Mutual exclusion that the owner may enter again. Such a lock can be declared before its native
lock exists; until then every use of it is fatal, before the gate is asked. -/

namespace ImageLoader

/-- A native lock that counts how often its holder took it. -/
structure Recursion where
  holder : Option ThreadId := none
  count : Nat := 0
  deriving DecidableEq, Repr

namespace Recursion

def take? (t : ThreadId) (r : Recursion) : Option Recursion :=
  if r.holder = none ∨ r.holder = some t then some ⟨some t, r.count + 1⟩ else none

def release (r : Recursion) : Recursion :=
  if r.count ≤ 1 then {} else { r with count := r.count - 1 }

end Recursion

structure RecursiveMutex where
  native : Option Recursion := none
  owner : Option ThreadId := none
  depth : Nat := 0
  deriving DecidableEq, Repr

namespace RecursiveMutex

/-- A lock without its native half. -/
def declared : RecursiveMutex := {}

def new : RecursiveMutex := { native := some {} }

/-- Creates the native lock, once. -/
def init (m : RecursiveMutex) : RecursiveMutex := { m with native := some (m.native.getD {}) }

def isInitialized (m : RecursiveMutex) : Bool := m.native.isSome

def isLocked (m : RecursiveMutex) : Bool := m.owner.isSome

def noteAcquired (t : ThreadId) (m : RecursiveMutex) : RecursiveMutex :=
  if m.owner = some t then { m with depth := m.depth + 1 }
  else { m with owner := some t, depth := 1 }

def take? (t : ThreadId) (m : RecursiveMutex) : Option RecursiveMutex := do
  let n ← m.native
  let n ← n.take? t
  some ({ m with native := some n }.noteAcquired t)

def release? (t : ThreadId) (m : RecursiveMutex) : Option RecursiveMutex :=
  if m.owner = some t then
    some
      { native := m.native.map Recursion.release
        owner := if m.depth = 1 then none else m.owner
        depth := m.depth - 1 }
  else none

/-- Refuses a lock that has no native half yet. -/
def usable {α : Type} (id : LockId) (x : LockAct RecursiveMutex α) : LockAct RecursiveMutex α :=
  fun s =>
    if s.lock.isInitialized then x s
    else .error (.fatal (.uninitialized .recursiveMutex id.name)) s

def lock (id : LockId) (t : ThreadId) : LockAct RecursiveMutex Unit :=
  usable id (Gated.blocking id .exclusive (take? t))

def tryLock (id : LockId) (t : ThreadId) : LockAct RecursiveMutex Bool :=
  usable id (Gated.trying id .exclusive (take? t))

def unlock (id : LockId) (t : ThreadId) : LockAct RecursiveMutex (Except LockError Unit) :=
  usable id (Gated.releasing id .recursiveMutex (release? t))

def assertLocked (id : LockId) : LockAct RecursiveMutex Unit :=
  usable id (Gated.asserting isLocked (.notLocked .recursiveMutex id.name))

def assertUnlocked (id : LockId) : LockAct RecursiveMutex Unit :=
  usable id (Gated.asserting (!·.isLocked) (.locked .recursiveMutex id.name))

end RecursiveMutex

end ImageLoader
