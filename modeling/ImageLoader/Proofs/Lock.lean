import ImageLoader.Lock.Guarded
import ImageLoader.Lock.Monitor
import ImageLoader.Lock.Recursive
import ImageLoader.Lock.RwLock
import ImageLoader.Proofs.Gate
/-! What a call on a lock can do. The gate answers afterwards as it did before, and while it governs the
lock the native half is left alone. Read-write locks and mutexes stay tidy: one that is free has neither
owner nor mode. -/

namespace ImageLoader

open Act

variable {L α β : Type}

/-- A call on a lock of any kind. A lock that has no modes is taken and freed as a whole, and a call that
its kind does not have does nothing. -/
inductive LockCall
  | acquire (mode : RwMode)
  | tryAcquire (mode : RwMode)
  | release (mode : RwMode)
  | assertLocked
  | assertUnlocked
  | assertReading
  | assertWriting
  | init
  | beginWait
  | endWait
  deriving DecidableEq, Repr

namespace LockCall

def onRwLock (id : LockId) (t : ThreadId) : LockCall → LockAct RwLock Unit
  | .acquire mode => RwLock.acquire id t mode
  | .tryAcquire mode => discard (RwLock.tryAcquire id t mode)
  | .release mode => discard (RwLock.unlock id t mode)
  | .assertLocked => RwLock.assertLocked id
  | .assertUnlocked => RwLock.assertUnlocked id
  | .assertReading => RwLock.assertReading id
  | .assertWriting => RwLock.assertWriting id
  | _ => pure ()

def onMutex (id : LockId) (t : ThreadId) : LockCall → LockAct Mutex Unit
  | .acquire _ => Mutex.lock id t
  | .tryAcquire _ => discard (Mutex.tryLock id t)
  | .release _ => discard (Mutex.unlock id t)
  | .assertLocked => Mutex.assertLocked id
  | .assertUnlocked => Mutex.assertUnlocked id
  | _ => pure ()

def onRecursive (id : LockId) (t : ThreadId) : LockCall → LockAct RecursiveMutex Unit
  | .acquire _ => RecursiveMutex.lock id t
  | .tryAcquire _ => discard (RecursiveMutex.tryLock id t)
  | .release _ => discard (RecursiveMutex.unlock id t)
  | .assertLocked => RecursiveMutex.assertLocked id
  | .assertUnlocked => RecursiveMutex.assertUnlocked id
  | .init => modify fun s => { s with lock := s.lock.init }
  | _ => pure ()

def onMonitor (id : LockId) (t : ThreadId) : LockCall → LockAct Monitor Unit
  | .acquire _ => Monitor.enter id t
  | .tryAcquire _ => discard (Monitor.tryEnter id t)
  | .release _ => discard (Monitor.exit id t)
  | .assertLocked => Monitor.assertLocked id
  | .assertUnlocked => Monitor.assertUnlocked id
  | .beginWait => discard (Monitor.beginWait id t)
  | .endWait => Monitor.endWait id t
  | _ => pure ()

def acquires : LockCall → Bool
  | .acquire _ => true
  | .tryAcquire _ => true
  | _ => false

end LockCall

namespace Gated

variable {id : LockId} {need : Hold} {take : L → Option L}

theorem endState_blocking (s : Gated L) :
    endState (blocking id need take) s =
      ⟨s.gate.asked id need,
        if s.gate.governs id then s.lock else (take s.lock).getD s.lock⟩ := by
  unfold endState blocking
  by_cases h : s.gate.governs id
  · rcases Gate.acquire_governed h need with e | ⟨cause, e⟩ <;> simp only [e, h, if_true]
  · rw [Bool.not_eq_true] at h
    rw [Gate.asked, endState, Gate.acquire_native h]
    cases e : take s.lock <;> simp [h]

theorem endState_trying (s : Gated L) :
    endState (trying id need take) s =
      ⟨s.gate.asked id need,
        if s.gate.governs id then s.lock else (take s.lock).getD s.lock⟩ := by
  unfold endState trying
  by_cases h : s.gate.governs id
  · rcases Gate.acquire_governed h need with e | ⟨cause, e⟩ <;> simp only [e, h, if_true]
  · rw [Bool.not_eq_true] at h
    rw [Gate.asked, endState, Gate.acquire_native h]
    cases e : take s.lock <;> simp [h]

theorem endState_releasing {kind : LockKind} {release : L → Option L} (s : Gated L) :
    endState (releasing id kind release) s =
      ⟨(Gate.release id s.gate).2,
        if s.gate.governs id then s.lock else (release s.lock).getD s.lock⟩ := by
  unfold endState releasing
  by_cases h : s.gate.governs id
  · simp only [Gate.release_governed h, h, if_true]
  · rw [Bool.not_eq_true] at h
    rw [Gate.release_native h]
    cases e : release s.lock <;> simp [h]

theorem endState_asserting {expected : L → Bool} {e : FatalError} (s : Gated L) :
    endState (asserting expected e) s = s := by
  rw [endState, asserting]
  by_cases h : s.gate.config.lockAssertions && !expected s.lock
  · rw [if_pos h]
  · rw [if_neg h]

end Gated

/-- The gate answers after the action as before it. -/
def KeepsGate (x : LockAct L α) : Prop := ∀ s, Gate.Agrees s.gate (endState x s).gate

/-- The action goes through the gate, and natively it keeps locks tidy. -/
structure Obeys (id : LockId) (Tidy : L → Prop) (x : LockAct L α) : Prop where
  gate : KeepsGate x
  governed : ∀ s, s.gate.governs id → (endState x s).lock = s.lock
  tidy : ∀ s, Tidy s.lock → Tidy (endState x s).lock

section

variable {id : LockId} {need : Hold} {take : L → Option L} {Tidy : L → Prop}

theorem KeepsGate.discard {x : LockAct L α} (h : KeepsGate x) :
    KeepsGate (discard x : LockAct L Unit) := by
  intro s
  rw [endState_discard]
  exact h s

theorem Obeys.discard {x : LockAct L α} (h : Obeys id Tidy x) :
    Obeys id Tidy (discard x : LockAct L Unit) where
  gate := h.gate.discard
  governed s hs := by
    rw [endState_discard]
    exact h.governed s hs
  tidy s hs := by
    rw [endState_discard]
    exact h.tidy s hs

theorem keepsGate_blocking : KeepsGate (Gated.blocking id need take) := by
  intro s
  rw [Gated.endState_blocking]
  exact (s.gate.asked_spec id need).1

theorem keepsGate_trying : KeepsGate (Gated.trying id need take) := by
  intro s
  rw [Gated.endState_trying]
  exact (s.gate.asked_spec id need).1

theorem keepsGate_releasing {kind : LockKind} {release : L → Option L} :
    KeepsGate (Gated.releasing id kind release) := by
  intro s
  rw [Gated.endState_releasing]
  unfold Gate.release
  split
  · exact s.gate.agrees_countSkip
  · exact .refl _

theorem keepsGate_asserting (expected : L → Bool) (e : FatalError) :
    KeepsGate (Gated.asserting expected e) := by
  intro s
  rw [Gated.endState_asserting]
  exact .refl _

theorem obeys_pure (a : α) : Obeys id Tidy (pure a : LockAct L α) :=
  ⟨fun _ => .refl _, fun _ _ => rfl, fun _ h => h⟩

/-- An action that does to an ungoverned lock what `native` does, where it can. -/
theorem obeys_of_native {x : LockAct L α} {native : L → Option L} (gate : KeepsGate x)
    (keeps : ∀ l l', Tidy l → native l = some l' → Tidy l')
    (lock : ∀ s, (endState x s).lock =
      if s.gate.governs id then s.lock else (native s.lock).getD s.lock) : Obeys id Tidy x := by
  refine ⟨gate, fun s governs => ?_, fun s tidy => ?_⟩
  · rw [lock, if_pos governs]
  · rw [lock]
    split
    · exact tidy
    · cases e : native s.lock with
      | none => exact tidy
      | some l => exact keeps s.lock l tidy e

theorem obeys_blocking (keeps : ∀ l l', Tidy l → take l = some l' → Tidy l') :
    Obeys id Tidy (Gated.blocking id need take) :=
  obeys_of_native keepsGate_blocking keeps fun s => congrArg Gated.lock (Gated.endState_blocking s)

theorem obeys_trying (keeps : ∀ l l', Tidy l → take l = some l' → Tidy l') :
    Obeys id Tidy (Gated.trying id need take) :=
  obeys_of_native keepsGate_trying keeps fun s => congrArg Gated.lock (Gated.endState_trying s)

theorem obeys_releasing {kind : LockKind} {release : L → Option L}
    (keeps : ∀ l l', Tidy l → release l = some l' → Tidy l') :
    Obeys id Tidy (Gated.releasing id kind release) :=
  obeys_of_native keepsGate_releasing keeps fun s => congrArg Gated.lock (Gated.endState_releasing s)

theorem obeys_asserting (expected : L → Bool) (e : FatalError) :
    Obeys id Tidy (Gated.asserting expected e) := by
  refine ⟨keepsGate_asserting _ _, fun s _ => ?_, fun s h => ?_⟩ <;> rw [Gated.endState_asserting]
  exact h

end

/-- A free lock has no owner and no mode. -/
def RwLock.Tidy (l : RwLock) : Prop := l.busy = false → l = {}

def Mutex.Tidy (m : Mutex) : Prop := m.busy = false → m = {}

theorem RwLock.tidy_take {t : ThreadId} {mode : RwMode} (l l' : RwLock) (_ : l.Tidy)
    (h : take? t mode l = some l') : l'.Tidy := by
  unfold take? at h
  split at h
  · cases h
  · cases h
    intro free
    cases free

theorem RwLock.tidy_release {t : ThreadId} {mode : RwMode} (l l' : RwLock) (_ : l.Tidy)
    (h : release? t mode l = some l') : l'.Tidy := by
  unfold release? at h
  split at h
  · cases h
    exact fun _ => rfl
  · cases h

theorem Mutex.tidy_take {t : ThreadId} (m m' : Mutex) (_ : m.Tidy) (h : take? t m = some m') :
    m'.Tidy := by
  unfold take? at h
  split at h
  · cases h
  · cases h
    intro free
    cases free

theorem Mutex.tidy_release {t : ThreadId} (m m' : Mutex) (_ : m.Tidy) (h : release? t m = some m') :
    m'.Tidy := by
  unfold release? at h
  split at h
  · cases h
    exact fun _ => rfl
  · cases h

namespace LockCall

theorem obeys_onRwLock (id : LockId) (t : ThreadId) (call : LockCall) :
    Obeys id RwLock.Tidy (call.onRwLock id t) := by
  cases call with
  | acquire mode => exact obeys_blocking RwLock.tidy_take
  | tryAcquire mode => exact (obeys_trying RwLock.tidy_take).discard
  | release mode => exact (obeys_releasing RwLock.tidy_release).discard
  | assertLocked => exact obeys_asserting _ _
  | assertUnlocked => exact obeys_asserting (fun l : RwLock => !l.isLocked) _
  | assertReading => exact obeys_asserting (fun l : RwLock => l.mode = some .read) _
  | assertWriting => exact obeys_asserting (fun l : RwLock => l.mode = some .write) _
  | _ => exact obeys_pure ()

theorem obeys_onMutex (id : LockId) (t : ThreadId) (call : LockCall) :
    Obeys id Mutex.Tidy (call.onMutex id t) := by
  cases call with
  | acquire mode => exact obeys_blocking Mutex.tidy_take
  | tryAcquire mode => exact (obeys_trying Mutex.tidy_take).discard
  | release mode => exact (obeys_releasing Mutex.tidy_release).discard
  | assertLocked => exact obeys_asserting _ _
  | assertUnlocked => exact obeys_asserting (fun m : Mutex => !m.isLocked) _
  | _ => exact obeys_pure ()

theorem asked_onRwLock {id : LockId} (t : ThreadId) {call : LockCall} (h : call.acquires) :
    ∃ need, ∀ s, (endState (call.onRwLock id t) s).gate = s.gate.asked id need := by
  cases call with
  | acquire mode => exact ⟨.ofMode mode, fun s => congrArg Gated.gate (Gated.endState_blocking s)⟩
  | tryAcquire mode =>
    refine ⟨.ofMode mode, fun s => ?_⟩
    rw [onRwLock, endState_discard]
    exact congrArg Gated.gate (Gated.endState_trying s)
  | _ => cases h

theorem asked_onMutex {id : LockId} (t : ThreadId) {call : LockCall} (h : call.acquires) :
    ∃ need, ∀ s, (endState (call.onMutex id t) s).gate = s.gate.asked id need := by
  cases call with
  | acquire mode => exact ⟨.exclusive, fun s => congrArg Gated.gate (Gated.endState_blocking s)⟩
  | tryAcquire mode =>
    refine ⟨.exclusive, fun s => ?_⟩
    rw [onMutex, endState_discard]
    exact congrArg Gated.gate (Gated.endState_trying s)
  | _ => cases h

theorem keepsGate_usable {id : LockId} {x : LockAct RecursiveMutex α} (h : KeepsGate x) :
    KeepsGate (RecursiveMutex.usable id x) := by
  intro s
  have stays := h s
  rw [endState] at stays ⊢
  rw [RecursiveMutex.usable]
  by_cases usable : s.lock.isInitialized
  · rw [if_pos usable]
    exact stays
  · rw [if_neg usable]
    exact .refl _

theorem keepsGate_onRecursive (id : LockId) (t : ThreadId) (call : LockCall) :
    KeepsGate (call.onRecursive id t) := by
  cases call with
  | acquire mode => exact keepsGate_usable keepsGate_blocking
  | tryAcquire mode => exact (keepsGate_usable keepsGate_trying).discard
  | release mode => exact (keepsGate_usable keepsGate_releasing).discard
  | assertLocked => exact keepsGate_usable (keepsGate_asserting _ _)
  | assertUnlocked => exact keepsGate_usable (keepsGate_asserting (fun m : RecursiveMutex => !m.isLocked) _)
  | _ => exact fun s => .refl _

theorem keepsGate_beginWait (id : LockId) (t : ThreadId) : KeepsGate (Monitor.beginWait id t) := by
  intro s
  rw [endState, Monitor.beginWait]
  by_cases h : s.gate.governs id
  · rw [if_pos h]
    exact .refl _
  · rw [if_neg h]
    cases Monitor.release? t s.lock <;> exact .refl _

theorem keepsGate_endWait (id : LockId) (t : ThreadId) : KeepsGate (Monitor.endWait id t) := by
  intro s
  rw [endState, Monitor.endWait]
  cases Monitor.take? t s.lock <;> exact .refl _

theorem keepsGate_onMonitor (id : LockId) (t : ThreadId) (call : LockCall) :
    KeepsGate (call.onMonitor id t) := by
  cases call with
  | acquire mode => exact keepsGate_blocking
  | tryAcquire mode => exact keepsGate_trying.discard
  | release mode => exact keepsGate_releasing.discard
  | assertLocked => exact keepsGate_asserting _ _
  | assertUnlocked => exact keepsGate_asserting (fun m : Monitor => !m.isLocked) _
  | beginWait => exact (keepsGate_beginWait id t).discard
  | endWait => exact keepsGate_endWait id t
  | _ => exact fun s => .refl _

end LockCall

end ImageLoader
