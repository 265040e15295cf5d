import ImageLoader.Proofs.Lock
/-! The four kinds of lock as one: what each keeps beside its native lock, how it is natively taken and
released, and what a caller is told. A call changes a lock only by taking or releasing it natively, and
then the caller is told so. -/

namespace ImageLoader

open Act

/-- What a thread has done to a native lock, or that a session's end has freed it. -/
inductive Deal
  | took (t : ThreadId)
  | gave (t : ThreadId)
  | freed
  deriving DecidableEq, Repr

/-- What a call does to the native lock, if its caller is told that it was `done`. While the gate governs
the lock, acquisitions and releases leave the native lock alone; a wait that is begun ends all the same. -/
def LockCall.deals (t : ThreadId) (governed done : Bool) : LockCall → List Deal
  | .acquire _ => if done && !governed then [.took t] else []
  | .tryAcquire _ => if done && !governed then [.took t] else []
  | .release _ => if done && !governed then [.gave t] else []
  | .beginWait => if done then [.gave t] else []
  | .endWait => if done then [.took t] else []
  | _ => []

def LockCall.asserts : LockCall → Bool
  | .assertLocked => true
  | .assertUnlocked => true
  | .assertReading => true
  | .assertWriting => true
  | _ => false

/-- The holder of the native lock is the owner that is recorded, and takes it once more. -/
theorem RecursiveMutex.take?_eq_some {t : ThreadId} {owner : Option ThreadId} {n : Nat}
    {m : RecursiveMutex} (unowned : n = 0 ↔ owner = none)
    (h : take? t ⟨some ⟨owner, n⟩, owner, n⟩ = some m) :
    (owner = none ∨ owner = some t) ∧ m = ⟨some ⟨some t, n + 1⟩, some t, n + 1⟩ := by
  by_cases free : owner = none ∨ owner = some t
  · refine ⟨free, ?_⟩
    simp only [take?, Recursion.take?, free, if_true, Option.bind_eq_bind, Option.bind_some] at h
    obtain rfl := Option.some.inj h
    rcases free with rfl | rfl
    · obtain rfl := unowned.2 rfl
      rfl
    · exact if_pos rfl
  · simp [take?, Recursion.take?, free] at h

theorem RecursiveMutex.release?_eq_some {t : ThreadId} {owner : Option ThreadId} {n : Nat}
    {m : RecursiveMutex} (unowned : n = 0 ↔ owner = none)
    (h : release? t ⟨some ⟨owner, n⟩, owner, n⟩ = some m) :
    owner = some t ∧ (n = 1 ∧ m = .new ∨
      ∃ j, n = j + 2 ∧ m = ⟨some ⟨some t, j + 1⟩, some t, j + 1⟩) := by
  obtain ⟨rfl, released⟩ := Option.ite_none_right_eq_some.1 h
  obtain rfl := Option.some.inj released
  refine ⟨rfl, ?_⟩
  match n with
  | 0 => cases unowned.1 rfl
  | 1 => exact .inl ⟨rfl, rfl⟩
  | j + 2 => exact .inr ⟨j, rfl, by simp [Recursion.release]⟩

namespace LockKind

def State : LockKind → Type
  | .mutex => Mutex
  | .recursiveMutex => RecursiveMutex
  | .monitor => Monitor
  | .rwLock => RwLock

/-- A lock that nobody has used yet; a recursive one has been initialized. -/
def fresh : (k : LockKind) → k.State
  | .mutex => ({} : Mutex)
  | .recursiveMutex => RecursiveMutex.new
  | .monitor => ({} : Monitor)
  | .rwLock => ({} : RwLock)

def owner : (k : LockKind) → k.State → Option ThreadId
  | .mutex, l => Mutex.owner l
  | .recursiveMutex, l => RecursiveMutex.owner l
  | .monitor, l => Monitor.owner l
  | .rwLock, l => RwLock.owner l

def count : (k : LockKind) → k.State → Nat
  | .mutex, l => (Mutex.busy l).toNat
  | .recursiveMutex, l => ((RecursiveMutex.native l).map (·.count)).getD 0
  | .monitor, l => (Monitor.busy l).toNat
  | .rwLock, l => (RwLock.busy l).toNat

/-- What is kept beside the native lock agrees with it. -/
def Bookkept : (k : LockKind) → k.State → Prop
  | .mutex, l => (Mutex.owner l).isSome = Mutex.busy l
  | .recursiveMutex, l => ∃ n, RecursiveMutex.native l = some n ∧ n.holder = RecursiveMutex.owner l ∧
      n.count = RecursiveMutex.depth l ∧
      (RecursiveMutex.depth l = 0 ↔ RecursiveMutex.owner l = none)
  | .monitor, l => (Monitor.owner l).isSome = Monitor.busy l
  | .rwLock, l => (RwLock.owner l).isSome = RwLock.busy l ∧
      (RwLock.mode l).isSome = (RwLock.owner l).isSome

def take? (t : ThreadId) (mode : RwMode) : (k : LockKind) → k.State → Option k.State
  | .mutex, l => Mutex.take? t l
  | .recursiveMutex, l => RecursiveMutex.take? t l
  | .monitor, l => Monitor.take? t l
  | .rwLock, l => RwLock.take? t mode l

def release? (t : ThreadId) (mode : RwMode) : (k : LockKind) → k.State → Option k.State
  | .mutex, l => Mutex.release? t l
  | .recursiveMutex, l => RecursiveMutex.release? t l
  | .monitor, l => Monitor.release? t l
  | .rwLock, l => RwLock.release? t mode l

/-- A call with what its caller is told: whether the lock was acquired or released. -/
def call (id : LockId) (t : ThreadId) : (k : LockKind) → LockCall → LockAct k.State Bool
  | .mutex, .acquire _ => (fun _ => true) <$> Mutex.lock id t
  | .mutex, .tryAcquire _ => Mutex.tryLock id t
  | .mutex, .release _ => Except.isOk <$> Mutex.unlock id t
  | .mutex, c => (fun _ => false) <$> c.onMutex id t
  | .recursiveMutex, .acquire _ => (fun _ => true) <$> RecursiveMutex.lock id t
  | .recursiveMutex, .tryAcquire _ => RecursiveMutex.tryLock id t
  | .recursiveMutex, .release _ => Except.isOk <$> RecursiveMutex.unlock id t
  | .recursiveMutex, c => (fun _ => false) <$> c.onRecursive id t
  | .monitor, .acquire _ => (fun _ => true) <$> Monitor.enter id t
  | .monitor, .tryAcquire _ => Monitor.tryEnter id t
  | .monitor, .release _ => Except.isOk <$> Monitor.exit id t
  | .monitor, .beginWait => Except.isOk <$> Monitor.beginWait id t
  | .monitor, .endWait => (fun _ => true) <$> Monitor.endWait id t
  | .monitor, c => (fun _ => false) <$> c.onMonitor id t
  | .rwLock, .acquire mode => (fun _ => true) <$> RwLock.acquire id t mode
  | .rwLock, .tryAcquire mode => RwLock.tryAcquire id t mode
  | .rwLock, .release mode => Except.isOk <$> RwLock.unlock id t mode
  | .rwLock, c => (fun _ => false) <$> c.onRwLock id t

def deals (k : LockKind) (id : LockId) (t : ThreadId) (c : LockCall) (s : Gated k.State) : List Deal :=
  c.deals t (s.gate.governs id) (affirms (k.call id t c) s)

section

variable {k : LockKind} {t t' : ThreadId} {mode : RwMode} {l l' : k.State}

theorem bookkept_fresh (k : LockKind) : k.Bookkept k.fresh := by
  cases k with
  | mutex => rfl
  | recursiveMutex => exact ⟨{}, rfl, rfl, rfl, by decide⟩
  | monitor => rfl
  | rwLock => exact ⟨rfl, rfl⟩

theorem count_eq_zero_iff (kept : k.Bookkept l) : k.count l = 0 ↔ k.owner l = none := by
  cases k with
  | mutex =>
    obtain ⟨busy, owner⟩ := l
    obtain rfl : owner.isSome = busy := kept
    cases owner <;> simp [count, LockKind.owner]
  | recursiveMutex =>
    obtain ⟨native, owner, depth⟩ := l
    obtain ⟨n, rfl, -, rfl, unowned⟩ := kept
    exact unowned
  | monitor =>
    obtain ⟨busy, owner⟩ := l
    obtain rfl : owner.isSome = busy := kept
    cases owner <;> simp [count, LockKind.owner]
  | rwLock =>
    obtain ⟨busy, owner, held⟩ := l
    obtain rfl : owner.isSome = busy := kept.1
    cases owner <;> simp [count, LockKind.owner]

/-- A native acquisition is of a free lock, or by the owner of a recursive one. -/
theorem take?_spec (kept : k.Bookkept l) (h : k.take? t mode l = some l') :
    k.Bookkept l' ∧ k.owner l' = some t ∧ k.count l' = k.count l + 1 ∧
      (k.owner l = none ∨ k.owner l = some t) := by
  cases k with
  | mutex =>
    obtain ⟨busy, owner⟩ := l
    obtain rfl : owner.isSome = busy := kept
    cases owner with
    | none =>
      cases h
      exact ⟨rfl, rfl, rfl, .inl rfl⟩
    | some u => cases h
  | recursiveMutex =>
    obtain ⟨native, owner, depth⟩ := l
    obtain ⟨⟨holder, n⟩, rfl, rfl, rfl, unowned⟩ := kept
    obtain ⟨free, rfl⟩ := RecursiveMutex.take?_eq_some unowned h
    refine ⟨⟨_, rfl, rfl, rfl, by simp⟩, rfl, rfl, free⟩
  | monitor =>
    obtain ⟨busy, owner⟩ := l
    obtain rfl : owner.isSome = busy := kept
    cases owner with
    | none =>
      cases h
      exact ⟨rfl, rfl, rfl, .inl rfl⟩
    | some u => cases h
  | rwLock =>
    obtain ⟨busy, owner, held⟩ := l
    obtain rfl : owner.isSome = busy := kept.1
    cases owner with
    | none =>
      cases h
      exact ⟨⟨rfl, rfl⟩, rfl, rfl, .inl rfl⟩
    | some u => cases h

theorem release?_spec (kept : k.Bookkept l) (h : k.release? t mode l = some l') :
    k.Bookkept l' ∧ k.owner l = some t ∧ k.count l = k.count l' + 1 ∧
      (k.owner l' = if k.count l' = 0 then none else some t) := by
  cases k with
  | mutex =>
    obtain ⟨busy, owner⟩ := l
    obtain rfl : owner.isSome = busy := kept
    obtain ⟨rfl, released⟩ := Option.ite_none_right_eq_some.1 h
    cases released
    exact ⟨rfl, rfl, rfl, rfl⟩
  | recursiveMutex =>
    obtain ⟨native, owner, depth⟩ := l
    obtain ⟨⟨holder, n⟩, rfl, rfl, rfl, unowned⟩ := kept
    obtain ⟨rfl, ⟨rfl, rfl⟩ | ⟨j, rfl, rfl⟩⟩ := RecursiveMutex.release?_eq_some unowned h
    · exact ⟨⟨{}, rfl, rfl, rfl, by decide⟩, rfl, rfl, rfl⟩
    · exact ⟨⟨_, rfl, rfl, rfl, by simp⟩, rfl, rfl, rfl⟩
  | monitor =>
    obtain ⟨busy, owner⟩ := l
    obtain rfl : owner.isSome = busy := kept
    obtain ⟨rfl, released⟩ := Option.ite_none_right_eq_some.1 h
    cases released
    exact ⟨rfl, rfl, rfl, rfl⟩
  | rwLock =>
    obtain ⟨busy, owner, held⟩ := l
    obtain rfl : owner.isSome = busy := kept.1
    obtain ⟨⟨rfl, rfl⟩, released⟩ := Option.ite_none_right_eq_some.1 h
    cases released
    exact ⟨⟨rfl, rfl⟩, rfl, rfl, rfl⟩

theorem take?_eq_none (kept : k.Bookkept l) (held : k.owner l = some t) (other : t' ≠ t) :
    k.take? t' mode l = none := by
  rw [Option.eq_none_iff_forall_ne_some]
  intro l' h
  rcases (take?_spec kept h).2.2.2 with free | own
  · cases held.symm.trans free
  · exact other (Option.some.inj (own.symm.trans held))

end

end LockKind

section

variable {L : Type} {id : LockId} {need : Hold} {native : L → Option L} {x : LockAct L Bool} {s : Gated L}

namespace Gated

theorem blocking_native (h : s.gate.governs id = false) :
    blocking id need native s = match native s.lock with
      | some l => .ok () { s with lock := l }
      | none => .error (.blocked id) s := by
  cases taken : native s.lock <;> simp [blocking, Gate.acquire_native h, taken]

theorem trying_native (h : s.gate.governs id = false) :
    trying id need native s = match native s.lock with
      | some l => .ok true { s with lock := l }
      | none => .ok false s := by
  cases taken : native s.lock <;> simp [trying, Gate.acquire_native h, taken]

theorem releasing_native {kind : LockKind} (h : s.gate.governs id = false) :
    releasing id kind native s = match native s.lock with
      | some l => .ok (.ok ()) { s with lock := l }
      | none => .ok (.error (.notOwner kind id.name)) s := by
  cases taken : native s.lock <;> simp [releasing, Gate.release_native h, taken]

theorem trying_refused (h : s.gate.governs id = false) (refused : native s.lock = none) :
    trying id need native s = .ok false s := by
  rw [trying_native h, refused]

theorem blocking_refused (h : s.gate.governs id = false) (refused : native s.lock = none) :
    ((fun _ => true) <$> blocking id need native) s = .error (.blocked id) s := by
  rw [map_apply, blocking_native h, refused]

end Gated

/-- The action is done natively, or it is not and the lock stays; where it is natively done its caller is
told so. -/
def Performs (id : LockId) (native : L → Option L) (x : LockAct L Bool) (s : Gated L) : Prop :=
  (endState x s).lock = s.lock ∧ (affirms x s && !s.gate.governs id) = false ∨
    native s.lock = some (endState x s).lock ∧ (affirms x s && !s.gate.governs id) = true

theorem performs_governed (h : s.gate.governs id) (still : (endState x s).lock = s.lock) :
    Performs id native x s := .inl ⟨still, by rw [h, Bool.not_true, Bool.and_false]⟩

theorem performs_blocking :
    Performs id native ((fun _ => true) <$> Gated.blocking id need native) s := by
  cases h : s.gate.governs id with
  | true =>
    refine performs_governed h ?_
    rw [endState_map, Gated.endState_blocking, h, if_pos rfl]
  | false =>
    unfold Performs endState affirms
    rw [map_apply, Gated.blocking_native h, h]
    cases native s.lock with
    | none => exact .inl ⟨rfl, rfl⟩
    | some l => exact .inr ⟨rfl, rfl⟩

theorem performs_trying : Performs id native (Gated.trying id need native) s := by
  cases h : s.gate.governs id with
  | true =>
    refine performs_governed h ?_
    rw [Gated.endState_trying, h, if_pos rfl]
  | false =>
    unfold Performs endState affirms
    rw [Gated.trying_native h, h]
    cases native s.lock with
    | none => exact .inl ⟨rfl, rfl⟩
    | some l => exact .inr ⟨rfl, rfl⟩

theorem performs_releasing {kind : LockKind} :
    Performs id native (Except.isOk <$> Gated.releasing id kind native) s := by
  cases h : s.gate.governs id with
  | true =>
    refine performs_governed h ?_
    rw [endState_map, Gated.endState_releasing, h, if_pos rfl]
  | false =>
    unfold Performs endState affirms
    rw [map_apply, Gated.releasing_native h, h]
    cases native s.lock with
    | none => exact .inl ⟨rfl, rfl⟩
    | some l => exact .inr ⟨rfl, rfl⟩

end

namespace RecursiveMutex

variable {α : Type} {id : LockId}

theorem init_eq {m : RecursiveMutex} (ready : m.isInitialized) : m.init = m := by
  obtain ⟨native, owner, depth⟩ := m
  cases native with
  | none => cases ready
  | some n => rfl

theorem usable_eq {x : LockAct RecursiveMutex α} {s : Gated RecursiveMutex}
    (ready : s.lock.isInitialized) : usable id x s = x s := if_pos ready

theorem map_usable_eq {β : Type} {x : LockAct RecursiveMutex α} {s : Gated RecursiveMutex} (f : α → β)
    (ready : s.lock.isInitialized) : (f <$> usable id x) s = (f <$> x) s := by
  rw [map_apply, usable_eq ready, map_apply]

theorem performs_usable {native : RecursiveMutex → Option RecursiveMutex}
    {x : LockAct RecursiveMutex Bool} {s : Gated RecursiveMutex} (ready : s.lock.isInitialized)
    (h : Performs id native x s) : Performs id native (usable id x) s := by
  unfold Performs endState affirms at h ⊢
  rwa [usable_eq ready]

theorem performs_map_usable {native : RecursiveMutex → Option RecursiveMutex} {f : α → Bool}
    {x : LockAct RecursiveMutex α} {s : Gated RecursiveMutex} (ready : s.lock.isInitialized)
    (h : Performs id native (f <$> x) s) : Performs id native (f <$> usable id x) s := by
  unfold Performs endState affirms at h ⊢
  rwa [map_usable_eq f ready]

end RecursiveMutex

/-- A wait begins where the caller owns the monitor and the gate does not govern it. -/
theorem Monitor.beginWait_cases (id : LockId) (t : ThreadId) (s : Gated Monitor) :
    (∃ e, beginWait id t s = .ok (.error e) s) ∨
      ∃ m, release? t s.lock = some m ∧ beginWait id t s = .ok (.ok ()) { s with lock := m } := by
  rw [beginWait]
  by_cases governs : s.gate.governs id
  · exact .inl ⟨_, if_pos governs⟩
  · rw [if_neg governs]
    cases released : release? t s.lock with
    | none => exact .inl ⟨_, rfl⟩
    | some m => exact .inr ⟨m, rfl, rfl⟩

theorem Monitor.endWait_cases (id : LockId) (t : ThreadId) (s : Gated Monitor) :
    take? t s.lock = none ∧ endWait id t s = .error (.blocked id) s ∨
      ∃ m, take? t s.lock = some m ∧ endWait id t s = .ok () { s with lock := m } := by
  rw [endWait]
  cases taken : take? t s.lock with
  | none => exact .inl ⟨rfl, rfl⟩
  | some m => exact .inr ⟨m, rfl, rfl⟩

namespace LockKind

variable {k : LockKind} {id : LockId} {t : ThreadId} {mode : RwMode}

theorem isInitialized_of_bookkept {m : RecursiveMutex} (kept : recursiveMutex.Bookkept m) :
    m.isInitialized := by
  obtain ⟨n, native, -⟩ := kept
  rw [RecursiveMutex.isInitialized, native]
  rfl

/-- What a call does: nothing to the lock, a native acquisition, or a native release. -/
def Does (k : LockKind) (id : LockId) (t : ThreadId) (c : LockCall) (s : Gated k.State) : Prop :=
  ((endState (k.call id t c) s).lock = s.lock ∧ k.deals id t c s = []) ∨
    (∃ mode, k.take? t mode s.lock = some (endState (k.call id t c) s).lock ∧
      k.deals id t c s = [.took t]) ∨
    (∃ mode, k.release? t mode s.lock = some (endState (k.call id t c) s).lock ∧
      k.deals id t c s = [.gave t])

section

variable {c : LockCall} {s : Gated k.State}

theorem does_nothing (h : k.call id t c s = .ok false s ∨ ∃ e, k.call id t c s = .error e s) :
    k.Does id t c s := by
  refine .inl ?_
  rw [deals, affirms, endState]
  rcases h with h | ⟨e, h⟩ <;> rw [h] <;> exact ⟨rfl, by cases c <;> rfl⟩

theorem does_beginning {l : k.State} (mode : RwMode) (released : k.release? t mode s.lock = some l)
    (h : k.call id t .beginWait s = .ok true { s with lock := l }) : k.Does id t .beginWait s := by
  refine .inr (.inr ⟨mode, ?_⟩)
  rw [deals, affirms, endState, h]
  exact ⟨released, rfl⟩

theorem does_ending {l : k.State} (mode : RwMode) (taken : k.take? t mode s.lock = some l)
    (h : k.call id t .endWait s = .ok true { s with lock := l }) : k.Does id t .endWait s := by
  refine .inr (.inl ⟨mode, ?_⟩)
  rw [deals, affirms, endState, h]
  exact ⟨taken, rfl⟩

theorem does_of_take (h : Performs id (k.take? t mode) (k.call id t c) s)
    (told : k.deals id t c s =
      if affirms (k.call id t c) s && !s.gate.governs id then [.took t] else []) :
    k.Does id t c s := by
  rcases h with ⟨still, idle⟩ | ⟨took, done⟩
  · exact .inl ⟨still, by rw [told, idle]; rfl⟩
  · exact .inr (.inl ⟨mode, took, by rw [told, done]; rfl⟩)

theorem does_of_release (h : Performs id (k.release? t mode) (k.call id t c) s)
    (told : k.deals id t c s =
      if affirms (k.call id t c) s && !s.gate.governs id then [.gave t] else []) :
    k.Does id t c s := by
  rcases h with ⟨still, idle⟩ | ⟨gave, done⟩
  · exact .inl ⟨still, by rw [told, idle]; rfl⟩
  · exact .inr (.inr ⟨mode, gave, by rw [told, done]; rfl⟩)

end

theorem does_beginWait {s : Gated Monitor} : monitor.Does id t .beginWait s := by
  rcases Monitor.beginWait_cases id t s with ⟨e, refused⟩ | ⟨m, released, begun⟩
  · have told : (Except.isOk <$> Monitor.beginWait id t) s = .ok false s := by
      rw [map_apply, refused]
      rfl
    exact does_nothing (.inl told)
  · have told : (Except.isOk <$> Monitor.beginWait id t) s = .ok true { s with lock := m } := by
      rw [map_apply, begun]
      rfl
    exact does_beginning .write released told

/-- A wait ends with a native acquisition, whatever the gate says. -/
theorem does_endWait {s : Gated Monitor} : monitor.Does id t .endWait s := by
  rcases Monitor.endWait_cases id t s with ⟨-, waits⟩ | ⟨m, taken, ended⟩
  · exact does_nothing (.inr ⟨_, map_error waits⟩)
  · have told : ((fun _ => true) <$> Monitor.endWait id t) s = .ok true { s with lock := m } := by
      rw [map_apply, ended]
    exact does_ending .write taken told

theorem idle_asserting {L : Type} {s : Gated L} (expected : L → Bool) (e : FatalError) :
    endState ((fun _ => false) <$> Gated.asserting expected e) s = s := by
  rw [endState_map, Gated.endState_asserting]

theorem idle_usable {s : Gated RecursiveMutex} (expected : RecursiveMutex → Bool) (e : FatalError) :
    endState ((fun _ => false) <$> RecursiveMutex.usable id (Gated.asserting expected e)) s = s := by
  rw [endState_map]
  unfold endState RecursiveMutex.usable
  by_cases ready : s.lock.isInitialized
  · rw [if_pos ready]
    exact Gated.endState_asserting s
  · rw [if_neg ready]

theorem endState_call_of_asserts {c : LockCall} {s : Gated k.State} (asserts : c.asserts) :
    endState (k.call id t c) s = s := by
  cases c with
  | assertLocked =>
    cases k with
    | recursiveMutex => exact idle_usable _ _
    | _ => exact idle_asserting _ _
  | assertUnlocked =>
    cases k with
    | recursiveMutex => exact idle_usable (fun m => !m.isLocked) _
    | mutex => exact idle_asserting (fun m : Mutex => !m.isLocked) _
    | monitor => exact idle_asserting (fun m : Monitor => !m.isLocked) _
    | rwLock => exact idle_asserting (fun l : RwLock => !l.isLocked) _
  | assertReading =>
    cases k with
    | rwLock => exact idle_asserting (fun l : RwLock => l.mode = some .read) _
    | _ => rfl
  | assertWriting =>
    cases k with
    | rwLock => exact idle_asserting (fun l : RwLock => l.mode = some .write) _
    | _ => rfl
  | _ => cases asserts

section

variable {s : Gated k.State} (kept : k.Bookkept s.lock)
include kept

theorem performs_acquire : Performs id (k.take? t mode) (k.call id t (.acquire mode)) s := by
  cases k with
  | recursiveMutex =>
    exact RecursiveMutex.performs_map_usable (isInitialized_of_bookkept kept) performs_blocking
  | mutex => exact performs_blocking
  | monitor => exact performs_blocking
  | rwLock => exact performs_blocking

theorem performs_tryAcquire : Performs id (k.take? t mode) (k.call id t (.tryAcquire mode)) s := by
  cases k with
  | recursiveMutex =>
    exact RecursiveMutex.performs_usable (isInitialized_of_bookkept kept) performs_trying
  | mutex => exact performs_trying
  | monitor => exact performs_trying
  | rwLock => exact performs_trying

theorem performs_release : Performs id (k.release? t mode) (k.call id t (.release mode)) s := by
  cases k with
  | recursiveMutex =>
    exact RecursiveMutex.performs_map_usable (isInitialized_of_bookkept kept) performs_releasing
  | mutex => exact performs_releasing
  | monitor => exact performs_releasing
  | rwLock => exact performs_releasing

theorem call_cases (c : LockCall) : k.Does id t c s := by
  cases c with
  | acquire mode => exact does_of_take (performs_acquire kept) rfl
  | tryAcquire mode => exact does_of_take (performs_tryAcquire kept) rfl
  | release mode => exact does_of_release (performs_release kept) rfl
  | beginWait =>
    cases k with
    | monitor => exact does_beginWait
    | _ => exact .inl ⟨rfl, rfl⟩
  | endWait =>
    cases k with
    | monitor => exact does_endWait
    | _ => exact .inl ⟨rfl, rfl⟩
  | init =>
    cases k with
    | recursiveMutex =>
      exact .inl ⟨RecursiveMutex.init_eq (isInitialized_of_bookkept kept), rfl⟩
    | _ => exact .inl ⟨rfl, rfl⟩
  | assertLocked => exact .inl ⟨congrArg Gated.lock (endState_call_of_asserts rfl), rfl⟩
  | assertUnlocked => exact .inl ⟨congrArg Gated.lock (endState_call_of_asserts rfl), rfl⟩
  | assertReading => exact .inl ⟨congrArg Gated.lock (endState_call_of_asserts rfl), rfl⟩
  | assertWriting => exact .inl ⟨congrArg Gated.lock (endState_call_of_asserts rfl), rfl⟩

end

end LockKind

end ImageLoader
