import ImageLoader.Proofs.Lock.Bench
import ImageLoader.Proofs.Lock.Exclusion
/-! Who may give a lock up. A release is refused exactly where its caller does not own the lock, or holds it
in another mode than it names; a wait, exactly where its caller does not own the monitor. What is refused
changes nothing. The owner that is recorded is the thread that natively holds the lock, whatever was done to
the lock and to its gate since the lock was made. -/

namespace ImageLoader

open Act

variable {id : LockId} {t : ThreadId} {mode : RwMode}

namespace LockKind

/-- In which mode the lock is held. Only read-write locks have modes. -/
def mode? : (k : LockKind) → k.State → Option RwMode
  | .rwLock, l => RwLock.mode l
  | _, _ => none

/-- How many releases its owner owes, by the lock's own records. -/
def depth : (k : LockKind) → k.State → Nat
  | .recursiveMutex, l => RecursiveMutex.depth l
  | k, l => (k.owner l).isSome.toNat

def unlock (id : LockId) (t : ThreadId) (mode : RwMode) :
    (k : LockKind) → LockAct k.State (Except LockError Unit)
  | .mutex => Mutex.unlock id t
  | .recursiveMutex => RecursiveMutex.unlock id t
  | .monitor => Monitor.exit id t
  | .rwLock => RwLock.unlock id t mode

/-- The thread must not give the lock up from this mode. -/
def Bars (t : ThreadId) (mode : RwMode) (k : LockKind) (l : k.State) : Prop :=
  k.owner l ≠ some t ∨ ∃ other ≠ mode, k.mode? l = some other

variable {k : LockKind} {l l' : k.State} {h : List Deal} {s : Gated k.State}

/-- The owner `t` holds the lock once less often; who held it once has freed it. -/
structure OneLess (k : LockKind) (t : ThreadId) (l l' : k.State) : Prop where
  free : k.depth l ≤ 1 → l' = k.fresh
  owned : 1 < k.depth l → k.owner l' = some t ∧ k.depth l' = k.depth l - 1 ∧ k.count l' = k.depth l - 1

theorem depth_eq_count (kept : k.Bookkept l) : k.depth l = k.count l := by
  cases k with
  | mutex => exact congrArg Bool.toNat kept
  | recursiveMutex =>
    obtain ⟨native, owner, depth⟩ := l
    obtain ⟨n, rfl, -, rfl, -⟩ := kept
    rfl
  | monitor => exact congrArg Bool.toNat kept
  | rwLock => exact congrArg Bool.toNat kept.1

theorem release?_of_bars (bars : k.Bars t mode l) : k.release? t mode l = none := by
  rcases bars with foreign | ⟨other, different, held⟩
  · cases k with
    | rwLock => exact if_neg fun mine => foreign mine.1
    | _ => exact if_neg foreign
  · cases k with
    | rwLock => exact if_neg fun mine => different (Option.some.inj (held.symm.trans mine.2))
    | _ => cases held

theorem oneLess_fresh (once : k.depth l ≤ 1) : k.OneLess t l k.fresh := by
  refine ⟨fun _ => rfl, ?_⟩
  intro more
  omega

theorem exists_release? (kept : k.Bookkept l) (free : ¬k.Bars t mode l) :
    ∃ l', k.release? t mode l = some l' ∧ k.OneLess t l l' := by
  simp only [Bars, not_or, not_not] at free
  obtain ⟨own, held⟩ := free
  have once (owner : Option ThreadId) : owner.isSome.toNat ≤ 1 := Bool.toNat_le _
  cases k with
  | mutex => exact ⟨_, if_pos own, oneLess_fresh (once _)⟩
  | monitor => exact ⟨_, if_pos own, oneLess_fresh (once _)⟩
  | rwLock =>
    have moded := kept.2.trans (congrArg Option.isSome own)
    obtain ⟨held', e⟩ := Option.isSome_iff_exists.1 moded
    have same : held' = mode := by
      by_contra different
      exact held ⟨held', different, e⟩
    rw [same] at e
    exact ⟨_, if_pos ⟨own, e⟩, oneLess_fresh (once _)⟩
  | recursiveMutex =>
    obtain ⟨native, owner, n⟩ := l
    obtain ⟨⟨holder, count⟩, rfl, rfl, rfl, unowned⟩ := kept
    have released : recursiveMutex.release? t mode ⟨some ⟨holder, count⟩, holder, count⟩ = some _ :=
      if_pos own
    refine ⟨_, released, ?_⟩
    obtain ⟨-, ⟨rfl, last⟩ | ⟨j, rfl, again⟩⟩ := RecursiveMutex.release?_eq_some unowned released
    · rw [last]
      exact oneLess_fresh (Nat.le_refl 1)
    · rw [again]
      refine ⟨?_, fun _ => ⟨rfl, rfl, rfl⟩⟩
      intro once
      have : j + 2 ≤ 1 := once
      omega

/-- How `x` releases the lock `l` in a state `s`, where `put` has another lock in its place. -/
structure Releases {S : Type} (k : LockKind) (id : LockId) (t : ThreadId) (mode : RwMode) (l : k.State)
    (x : EStateM Stop S (Except LockError Unit)) (s : S) (put : k.State → S) : Prop where
  refused : (∃ s', x s = .ok (.error (.notOwner k id.name)) s') ↔ k.Bars t mode l
  still : ∀ e s', x s = .ok (.error e) s' → e = .notOwner k id.name ∧ s' = s
  done : ¬k.Bars t mode l → ∃ l', x s = .ok (.ok ()) (put l') ∧ k.OneLess t l l'

section

variable {S : Type} {x : EStateM Stop S (Except LockError Unit)} {s : S} {put : k.State → S}

theorem releases_of_cases
    (refused : k.Bars t mode l → x s = .ok (.error (.notOwner k id.name)) s)
    (done : ¬k.Bars t mode l → ∃ l', x s = .ok (.ok ()) (put l') ∧ k.OneLess t l l') :
    k.Releases id t mode l x s put := by
  refine ⟨⟨?_, fun bars => ⟨s, refused bars⟩⟩, ?_, done⟩
  · rintro ⟨s', told⟩
    by_contra free
    obtain ⟨l', released, -⟩ := done free
    cases released.symm.trans told
  · intro e s' told
    by_cases bars : k.Bars t mode l
    · cases (refused bars).symm.trans told
      exact ⟨rfl, rfl⟩
    · obtain ⟨l', released, -⟩ := done bars
      cases released.symm.trans told

end

theorem unlock_eq (ready : k.Ready s.lock) :
    k.unlock id t mode s = Gated.releasing id k (k.release? t mode) s := by
  cases k with
  | recursiveMutex => exact RecursiveMutex.usable_eq ready
  | _ => rfl

theorem ready_of_bookkept (kept : k.Bookkept l) : k.Ready l := by
  cases k with
  | recursiveMutex => exact isInitialized_of_bookkept kept
  | _ => trivial

section

variable (kept : k.Bookkept s.lock) (native : s.gate.governs id = false)
include kept native

theorem unlock_of_bars (bars : k.Bars t mode s.lock) :
    k.unlock id t mode s = .ok (.error (.notOwner k id.name)) s := by
  rw [unlock_eq (ready_of_bookkept kept), Gated.releasing_native native, release?_of_bars bars]

theorem exists_unlock (free : ¬k.Bars t mode s.lock) :
    ∃ l', k.unlock id t mode s = .ok (.ok ()) { s with lock := l' } ∧ k.OneLess t s.lock l' := by
  obtain ⟨l', released, less⟩ := exists_release? kept free
  refine ⟨l', ?_, less⟩
  rw [unlock_eq (ready_of_bookkept kept), Gated.releasing_native native, released]

end

/-- What is recorded of the lock's owner after these deals is true of its native half, and who is not the
owner cannot give the lock up. -/
structure Checked (k : LockKind) (id : LockId) (h : List Deal) (s : Gated k.State) : Prop where
  owner : ∀ t, k.owner s.lock = some t ↔ 0 < standing t h
  depth : ∀ t, k.owner s.lock = some t → k.depth s.lock = standing t h
  releases : s.gate.governs id = false → ∀ t mode,
    k.Releases id t mode s.lock (k.unlock id t mode) s fun l => { s with lock := l }

theorem Tracks.owner_iff (tracks : k.Tracks h l) (t : ThreadId) :
    k.owner l = some t ↔ 0 < standing t h := by
  rw [tracks.held]
  by_cases own : k.owner l = some t
  · have taken : k.count l ≠ 0 := by
      rw [Ne, count_eq_zero_iff tracks.kept, own]
      simp
    simp [own, Nat.pos_of_ne_zero taken]
  · simp [own]

theorem Tracks.depth (tracks : k.Tracks h l) (own : k.owner l = some t) :
    k.depth l = standing t h := by
  rw [tracks.held, if_pos own, depth_eq_count tracks.kept]

theorem Tracks.checked (tracks : k.Tracks h s.lock) : k.Checked id h s := by
  refine ⟨tracks.owner_iff, fun t => tracks.depth, ?_⟩
  intro native t mode
  apply releases_of_cases
  · exact unlock_of_bars tracks.kept native
  · exact exists_unlock tracks.kept native

def made : (k : LockKind) → k.State
  | .recursiveMutex => RecursiveMutex.declared
  | k => k.fresh

/-- All that is done to a lock from when it is made, with changes of its gate between. -/
inductive Life (k : LockKind) (id : LockId) : List Deal → Gated k.State → Prop
  | start (g : Gate) : Life k id [] ⟨g, k.made⟩
  | call {h : List Deal} {s : Gated k.State} (t : ThreadId) (c : LockCall) : Life k id h s →
    Life k id (h ++ k.deals id t c s) (endState (k.call id t c) s)
  | gate {h : List Deal} {s : Gated k.State} (g : Gate) : Life k id h s →
    Life k id h { s with gate := g }

theorem declared_call (id : LockId) (g : Gate) (t : ThreadId) (c : LockCall) :
    recursiveMutex.deals id t c ⟨g, RecursiveMutex.declared⟩ = [] ∧
      (endState (recursiveMutex.call id t c) ⟨g, RecursiveMutex.declared⟩).lock =
        if c = .init then RecursiveMutex.new else RecursiveMutex.declared := by
  cases c <;> exact ⟨rfl, rfl⟩

theorem Life.tracks_or (life : k.Life id h s) :
    k.Tracks h s.lock ∨ k = .recursiveMutex ∧ h = [] ∧ s.lock = k.made := by
  induction life with
  | start g =>
    cases k with
    | recursiveMutex => exact .inr ⟨rfl, rfl, rfl⟩
    | _ => exact .inl (tracks_fresh _)
  | @call h s t c _ ih =>
    rcases ih with tracks | ⟨rfl, rfl, declared⟩
    · exact .inl (tracks.call id t c)
    · obtain ⟨g, l⟩ := s
      obtain rfl : l = RecursiveMutex.declared := declared
      obtain ⟨idle, left⟩ := declared_call id g t c
      rw [idle, left]
      by_cases init : c = .init
      · rw [if_pos init]
        exact .inl (tracks_fresh .recursiveMutex)
      · rw [if_neg init]
        exact .inr ⟨rfl, rfl, rfl⟩
  | gate g _ ih => exact ih

/-- Once it is initialized a lock's records are true. -/
theorem Life.tracks (life : k.Life id h s) (ready : k.Ready s.lock) : k.Tracks h s.lock := by
  rcases life.tracks_or with tracks | ⟨rfl, -, declared⟩
  · exact tracks
  · rw [declared] at ready
    cases ready

end LockKind

namespace Monitor

/-- How `x` waits on the monitor `m` in a state `s`, whatever the other threads do to it meanwhile, where
`put` has the monitor that they leave. -/
structure Waits {S : Type} (id : LockId) (t : ThreadId) (m : Gated Monitor)
    (x : LockAct Monitor Unit → EStateM Stop S (Except LockError Unit)) (s : S) (put : Gated Monitor → S) :
    Prop where
  refused : ∀ others, (∃ s', x others s = .ok (.error (.notOwner .monitor id.name)) s') ↔
    m.lock.owner ≠ some t
  still : ∀ others e s', x others s = .ok (.error e) s' → e = .notOwner .monitor id.name ∧ s' = s
  /-- The others find the monitor free, and the wait ends where they leave it free. -/
  returns : m.lock.owner = some t → ∀ others m', others { m with lock := {} } = .ok () m' →
    m'.lock.busy = false → x others s = .ok (.ok ()) (put { m' with lock := ⟨true, some t⟩ })
  owns : ∀ others s', x others s = .ok (.ok ()) s' → ∃ m', s' = put m' ∧ m'.lock = ⟨true, some t⟩

variable {m m' : Gated Monitor} {others : LockAct Monitor Unit} {r : Except LockError Unit}

theorem wait_of_not_owner (native : m.gate.governs id = false) (foreign : m.lock.owner ≠ some t) :
    wait id t others m = .ok (.error (.notOwner .monitor id.name)) m := by
  have refused : beginWait id t m = .ok (.error (.notOwner .monitor id.name)) m := by
    rw [beginWait, native, release?, if_neg foreign]
    rfl
  rw [wait, bind_apply, refused]
  rfl

theorem wait_of_owner (native : m.gate.governs id = false) (own : m.lock.owner = some t) :
    wait id t others m = (others >>= fun _ => endWait id t >>= fun _ => pure (.ok ())) { m with lock := {} } := by
  have begun : beginWait id t m = .ok (.ok ()) { m with lock := {} } := by
    rw [beginWait, native, release?, if_pos own]
    rfl
  rw [wait, bind_apply, begun]

theorem take?_eq_some {l l' : Monitor} (taken : take? t l = some l') : l' = ⟨true, some t⟩ := by
  obtain ⟨-, taken⟩ := Option.ite_none_left_eq_some.1 taken
  exact (Option.some.inj taken).symm

theorem lock_of_woken
    (woken : (others >>= fun _ => endWait id t >>= fun _ => pure (.ok ())) m = .ok r m') :
    r = .ok () ∧ m'.lock = ⟨true, some t⟩ := by
  rw [bind_apply] at woken
  cases done : others m with
  | error e u =>
    rw [done] at woken
    cases woken
  | ok a u =>
    rw [done] at woken
    dsimp only at woken
    rw [bind_apply] at woken
    rcases endWait_cases id t u with ⟨-, waits⟩ | ⟨l, taken, ended⟩
    · rw [waits] at woken
      cases woken
    · rw [ended] at woken
      cases woken
      exact ⟨rfl, take?_eq_some taken⟩

theorem waits_of_owner (native : m.gate.governs id = false) (own : m.lock.owner = some t) :
    Waits id t m (wait id t) m fun m' => m' := by
  have ends {others : LockAct Monitor Unit} {r : Except LockError Unit} {m' : Gated Monitor}
      (told : wait id t others m = .ok r m') : r = .ok () ∧ m'.lock = ⟨true, some t⟩ := by
    rw [wait_of_owner native own] at told
    exact lock_of_woken told
  refine ⟨?_, ?_, ?_, ?_⟩
  · intro others
    refine iff_of_false ?_ (not_not.2 own)
    rintro ⟨m', told⟩
    cases (ends told).1
  · intro others e m' told
    cases (ends told).1
  · intro _ others m' done free
    have taken : take? t m'.lock = some ⟨true, some t⟩ := if_neg (by rw [free]; decide)
    rw [wait_of_owner native own, bind_apply, done]
    dsimp only
    rw [bind_apply, endWait, taken]
    rfl
  · intro others m' told
    exact ⟨m', rfl, (ends told).2⟩

theorem waits_native (native : m.gate.governs id = false) (t : ThreadId) :
    Waits id t m (wait id t) m fun m' => m' := by
  by_cases own : m.lock.owner = some t
  · exact waits_of_owner native own
  refine ⟨fun others => ?_, fun others e m' told => ?_, fun mine => absurd mine own,
    fun others m' told => ?_⟩
  · exact iff_of_true ⟨m, wait_of_not_owner native own⟩ own
  · rw [wait_of_not_owner native own] at told
    cases told
    exact ⟨rfl, rfl⟩
  · rw [wait_of_not_owner native own] at told
    cases told

theorem Waits.lift {S : Type} {x : LockAct Monitor Unit → EStateM Stop S (Except LockError Unit)} {s : S}
    {put : Gated Monitor → S} (waits : Waits id t m (wait id t) m fun m' => m')
    (same : ∀ others r s', x others s = .ok r s' ↔ ∃ m', wait id t others m = .ok r m' ∧ s' = put m')
    (back : put m = s) : Waits id t m x s put := by
  refine ⟨?_, ?_, ?_, ?_⟩
  · intro others
    rw [← waits.refused others]
    constructor
    · rintro ⟨s', told⟩
      obtain ⟨m', told, -⟩ := (same _ _ _).1 told
      exact ⟨m', told⟩
    · rintro ⟨m', told⟩
      exact ⟨put m', (same _ _ _).2 ⟨m', told, rfl⟩⟩
  · intro others e s' told
    obtain ⟨m', told', rfl⟩ := (same _ _ _).1 told
    obtain ⟨rfl, rfl⟩ := waits.still others e m' told'
    exact ⟨rfl, back⟩
  · intro own others m' done free
    exact (same _ _ _).2 ⟨_, waits.returns own others m' done free, rfl⟩
  · intro others s' told
    obtain ⟨m', told', rfl⟩ := (same _ _ _).1 told
    obtain ⟨m', rfl, taken⟩ := waits.owns others m' told'
    exact ⟨m', rfl, taken⟩

end Monitor

end ImageLoader
