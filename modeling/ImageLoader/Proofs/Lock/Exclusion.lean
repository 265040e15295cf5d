import ImageLoader.Proofs.Lock.Kinds
/-! Mutual exclusion. The deals in a native lock, one after another, say how often each thread holds it;
the lock's own records agree with that count, whatever the gate does between the calls. So no thread
natively acquires a lock while the count of another is not zero. -/

namespace ImageLoader

open Act

def Deal.next (t : ThreadId) (n : Nat) : Deal → Nat
  | .took u => if u = t then n + 1 else n
  | .gave u => if u = t then n - 1 else n
  | .freed => 0

/-- How often the thread holds the native lock after these deals. -/
def standing (t : ThreadId) (h : List Deal) : Nat := h.foldl (Deal.next t) 0

theorem standing_concat (t : ThreadId) (h : List Deal) (d : Deal) :
    standing t (h ++ [d]) = d.next t (standing t h) := by
  rw [standing, List.foldl_append]
  rfl

namespace LockKind

variable {k : LockKind} {id : LockId} {h : List Deal} {t t' : ThreadId} {mode : RwMode}

/-- Thread `t` cannot natively acquire the lock. -/
structure Refuses (k : LockKind) (id : LockId) (t : ThreadId) (s : Gated k.State) : Prop where
  tries : s.gate.governs id = false → ∀ mode, k.call id t (.tryAcquire mode) s = .ok false s
  waits : s.gate.governs id = false → ∀ mode, k.call id t (.acquire mode) s = .error (.blocked id) s
  /-- The end of a wait does not ask the gate. -/
  resumes : k = .monitor → k.call id t .endWait s = .error (.blocked id) s

/-- The lock's records agree with its native half and with the deals, and who holds it excludes the
others. -/
structure Exclusive (k : LockKind) (id : LockId) (h : List Deal) (s : Gated k.State) : Prop where
  kept : k.Bookkept s.lock
  held : ∀ t, standing t h = if k.owner s.lock = some t then k.count s.lock else 0
  alone : ∀ t t', 0 < standing t h → 0 < standing t' h → t = t'
  refuses : ∀ t t', 0 < standing t h → t' ≠ t → k.Refuses id t' s

theorem owner_fresh (k : LockKind) : k.owner k.fresh = none := by cases k <;> rfl

structure Tracks (k : LockKind) (h : List Deal) (l : k.State) : Prop where
  kept : k.Bookkept l
  held : ∀ t, standing t h = if k.owner l = some t then k.count l else 0

/-- A lock that was freed is as nobody has used it yet. -/
theorem tracks_freed {k : LockKind} (h : List Deal) : k.Tracks (h ++ [.freed]) k.fresh := by
  refine ⟨bookkept_fresh k, fun t => ?_⟩
  rw [standing_concat, owner_fresh, if_neg (by simp)]
  rfl

theorem tracks_fresh (k : LockKind) : k.Tracks [] k.fresh := by
  refine ⟨bookkept_fresh k, fun t => ?_⟩
  rw [owner_fresh, if_neg (by simp)]
  rfl

section

variable {l l' : k.State}

theorem Tracks.took (tracks : k.Tracks h l) (taken : k.take? t mode l = some l') :
    k.Tracks (h ++ [.took t]) l' := by
  obtain ⟨kept, owner, count, before⟩ := take?_spec tracks.kept taken
  refine ⟨kept, fun u => ?_⟩
  rw [standing_concat, Deal.next, tracks.held, owner, count]
  by_cases mine : t = u
  · subst mine
    rcases before with free | own
    · simp [free, (count_eq_zero_iff tracks.kept).2 free]
    · simp [own]
  · rcases before with free | own
    · simp [free, mine]
    · simp [own, mine]

theorem Tracks.gave (tracks : k.Tracks h l) (released : k.release? t mode l = some l') :
    k.Tracks (h ++ [.gave t]) l' := by
  obtain ⟨kept, own, count, owner⟩ := release?_spec tracks.kept released
  refine ⟨kept, fun u => ?_⟩
  rw [standing_concat, Deal.next, tracks.held, own, owner, count]
  by_cases mine : t = u
  · by_cases last : k.count l' = 0 <;> simp [mine, last]
  · by_cases last : k.count l' = 0 <;> simp [mine, last]

theorem Tracks.call {s : Gated k.State} (tracks : k.Tracks h s.lock) (id : LockId) (t : ThreadId)
    (c : LockCall) : k.Tracks (h ++ k.deals id t c s) (endState (k.call id t c) s).lock := by
  rcases call_cases tracks.kept c with ⟨still, none⟩ | ⟨mode, taken, took⟩ | ⟨mode, released, gave⟩
  · rw [none, List.append_nil, still]
    exact tracks
  · rw [took]
    exact tracks.took taken
  · rw [gave]
    exact tracks.gave released

end

theorem refuses_of_take? {s : Gated k.State} (kept : k.Bookkept s.lock)
    (none : ∀ mode, k.take? t mode s.lock = none) : k.Refuses id t s := by
  cases k with
  | mutex =>
    exact ⟨fun native mode => Gated.trying_refused native (none mode),
      fun native mode => Gated.blocking_refused native (none mode), fun monitor => by cases monitor⟩
  | recursiveMutex =>
    have ready := isInitialized_of_bookkept kept
    refine ⟨fun native mode => ?_, fun native mode => ?_, fun monitor => by cases monitor⟩
    · exact (RecursiveMutex.usable_eq ready).trans (Gated.trying_refused native (none mode))
    · exact (RecursiveMutex.map_usable_eq _ ready).trans (Gated.blocking_refused native (none mode))
  | monitor =>
    refine ⟨fun native mode => Gated.trying_refused native (none mode),
      fun native mode => Gated.blocking_refused native (none mode), fun _ => ?_⟩
    rcases Monitor.endWait_cases id t s with ⟨-, waits⟩ | ⟨m, taken, -⟩
    · exact map_error waits
    · cases (none .write).symm.trans taken
  | rwLock =>
    exact ⟨fun native mode => Gated.trying_refused native (none mode),
      fun native mode => Gated.blocking_refused native (none mode), fun monitor => by cases monitor⟩

theorem Tracks.exclusive {s : Gated k.State} (tracks : k.Tracks h s.lock) : k.Exclusive id h s := by
  have owner (t : ThreadId) (holds : 0 < standing t h) : k.owner s.lock = some t := by
    rw [tracks.held] at holds
    by_cases own : k.owner s.lock = some t
    · exact own
    · rw [if_neg own] at holds
      cases holds
  refine ⟨tracks.kept, tracks.held, fun t t' holds holds' => ?_, fun t t' holds other => ?_⟩
  · exact Option.some.inj ((owner t holds).symm.trans (owner t' holds'))
  · exact refuses_of_take? tracks.kept fun mode => take?_eq_none tracks.kept (owner t holds) other

/-- A run of calls on one lock by any threads, with changes of its gate between them. -/
inductive LockRun (k : LockKind) (id : LockId) : List Deal → Gated k.State → Prop
  | start (g : Gate) : LockRun k id [] ⟨g, k.fresh⟩
  | call {h : List Deal} {s : Gated k.State} (t : ThreadId) (c : LockCall) : LockRun k id h s →
    LockRun k id (h ++ k.deals id t c s) (endState (k.call id t c) s)
  | gate {h : List Deal} {s : Gated k.State} (g : Gate) : LockRun k id h s →
    LockRun k id h { s with gate := g }

theorem LockRun.tracks {s : Gated k.State} (run : LockRun k id h s) : k.Tracks h s.lock := by
  induction run with
  | start g => exact tracks_fresh k
  | call t c _ ih => exact ih.call id t c
  | gate g _ ih => exact ih

end LockKind

end ImageLoader
