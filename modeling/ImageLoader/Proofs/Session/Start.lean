import ImageLoader.Proofs.Session.Activity
import ImageLoader.Proofs.Session.Release
/-! What a start comes to, whoever holds which locks, the caller among them, and whatever was done to the
gate before. A start that is refused gives back what it took of the first lock. -/

namespace ImageLoader

open Act Process

variable {σ : Type} {p q : Process σ} {t : ThreadId} {id : LockId}

/-- A lock that this thread holds alone, for writing where it has modes. -/
def LockKind.heldBy (t : ThreadId) : (k : LockKind) → k.State
  | .mutex => (⟨true, some t⟩ : Mutex)
  | .recursiveMutex => (⟨some ⟨some t, 1⟩, some t, 1⟩ : RecursiveMutex)
  | .monitor => (⟨true, some t⟩ : Monitor)
  | .rwLock => (⟨true, some t, some .write⟩ : RwLock)

theorem LockKind.take?_fresh (k : LockKind) (t : ThreadId) :
    k.take? t .write k.fresh = some (k.heldBy t) := by
  cases k <;> rfl

namespace Session

/-- A step of the threads or the debugger, or anything that is done to the gate itself. -/
inductive Stir : Process σ → Process σ → Prop
  | step {p q : Process σ} : Step true p q → Stir p q
  | gate (g : Gate) (p : Process σ) : Stir p { p with gate := g }

theorem hosts_stir : Hosts (Stir (σ := σ)) := (hosts_step true).mono fun _ _ => .step

theorem tidy_begun (tidy : p.natives.Tidy) (begun : Begun t p q) : q.natives.Tidy := by
  have held {m : Mutex} (h : m.Tidy) : (if m.busy then m else ⟨true, some t⟩).Tidy := by
    split
    · exact h
    · exact fun free => by cases free
  rw [begun.natives]
  refine ⟨fun free => (by cases free), ?_, fun free => (by cases free), held tidy.headerLock⟩
  change (if p.natives.selLock.busy then p.natives.selLock else ⟨true, some t, some .write⟩).Tidy
  split
  · exact tidy.selLock
  · exact fun free => by cases free

theorem tidy_free {n : Natives} (tidy : n.Tidy) (k : Taken) : (n.free k).Tidy := by
  cases k with
  | runtimeLock mode => exact ⟨fun _ => rfl, tidy.selLock, tidy.cacheUpdateLock, tidy.headerLock⟩
  | cacheUpdateLock => exact ⟨tidy.runtimeLock, tidy.selLock, fun _ => rfl, tidy.headerLock⟩
  | selLock mode => exact ⟨tidy.runtimeLock, fun _ => rfl, tidy.cacheUpdateLock, tidy.headerLock⟩
  | headerLock => exact ⟨tidy.runtimeLock, tidy.selLock, tidy.cacheUpdateLock, fun _ => rfl⟩

theorem tidy_foldl_free {n : Natives} (tidy : n.Tidy) (taken : List Taken) :
    (taken.foldl Natives.free n).Tidy := by
  induction taken generalizing n with
  | nil => exact tidy
  | cons k rest ih => exact ih (tidy_free tidy k)

theorem natives_tidy_finish (tidy : p.natives.Tidy) : (Debugger.finish p).natives.Tidy := by
  rw [Debugger.finish]
  split
  · exact tidy
  · have freed := (foldl_freeTaken p.taken.reverse (Debugger.enterMode .off p)).1
    change (p.taken.reverse.foldl Debugger.freeTaken (Debugger.enterMode .off p)).natives.Tidy
    rw [freed]
    exact tidy_foldl_free tidy _

theorem Stir.tidy (h : Stir p q) (tidy : p.natives.Tidy) : q.natives.Tidy := by
  cases h with
  | gate g => exact tidy
  | step h =>
    cases h with
    | lock id t c => exact (lockCall_frame id t c p).tidy tidy
    | other stands => exact stands.still.natives.symm ▸ tidy
    | finish _ _ => exact natives_tidy_finish tidy
    | start t =>
      by_cases off : p.gate.mode = .off
      · rcases start_off_cases off tidy t with ⟨-, lines, refused⟩ | ⟨-, begun⟩
        · rw [refused]
          exact tidy
        · exact tidy_begun tidy begun
      · rw [Debugger.start, if_pos off]
        exact tidy

theorem tidy_of_path {config : Config} {own : σ}
    (h : Relation.ReflTransGen Stir (Process.new config own) p) : p.natives.Tidy := by
  induction h with
  | refl => exact (calm_new config own).tidy
  | tail _ step ih => exact step.tidy ih

theorem markTaken_counters (taken : List Taken) (g : Gate) :
    (Debugger.markTaken taken g).counters = g.counters := by
  induction taken generalizing g with
  | nil => rfl
  | cons k rest ih => exact ih (g.markHeld k.id k.hold)

theorem counters_refuse (busy : LockId) (p : Process σ) :
    (Debugger.refuse busy p).gate.counters = p.gate.counters := by
  obtain ⟨lines, refused⟩ := exists_lines_refuse busy p
  rw [refused]
  rfl

theorem counters_start (t : ThreadId) (p : Process σ) :
    (Debugger.start t p).2.gate.counters = p.gate.counters := by
  unfold Debugger.start
  split
  · rfl
  · split
    · exact counters_refuse _ p
    · split
      · exact counters_refuse _ _
      · exact markTaken_counters _ p.gate

/-- What a start comes to where the mode is off: it tells `mode` and leads to `q`. -/
structure Decided (t : ThreadId) (p : Process σ) (mode : DebuggerMode) (q : Process σ) : Prop where
  off : mode = .off ↔ p.natives.busy .runtimeLock ∨ p.natives.busy .cacheUpdateLock
  full : mode = .full ↔ ∀ id ∈ managedLocks, p.natives.busy id = false
  partly : mode = .partly ↔ p.natives.busy .runtimeLock = false ∧
    p.natives.busy .cacheUpdateLock = false ∧ (p.natives.busy .selLock ∨ p.natives.busy .headerLock)
  /-- Nothing but the log tells of a start that is refused. -/
  refused : mode = .off → ∃ lines, q = p.note lines
  entered : q.gate.mode = mode
  /-- The caller holds those of the managed locks that were free. -/
  took : mode ≠ .off → ∀ id, q.lock id =
    if id ∈ managedLocks ∧ p.natives.busy id = false then id.kind.heldBy t else p.lock id
  counters : q.gate.counters = p.gate.counters

theorem decided_refused (off : p.gate.mode = .off) (t : ThreadId) (lines : List LogLine)
    (busy : p.natives.busy .runtimeLock ∨ p.natives.busy .cacheUpdateLock) :
    Decided t p .off (p.note lines) where
  off := iff_of_true rfl busy
  full := by
    refine iff_of_false (by decide) fun free => ?_
    rcases busy with busy | busy <;> cases (free _ (by decide)).symm.trans busy
  partly := by
    refine iff_of_false (by decide) fun ⟨runtime, cache, _⟩ => ?_
    rcases busy with busy | busy
    · cases runtime.symm.trans busy
    · cases cache.symm.trans busy
  refused _ := ⟨lines, rfl⟩
  entered := off
  took entered := absurd rfl entered
  counters := rfl

theorem Begun.lock (begun : Begun t p q) (tidy : p.natives.Tidy)
    (others : ∀ id ∉ managedLocks, q.lock id = p.lock id) (id : LockId) : q.lock id =
      if id ∈ managedLocks ∧ p.natives.busy id = false then id.kind.heldBy t else p.lock id := by
  by_cases managed : id ∈ managedLocks
  · cases busy : p.natives.busy id with
    | false =>
      have taken := begun.take managed busy
      rw [lock_fresh tidy managed busy, LockKind.take?_fresh] at taken
      rw [if_pos ⟨managed, rfl⟩]
      exact (Option.some.inj taken).symm
    | true =>
      rw [if_neg (by simp)]
      exact begun.leave managed busy
  · rw [if_neg fun h => managed h.1]
    exact others id managed

theorem Begun.decided (begun : Begun t p q) (tidy : p.natives.Tidy)
    (others : ∀ id ∉ managedLocks, q.lock id = p.lock id)
    (counters : q.gate.counters = p.gate.counters) : Decided t p q.gate.mode q where
  off := by
    refine iff_of_false begun.on ?_
    rintro (busy | busy)
    · cases begun.runtimeLock.symm.trans busy
    · cases begun.cacheUpdateLock.symm.trans busy
  full := by
    rw [begun.mode]
    simp only [managedLocks, List.forall_mem_cons, List.not_mem_nil, Natives.busy, begun.runtimeLock,
      begun.cacheUpdateLock]
    cases p.natives.selLock.busy <;> cases p.natives.headerLock.busy <;> simp
  partly := by
    rw [begun.mode]
    simp only [Natives.busy, begun.runtimeLock, begun.cacheUpdateLock]
    cases p.natives.selLock.busy <;> cases p.natives.headerLock.busy <;> simp
  refused off := absurd off begun.on
  entered := rfl
  took _ := begun.lock tidy others
  counters := counters

/-- A start goes by which locks are free, and does nothing or all of what it tells. -/
theorem start_outcome {config : Config} {own : σ} (reached : Activity Stir (Process.new config own) p)
    (t : ThreadId) :
    (p.gate.mode = .off → Decided t p (Debugger.start t p).1 (Debugger.start t p).2) ∧
      (p.gate.mode ≠ .off → Debugger.start t p = (p.gate.mode, p)) := by
  have tidy := tidy_of_path (reached.path hosts_stir)
  refine ⟨fun off => ?_, fun on => if_pos on⟩
  rcases start_off_cases off tidy t with ⟨busy, lines, refused⟩ | ⟨mode, begun⟩
  · rw [refused]
    exact decided_refused off t lines (Bool.or_eq_true_iff.1 busy)
  · rw [mode]
    exact begun.decided tidy (fun _ => (elsewhere_start t p).lock) (counters_start t p)

/-- Thread d updates the cache, and the gate was told of a lock that nobody took. -/
def updating : Process Unit :=
  let p := endState (lockCall .cacheUpdateLock (.named "d") (.acquire .write)) (Process.new {} ())
  { p with gate := p.gate.markHeld .selLock .shared }

theorem activity_updating : Activity Stir (Process.new {} ()) updating :=
  .join (.step (.step (.lock .cacheUpdateLock (.named "d") (.acquire .write) _))) (.step (.gate _ _))

/-- The session of a thread that itself reads under selLock is partial; one that itself updates the cache
is refused, and holds that lock alone afterwards as before. -/
theorem start_outcome_own :
    (Debugger.start (.named "a") reading).1 = .partly ∧
      (Debugger.start (.named "a") reading).2.locks.selLock = ⟨true, some (.named "a"), some .read⟩ ∧
      (Debugger.start (.named "d") updating).1 = .off ∧
      (Debugger.start (.named "d") updating).2.locks = updating.locks := by
  have read : Activity Stir (Process.new {} ()) reading :=
    .step (.step (.lock .selLock (.named "a") (.acquire .read) _))
  have partly := (start_outcome read (.named "a")).1 (by decide)
  have mode := partly.partly.2 (by decide)
  have sel := partly.took (by rw [mode]; decide) .selLock
  have refused := (start_outcome activity_updating (.named "d")).1 (by decide)
  have off := refused.off.2 (.inr (by decide))
  obtain ⟨lines, same⟩ := refused.refused off
  exact ⟨mode, sel, off, by rw [same]; rfl⟩

end Session

end ImageLoader
