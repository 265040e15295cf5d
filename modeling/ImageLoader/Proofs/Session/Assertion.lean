import ImageLoader.Proofs.Session.Start
import ImageLoader.Proofs.Session.Transparent
/-! What assertions find after an acquisition. They look at the native lock alone. Where the acquisition
was native it is the caller's own hold that they find, and that stays until the caller gives it up; where
it went past the gate it is the debugger's, which is for writing whatever the caller asked for. -/

namespace ImageLoader

open Act Process

variable {σ β : Type} {p q : Process σ} {t u : ThreadId} {id : LockId} {mode : RwMode} {config : Config}
  {own : σ} {c : LockCall}

/-- Whether the call is to get its lock, in this mode where the lock has modes. -/
def LockCall.obtains (mode : RwMode) : LockCall → Bool
  | .acquire m => m = mode
  | .tryAcquire m => m = mode
  | .endWait => true
  | _ => false

theorem Gated.finishes_asserting {L : Type} (expected : L → Bool) (e : FatalError) (s : Gated L) :
    finishes (asserting expected e) s = (!s.gate.config.lockAssertions || expected s.lock) := by
  unfold finishes asserting
  cases s.gate.config.lockAssertions <;> cases expected s.lock <;> rfl

theorem Gated.finishes_asserting_of {L : Type} {expected : L → Bool} {s : Gated L}
    (met : expected s.lock) (e : FatalError) : finishes (asserting expected e) s := by
  rw [finishes_asserting, met, Bool.or_true]

theorem RecursiveMutex.finishes_usable {α : Type} {x : LockAct RecursiveMutex α}
    {s : Gated RecursiveMutex} (ready : s.lock.isInitialized) :
    finishes (usable id x) s = finishes x s := by
  unfold finishes
  rw [usable_eq ready]

namespace LockKind

variable {k : LockKind} {s : Gated k.State} {l l' : k.State}

def Shows (mode : RwMode) : (k : LockKind) → k.State → Prop
  | .rwLock, l => RwLock.mode l = some mode
  | _, _ => True

/-- The thread holds the lock, in this mode where the lock has modes. -/
structure HeldIn (k : LockKind) (t : ThreadId) (mode : RwMode) (l : k.State) : Prop where
  kept : k.Bookkept l
  owner : k.owner l = some t
  inMode : k.Shows mode l

theorem heldIn_of_take? (kept : k.Bookkept l) (taken : k.take? t mode l = some l') :
    k.HeldIn t mode l' := by
  obtain ⟨kept', owner, -⟩ := take?_spec kept taken
  refine ⟨kept', owner, ?_⟩
  cases k with
  | rwLock =>
    obtain ⟨-, taken⟩ := Option.ite_none_left_eq_some.1 taken
    exact congrArg RwLock.mode (Option.some.inj taken).symm
  | _ => trivial

/-- A thread that takes once more what it holds does not change the mode. -/
theorem HeldIn.retake {m : RwMode} (held : k.HeldIn t mode l) (taken : k.take? t m l = some l') :
    k.HeldIn t mode l' := by
  obtain ⟨kept', owner, -⟩ := take?_spec held.kept taken
  refine ⟨kept', owner, ?_⟩
  cases k with
  | rwLock =>
    obtain ⟨free, -⟩ := Option.ite_none_left_eq_some.1 taken
    have busy := held.kept.1
    have own : (RwLock.owner l).isSome := congrArg Option.isSome held.owner
    exact absurd (busy.symm.trans own) free
  | _ => trivial

/-- No call takes a lock from its holder, nor out of its mode, unless the holder gives it up. -/
theorem HeldIn.call (held : k.HeldIn t mode s.lock) (keeps : Deal.gave t ∉ k.deals id u c s) :
    k.HeldIn t mode (endState (k.call id u c) s).lock := by
  rcases call_cases held.kept c with ⟨still, -⟩ | ⟨m, taken, -⟩ | ⟨m, released, gave⟩
  · rw [still]
    exact held
  · rcases (take?_spec held.kept taken).2.2.2 with free | own
    · cases free.symm.trans held.owner
    · obtain rfl := Option.some.inj (own.symm.trans held.owner)
      exact held.retake taken
  · have own := (release?_spec held.kept released).2.1
    obtain rfl := Option.some.inj (own.symm.trans held.owner)
    rw [gave] at keeps
    exact absurd (List.mem_singleton_self _) keeps

theorem heldIn_of_told (kept : k.Bookkept s.lock) (native : s.gate.governs id = false)
    (obtains : c.obtains mode) (told : affirms (k.call id t c) s) :
    k.HeldIn t mode (endState (k.call id t c) s).lock := by
  cases c with
  | acquire m =>
    obtain rfl := of_decide_eq_true obtains
    rcases performs_acquire kept with ⟨-, idle⟩ | ⟨taken, -⟩
    · rw [told, native] at idle
      cases idle
    · exact heldIn_of_take? kept taken
  | tryAcquire m =>
    obtain rfl := of_decide_eq_true obtains
    rcases performs_tryAcquire kept with ⟨-, idle⟩ | ⟨taken, -⟩
    · rw [told, native] at idle
      cases idle
    · exact heldIn_of_take? kept taken
  | endWait =>
    rcases call_cases kept .endWait with ⟨-, none⟩ | ⟨m, taken, -⟩ | ⟨m, -, gave⟩
    · rw [deals, told] at none
      cases none
    · obtain ⟨kept', owner, -⟩ := heldIn_of_take? kept taken
      refine ⟨kept', owner, ?_⟩
      cases k with
      | rwLock => cases told
      | _ => trivial
    · rw [deals, told] at gave
      cases gave
  | _ => cases obtains

theorem HeldIn.assertLocked (held : k.HeldIn t mode s.lock) (id : LockId) (u : ThreadId) :
    finishes (k.plain id u .assertLocked) s := by
  have owned : (k.owner s.lock).isSome := by rw [held.owner]; rfl
  cases k with
  | mutex => exact Gated.finishes_asserting_of owned _
  | monitor => exact Gated.finishes_asserting_of owned _
  | rwLock => exact Gated.finishes_asserting_of (held.kept.2.trans owned) _
  | recursiveMutex =>
    have ready := isInitialized_of_bookkept held.kept
    exact (RecursiveMutex.finishes_usable ready).trans (Gated.finishes_asserting_of owned _)

theorem HeldIn.assertWriting (held : k.HeldIn t mode s.lock) (rw : k = .rwLock) (id : LockId)
    (u : ThreadId) : finishes (k.plain id u .assertWriting) s =
      (!s.gate.config.lockAssertions || decide (mode = .write)) := by
  subst rw
  have held : RwLock.mode s.lock = some mode := held.inMode
  refine (Gated.finishes_asserting (fun l : RwLock => l.mode = some .write) _ s).trans ?_
  rw [held]
  simp

theorem HeldIn.assertReading (held : k.HeldIn t mode s.lock) (rw : k = .rwLock) (id : LockId)
    (u : ThreadId) : finishes (k.plain id u .assertReading) s =
      (!s.gate.config.lockAssertions || decide (mode = .read)) := by
  subst rw
  have held : RwLock.mode s.lock = some mode := held.inMode
  refine (Gated.finishes_asserting (fun l : RwLock => l.mode = some .read) _ s).trans ?_
  rw [held]
  simp

end LockKind

namespace Session

theorem finishes_lockCall (built : ∀ name, id ≠ .added name) (t : ThreadId) (c : LockCall)
    (p : Process σ) : finishes (lockCall id t c) p = finishes (id.kind.plain id t c) (p.gated id) := by
  rw [lockCall_eq built]
  unfold finishes onLock gated
  cases id.kind.plain id t c ⟨p.gate, p.lock id⟩ <;> rfl

/-- A step in which thread `t` does not natively give up the lock `id`, and no session begins or ends. -/
inductive Keeping (id : LockId) (t : ThreadId) : Process σ → Process σ → Prop
  | lock (id' : LockId) (u : ThreadId) (c : LockCall) (p : Process σ) :
    (id' = id → Deal.gave t ∉ id.kind.deals id u c (p.gated id)) →
    Keeping id t p (endState (lockCall id' u c) p)
  | access {β : Type} (u : ThreadId) (f : ImageList → β × ImageList) (p : Process σ) :
    Keeping id t p (endState (Registry.access u f) p)
  | other {p q : Process σ} : Bystands p q → Keeping id t p q
  | start (u : ThreadId) (p : Process σ) : (Debugger.start u p).2.gate.mode = p.gate.mode →
    Keeping id t p (Debugger.start u p).2
  | finish (p : Process σ) : p.gate.mode = .off → Keeping id t p (Debugger.finish p)

theorem hosts_keeping : Hosts (Keeping (σ := σ) id t) := ⟨fun u f p => .single (.access u f p), .other⟩

theorem Keeping.path (h : Keeping id t p q) : Relation.ReflTransGen (Step false) p q := by
  cases h with
  | lock id' u c p _ => exact .single (.lock id' u c p)
  | access u f p => exact moves_access u f p
  | other stands => exact .single (.other stands)
  | start u p _ => exact .single (.start u p)
  | finish p off =>
    rw [Debugger.finish, if_pos off]

theorem path_of_keeping (h : Relation.ReflTransGen (Keeping id t) p q) :
    Relation.ReflTransGen (Step false) p q := by
  induction h with
  | refl => exact .refl
  | tail _ step ih => exact ih.trans step.path

theorem Step.open (h : Step false p q) : Step true p q := by
  cases h with
  | lock id t c => exact .lock id t c p
  | other stands => exact .other stands
  | start t => exact .start t p
  | finish _ ends => cases ends

theorem tidy_of_reachable (reached : Reachable config own p) : p.natives.Tidy :=
  tidy_of_path (Relation.ReflTransGen.mono (fun _ _ => .step) _ _ (Trail.path reached))

theorem lock_start_of_mode (tidy : p.natives.Tidy)
    (same : (Debugger.start u p).2.gate.mode = p.gate.mode) (id : LockId) :
    (Debugger.start u p).2.lock id = p.lock id := by
  by_cases off : p.gate.mode = .off
  · rcases start_off_cases off tidy u with ⟨-, lines, refused⟩ | ⟨-, begun⟩
    · rw [refused]
      exact lock_congr rfl rfl id
    · exact absurd (same.trans off) begun.on
  · rw [Debugger.start, if_pos off]

theorem Keeping.heldIn (h : Keeping id t p q) (built : ∀ name, id ≠ .added name) (tidy : p.natives.Tidy)
    (held : id.kind.HeldIn t mode (p.lock id)) : id.kind.HeldIn t mode (q.lock id) := by
  cases h with
  | lock id' u c p keeps =>
    by_cases same : id' = id
    · subst same
      rw [lock_lockCall built]
      exact LockKind.HeldIn.call (s := p.gated id') held (keeps rfl)
    · rw [lock_lockCall_ne same]
      exact held
  | access u f p =>
    obtain ⟨g, images, lines, ends⟩ := exists_endState_access u f tidy.headerLock
    rw [ends]
    exact held
  | other stands =>
    rw [lock_congr stands.locks stands.header]
    exact held
  | start u p same =>
    rw [lock_start_of_mode tidy same]
    exact held
  | finish p off =>
    rw [Debugger.finish, if_pos off]
    exact held

theorem heldIn_of_path (reached : Reachable config own p) (built : ∀ name, id ≠ .added name)
    (held : id.kind.HeldIn t mode (p.lock id)) (path : Relation.ReflTransGen (Keeping id t) p q) :
    id.kind.HeldIn t mode (q.lock id) := by
  induction path with
  | refl => exact held
  | tail before step ih =>
    have opened := Relation.ReflTransGen.mono (fun _ _ => Step.open) _ _ (path_of_keeping before)
    exact step.heldIn built (tidy_of_reachable (.join reached (.of_path opened))) ih

theorem managed_of_reachable (reached : Reachable config own p) : p.gate.managed = managedLocks := by
  rcases path_cases (Trail.path reached) with calm | ⟨before, d, -, calm, begun, session⟩
  · exact calm.managed
  · have all := begun.managed.trans calm.managed
    exact (still_of_path session all begun.on).gate.managed.trans all

theorem on_of_governs (governs : p.gate.governs id) : p.gate.mode ≠ .off := by
  intro off
  rw [native_of_off off] at governs
  cases governs

theorem mem_managed_of_governs (reached : Reachable config own p) (governs : p.gate.governs id) :
    id ∈ managedLocks := by
  rw [Gate.governs, Gate.isManaged, managed_of_reachable reached] at governs
  simpa using (Bool.and_eq_true_iff.1 governs).2

/-- Nobody waits with a lock that the debugger needs. -/
theorem acquires_of_obtains (managed : id ∈ managedLocks) (obtains : c.obtains mode)
    (told : affirms (id.kind.call id t c) (p.gated id)) : c.acquires := by
  cases c with
  | acquire m => rfl
  | tryAcquire m => rfl
  | endWait =>
    simp only [managedLocks, List.mem_cons, List.not_mem_nil, or_false] at managed
    rcases managed with rfl | rfl | rfl | rfl <;> cases told
  | _ => cases obtains

theorem Runs.heldIn {before : Process σ} {d : ThreadId} (runs : Runs before d p)
    (kept : id.kind.Bookkept (p.lock id)) (taken : id ∈ p.taken.map (·.id)) :
    ∃ holder, id.kind.HeldIn holder .write (p.lock id) := by
  have managed := ((runs.free id).1 taken).1
  obtain ⟨holder, owner⟩ := exists_owner kept managed (runs.locked id taken)
  refine ⟨holder, kept, owner, ?_⟩
  simp only [managedLocks, List.mem_cons, List.not_mem_nil, or_false] at managed
  rcases managed with rfl | rfl | rfl | rfl
  · exact runs.writing.1
  · exact runs.writing.2 taken
  · trivial
  · trivial

/-- The session took the locks that acquisitions past the gate are no violations of. -/
theorem taken_of_allowed {before : Process σ} {d : ThreadId} (runs : Runs before d p)
    (governs : p.gate.governs id) (managed : id ∈ managedLocks) (acquires : c.acquires)
    (allowed : (endState (lockCall id t c) p).gate.counters.violations = p.gate.counters.violations) :
    id ∈ p.taken.map (·.id) := by
  obtain ⟨need, asked⟩ := asked_lockCall managed t acquires p
  rw [asked, violations_asked, violates_eq governs (runs.held id)] at allowed
  by_contra missed
  simp [missed] at allowed

/-- What assertions find after an acquisition without a violation, as long as the thread has not given up
the lock and no session has begun or ended since. Where they are not checked they find nothing amiss. -/
theorem assertion_of_acquisition (reached : Reachable config own p) (built : ∀ name, id ≠ .added name)
    (obtains : c.obtains mode) (told : affirms (id.kind.call id t c) (p.gated id))
    (allowed : (endState (lockCall id t c) p).gate.counters.violations = p.gate.counters.violations)
    (meanwhile : Activity (Keeping id t) (endState (lockCall id t c) p) q) (u : ThreadId) :
    finishes (lockCall id u .assertLocked) q ∧
      (id.kind = .rwLock →
        (finishes (lockCall id u .assertWriting) q ↔
          q.gate.config.lockAssertions = false ∨ mode = .write ∨ p.gate.governs id) ∧
        (finishes (lockCall id u .assertReading) q ↔
          q.gate.config.lockAssertions = false ∨ mode = .read ∧ p.gate.governs id = false)) := by
  have since := meanwhile.path hosts_keeping
  have kept := bookkept_of_built reached built
  have ⟨holder, held⟩ : ∃ holder, id.kind.HeldIn holder
      (if p.gate.governs id then .write else mode) (q.lock id) := by
    cases governs : p.gate.governs id with
    | false =>
      have got := LockKind.heldIn_of_told (s := p.gated id) kept governs obtains told
      rw [← lock_lockCall built] at got
      exact ⟨t, heldIn_of_path (.join reached (.step (.lock id t c p))) built got since⟩
    | true =>
      have managed := mem_managed_of_governs reached governs
      have on := on_of_governs governs
      obtain ⟨before, d, -, runs⟩ := (table_of_reachable reached).2 on
      have taken := taken_of_allowed runs governs managed (acquires_of_obtains managed obtains told) allowed
      have still := still_of_path (.head (.lock id t c p) (path_of_keeping since))
        (managed_of_reachable reached) on
      rw [lock_of_natives still.natives managed]
      exact runs.heldIn kept taken
  simp only [finishes_lockCall built]
  refine ⟨LockKind.HeldIn.assertLocked (s := q.gated id) held id u, fun rw => ⟨?_, ?_⟩⟩
  · rw [LockKind.HeldIn.assertWriting (s := q.gated id) held rw]
    cases p.gate.governs id <;> simp [gated]
  · rw [LockKind.HeldIn.assertReading (s := q.gated id) held rw]
    cases p.gate.governs id <;> simp [gated]

def inspected : Process Unit := (Debugger.start (.named "d") (Process.new {} ())).2

theorem reachable_inspected : Reachable {} () inspected := .step (.start (.named "d") _)

/-- In a full session thread b is let past the gate to write under runtimeLock; after a look at the registry
and another start its assertion holds. -/
theorem assertion_of_acquisition_writing :
    affirms (LockKind.rwLock.call .runtimeLock (.named "b") (.tryAcquire .write))
        (inspected.gated .runtimeLock) ∧
      finishes (lockCall .runtimeLock (.named "b") .assertWriting) (Debugger.start (.named "d")
        (endState (Registry.serve (.named "b") (.count : Registry.Request Unit))
          (endState (lockCall .runtimeLock (.named "b") (.tryAcquire .write)) inspected))).2 := by
  have told : affirms (LockKind.rwLock.call .runtimeLock (.named "b") (.tryAcquire .write))
      (inspected.gated .runtimeLock) := by decide
  have meanwhile : Activity (Keeping .runtimeLock (.named "b"))
      (endState (lockCall .runtimeLock (.named "b") (.tryAcquire .write)) inspected) (Debugger.start
        (.named "d") (endState (Registry.serve (.named "b") (.count : Registry.Request Unit))
          (endState (lockCall .runtimeLock (.named "b") (.tryAcquire .write)) inspected))).2 :=
    .join (.registry (.named "b") .count _) (.step (.start (.named "d") _ (by decide)))
  have asked : (LockCall.tryAcquire .write).obtains .write := by decide
  have found := assertion_of_acquisition reachable_inspected (by simp) asked told (by decide) meanwhile
    (.named "b")
  exact ⟨told, (found.2 rfl).1.2 (.inr (.inl rfl))⟩

/-- In a full session thread a is let past the gate to read under runtimeLock, which is no violation, and
the assertion that it reads is fatal. -/
theorem assertReading_bypassed :
    Reachable {} () inspected ∧ inspected.gate.mode = .full ∧
      affirms (LockKind.rwLock.call .runtimeLock (.named "a") (.acquire .read))
        (inspected.gated .runtimeLock) ∧
      (endState (lockCall .runtimeLock (.named "a") (.acquire .read)) inspected).gate.counters =
        { bypassed := 1 } ∧
      ∃ q, lockCall .runtimeLock (.named "a") .assertReading
        (endState (lockCall .runtimeLock (.named "a") (.acquire .read)) inspected) =
          .error (.fatal (.notReading "runtimeLock")) q :=
  ⟨reachable_inspected, by decide, by decide, by decide, _, rfl⟩

end Session

end ImageLoader
