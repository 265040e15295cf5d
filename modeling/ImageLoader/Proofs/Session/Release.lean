import ImageLoader.Proofs.Session.Exclusion
/-! What becomes of a release. Without a session it frees the lock at once. In a session it does nothing to
a managed lock, and the end of the session makes it good where the session holds the lock. The release of a
lock that was busy when the session began is lost: the thread that held it holds it on. -/

namespace ImageLoader

open Act Process

variable {σ : Type} {p q : Process σ} {t : ThreadId} {mode : RwMode} {id : LockId} {config : Config}
  {own : σ}

namespace LockKind

/-- Every thread that tries acquires the lock. -/
def Yields (k : LockKind) (id : LockId) (s : Gated k.State) : Prop :=
  ∀ t mode, affirms (k.call id t (.tryAcquire mode)) s

theorem yields_fresh (k : LockKind) {g : Gate} (native : g.governs id = false) :
    k.Yields id ⟨g, k.fresh⟩ := by
  intro t mode
  have tried {L : Type} {l l' : L} {need : Hold} {native' : L → Option L} (free : native' l = some l') :
      affirms (Gated.trying id need native') ⟨g, l⟩ = true := by
    rw [affirms, Gated.trying_native native, free]
  cases k with
  | mutex => exact tried rfl
  | monitor => exact tried rfl
  | rwLock => exact tried rfl
  | recursiveMutex =>
    have ready : affirms (RecursiveMutex.tryLock id t) ⟨g, RecursiveMutex.new⟩ = true := by
      rw [affirms, RecursiveMutex.tryLock, RecursiveMutex.usable_eq rfl]
      exact tried rfl
    exact ready

end LockKind

namespace Session

theorem fresh_of_release? {l l' : id.kind.State} (managed : id ∈ managedLocks)
    (h : id.kind.release? t mode l = some l') : l' = id.kind.fresh := by
  simp only [managedLocks, List.mem_cons, List.not_mem_nil, or_false] at managed
  rcases managed with rfl | rfl | rfl | rfl
  all_goals
    obtain ⟨-, released⟩ := Option.ite_none_right_eq_some.1 h
    exact (Option.some.inj released).symm

theorem built_of_managed (managed : id ∈ managedLocks) : ∀ name, id ≠ .added name := by
  rintro name rfl
  simp [managedLocks] at managed

theorem bookkept_of_built (reached : Reachable config own p) (built : ∀ name, id ≠ .added name) :
    id.kind.Bookkept (p.lock id) := by
  obtain ⟨h, run⟩ := exists_chronicle id reached
  exact (run.tracks built).kept

theorem bookkept_of_reachable (reached : Reachable config own p) (managed : id ∈ managedLocks) :
    id.kind.Bookkept (p.lock id) := bookkept_of_built reached (built_of_managed managed)

/-- Without a session a release that its caller is told of has freed the lock. -/
theorem lock_release_off (reached : Reachable config own p) (managed : id ∈ managedLocks)
    (off : p.gate.mode = .off) (told : affirms (id.kind.call id t (.release mode)) (p.gated id)) :
    (endState (lockCall id t (.release mode)) p).lock id = id.kind.fresh := by
  have native : (p.gated id).gate.governs id = false := by simp [gated, Gate.governs, off]
  have kept : id.kind.Bookkept (p.gated id).lock := bookkept_of_reachable reached managed
  rw [lock_lockCall (built_of_managed managed)]
  rcases LockKind.performs_release kept with ⟨-, idle⟩ | ⟨released, -⟩
  · rw [told, native] at idle
    cases idle
  · exact fresh_of_release? managed released

theorem native_of_off (off : p.gate.mode = .off) (id : LockId) : p.gate.governs id = false := by
  simp [Gate.governs, off]

theorem yields_of_fresh (off : p.gate.mode = .off) (free : p.lock id = id.kind.fresh) :
    id.kind.Yields id (p.gated id) := by
  rw [gated, free]
  exact LockKind.yields_fresh _ (native_of_off off id)

theorem exists_owner (kept : id.kind.Bookkept (p.lock id)) (managed : id ∈ managedLocks)
    (busy : p.natives.busy id) : ∃ holder, id.kind.owner (p.lock id) = some holder := by
  have counted : id.kind.count (p.lock id) ≠ 0 := by
    simp only [managedLocks, List.mem_cons, List.not_mem_nil, or_false] at managed
    rcases managed with rfl | rfl | rfl | rfl <;>
      · intro none
        have idle := (Bool.toNat_eq_zero).1 none
        cases idle.symm.trans busy
  rw [← Option.ne_none_iff_exists']
  intro unowned
  exact counted ((LockKind.count_eq_zero_iff kept).2 unowned)

/-- What becomes of a release that its caller is told of: without a session the lock is free at once; in
one it is free when the session has ended, if the session holds it, and otherwise it is held on. -/
theorem release_outcome (reached : Reachable config own p) (managed : id ∈ managedLocks) (t : ThreadId)
    (mode : RwMode) (told : affirms (id.kind.call id t (.release mode)) (p.gated id)) :
    (p.gate.mode = .off →
      (endState (lockCall id t (.release mode)) p).lock id = id.kind.fresh ∧
        id.kind.Yields id ((endState (lockCall id t (.release mode)) p).gated id)) ∧
    (p.gate.mode ≠ .off → ∀ q, Trail false (endState (lockCall id t (.release mode)) p) q →
      q.lock id = p.lock id ∧
      (id ∈ p.taken.map (·.id) → (Debugger.finish q).lock id = id.kind.fresh ∧
        id.kind.Yields id ((Debugger.finish q).gated id)) ∧
      (id ∉ p.taken.map (·.id) → (Debugger.finish q).lock id = p.lock id ∧
        ∃ holder, id.kind.owner (p.lock id) = some holder ∧
          ∀ other ≠ holder, id.kind.Refuses id other ((Debugger.finish q).gated id))) := by
  refine ⟨fun off => ?_, fun on q since => ?_⟩
  · have free := lock_release_off reached managed off told
    have mode := (lockCall_frame id t (.release mode) p).gate.mode
    exact ⟨free, yields_of_fresh (mode.trans off) free⟩
  · rcases path_cases (Trail.path reached) with calm | ⟨before, u, -, calm, begun, session⟩
    · exact absurd calm.mode on
    have all := begun.managed.trans calm.managed
    have sofar := still_of_path session all begun.on
    have released : Relation.ReflTransGen (Step false) p q :=
      .head (.lock id t (.release mode) p) since.path
    have rest := still_of_path released (sofar.gate.managed.trans all) on
    have ended := (finish_begun calm begun (sofar.trans rest)).2
    have same : q.lock id = p.lock id := lock_of_natives rest.natives managed
    refine ⟨same, ?_⟩
    rw [← rest.taken]
    rcases lock_finish calm begun (sofar.trans rest) id with ⟨taken, free⟩ | ⟨left, held⟩
    · exact ⟨fun _ => ⟨free, yields_of_fresh ended.mode free⟩, fun left => absurd taken left⟩
    · refine ⟨fun taken => absurd taken left, fun _ => ⟨held.trans same, ?_⟩⟩
      have busy : p.natives.busy id := by
        rw [sofar.natives, begun.natives]
        exact busy_grip u before.natives id managed
      have kept : id.kind.Bookkept (p.lock id) := bookkept_of_reachable reached managed
      obtain ⟨holder, holds⟩ := exists_owner kept managed busy
      refine ⟨holder, holds, fun other different => ?_⟩
      have unchanged : (Debugger.finish q).lock id = p.lock id := held.trans same
      rw [gated, unchanged]
      exact LockKind.refuses_of_take? kept fun mode => LockKind.take?_eq_none kept holds different

/-- Thread a reads under selLock when the session of d begins, which takes the other locks. -/
def attached : Process Unit := (Debugger.start (.named "d") reading).2

theorem reachable_attached : Reachable {} () attached :=
  .join reachable_reading (.step (.start (.named "d") reading))

theorem release_outcome_taken :
    affirms (LockKind.rwLock.call .runtimeLock (.named "b") (.release .write))
        (attached.gated .runtimeLock) ∧
      LockKind.rwLock.Yields .runtimeLock ((Debugger.finish
        (endState (lockCall .runtimeLock (.named "b") (.release .write)) attached)).gated .runtimeLock) := by
  have told : affirms (LockKind.rwLock.call .runtimeLock (.named "b") (.release .write))
      (attached.gated .runtimeLock) := by decide
  have managed : LockId.runtimeLock ∈ managedLocks := by decide
  have outcome := release_outcome reachable_attached managed (.named "b") .write told
  exact ⟨told, ((outcome.2 (by decide) _ (.none _)).2.1 (by decide)).2⟩

/-- Thread a is told that it has released selLock, but holds it when the session has ended, and the lock
stays closed to b. -/
theorem release_lost :
    Reachable {} () attached ∧ attached.natives.selLock = ⟨true, some (.named "a"), some .read⟩ ∧
      affirms (LockKind.rwLock.call .selLock (.named "a") (.release .read)) (attached.gated .selLock) ∧
      (Debugger.finish (endState (lockCall .selLock (.named "a") (.release .read)) attached)).natives.selLock =
        ⟨true, some (.named "a"), some .read⟩ ∧
      affirms (LockKind.rwLock.call .selLock (.named "b") (.tryAcquire .write)) ((Debugger.finish
        (endState (lockCall .selLock (.named "a") (.release .read)) attached)).gated .selLock) = false :=
  ⟨reachable_attached, by decide, by decide, by decide, by decide⟩

end Session

end ImageLoader
