import ImageLoader.Proofs.Session.Trail
/-! A debugger session is a bracket. While it runs, no step of any thread touches a managed native lock,
the gate's tables or the list of what was taken; so its end frees what its start took, and nothing
else. -/

namespace ImageLoader

open Act Process

variable {σ : Type} {p q r : Process σ} {t : ThreadId}

theorem RwLock.grab?_eq (t : ThreadId) (l : RwLock) :
    l.grab? t = if l.busy then none else some (.write, ⟨true, some t, some .write⟩) := by
  unfold grab? take?
  by_cases h : l.busy
  · simp [h]
  · simp [h]

namespace Session

/-- All that a running session rests on is as it was. -/
structure Still (p q : Process σ) : Prop where
  gate : Gate.Agrees p.gate q.gate
  taken : q.taken = p.taken
  natives : q.natives = p.natives

theorem Still.refl (p : Process σ) : Still p p := ⟨.refl _, rfl, rfl⟩

theorem Still.trans (h : Still p q) (h' : Still q r) : Still p r :=
  ⟨h.gate.trans h'.gate, h'.taken.trans h.taken, h'.natives.trans h.natives⟩

theorem Bystands.still (h : Bystands p q) : Still p q := by
  refine ⟨h.gate, h.taken, ?_⟩
  rw [natives, natives, h.locks, h.header]

theorem governs_managed (managed : p.gate.managed = managedLocks) (on : p.gate.mode ≠ .off) :
    ∀ id ∈ managedLocks, p.gate.governs id := by
  intro id h
  simp [Gate.governs, Gate.isManaged, managed, on, h]

theorem Step.still (h : Step false p q) (managed : p.gate.managed = managedLocks)
    (on : p.gate.mode ≠ .off) : Still p q := by
  cases h with
  | lock id t call =>
    have frame := lockCall_frame id t call p
    exact ⟨frame.gate, frame.taken, frame.governed (governs_managed managed on)⟩
  | other h => exact h.still
  | start t =>
    rw [Debugger.start, if_pos on]
    exact .refl _
  | finish p ends => cases ends

theorem still_of_path (h : Relation.ReflTransGen (Step false) p q)
    (managed : p.gate.managed = managedLocks) (on : p.gate.mode ≠ .off) : Still p q := by
  induction h with
  | refl => exact .refl _
  | tail _ step ih =>
    refine ih.trans (step.still (ih.gate.managed.trans managed) ?_)
    rw [ih.gate.mode]
    exact on

/-- No session runs, and nothing is left of an earlier one. -/
structure Calm (p : Process σ) : Prop where
  mode : p.gate.mode = .off
  managed : p.gate.managed = managedLocks
  held : p.gate.held = {}
  taken : p.taken = []
  tidy : p.natives.Tidy

theorem calm_new (config : Config) (own : σ) : Calm (Process.new config own) :=
  ⟨rfl, rfl, rfl, rfl, fun _ => rfl, fun _ => rfl, fun _ => rfl, fun _ => rfl⟩

theorem Calm.of_agrees (h : Calm p) (gate : Gate.Agrees p.gate q.gate) (taken : q.taken = p.taken)
    (tidy : q.natives.Tidy) : Calm q :=
  ⟨gate.mode.trans h.mode, gate.managed.trans h.managed, gate.held.trans h.held,
    taken.trans h.taken, tidy⟩

theorem Still.calm (h : Still p q) (calm : Calm p) : Calm q :=
  calm.of_agrees h.gate h.taken (h.natives ▸ calm.tidy)

/-- What a session takes: the locks it requires, and those of the others that are free. -/
def takes (n : Natives) : List Taken :=
  [.runtimeLock .write, .cacheUpdateLock] ++ (if n.selLock.busy then [] else [.selLock .write]) ++
    (if n.headerLock.busy then [] else [.headerLock])

def grip (t : ThreadId) (n : Natives) : Natives where
  runtimeLock := ⟨true, some t, some .write⟩
  selLock := if n.selLock.busy then n.selLock else ⟨true, some t, some .write⟩
  cacheUpdateLock := ⟨true, some t⟩
  headerLock := if n.headerLock.busy then n.headerLock else ⟨true, some t⟩

/-- A session of thread `t` has begun. -/
structure Begun (t : ThreadId) (p q : Process σ) : Prop where
  runtimeLock : p.natives.runtimeLock.busy = false
  cacheUpdateLock : p.natives.cacheUpdateLock.busy = false
  mode : q.gate.mode = if p.natives.selLock.busy || p.natives.headerLock.busy then .partly else .full
  managed : q.gate.managed = p.gate.managed
  held : q.gate.held = (Debugger.markTaken (takes p.natives) p.gate).held
  taken : q.taken = takes p.natives
  natives : q.natives = grip t p.natives

theorem markTaken_managed (taken : List Taken) (g : Gate) :
    (Debugger.markTaken taken g).managed = g.managed := by
  induction taken generalizing g with
  | nil => rfl
  | cons k rest ih => exact ih (g.markHeld k.id k.hold)

@[simp] theorem enterMode_gate (mode : DebuggerMode) (p : Process σ) :
    (Debugger.enterMode mode p).gate = { p.gate with mode } := rfl

@[simp] theorem enterMode_natives (mode : DebuggerMode) (p : Process σ) :
    (Debugger.enterMode mode p).natives = p.natives := rfl

@[simp] theorem enterMode_taken (mode : DebuggerMode) (p : Process σ) :
    (Debugger.enterMode mode p).taken = p.taken := rfl

theorem exists_lines_refuse (busy : LockId) (p : Process σ) :
    ∃ lines, Debugger.refuse busy p = p.note lines := by
  unfold Debugger.refuse
  split
  · exact ⟨_, rfl⟩
  · exact ⟨[], by simp [note]⟩

/-- Where no session runs a start is refused and says so in the log at most, or a session has begun. -/
theorem start_off_cases (off : p.gate.mode = .off) (tidy : p.natives.Tidy) (t : ThreadId) :
    (p.natives.runtimeLock.busy || p.natives.cacheUpdateLock.busy) = true ∧
        (∃ lines, Debugger.start t p = (.off, p.note lines)) ∨
      (Debugger.start t p).1 = (Debugger.start t p).2.gate.mode ∧
        Begun t p (Debugger.start t p).2 := by
  unfold Debugger.start
  rw [if_neg (not_not.2 off), RwLock.grab?_eq, RwLock.grab?_eq]
  by_cases runtime : p.locks.runtimeLock.busy
  · rw [if_pos runtime]
    obtain ⟨lines, refused⟩ := exists_lines_refuse .runtimeLock p
    exact Or.inl ⟨Bool.or_eq_true_iff.2 (Or.inl runtime), lines, congrArg _ refused⟩
  rw [if_neg runtime]
  dsimp only
  rw [Bool.not_eq_true] at runtime
  by_cases cache : p.locks.cacheUpdateLock.busy
  · rw [Mutex.take?, if_pos cache]
    dsimp only
    -- what was taken of runtimeLock is given back
    have restored : { p.locks with runtimeLock := RwLock.free ⟨true, some t, some .write⟩ } = p.locks :=
      congrArg (fun l => { p.locks with runtimeLock := l }) (tidy.runtimeLock runtime).symm
    obtain ⟨lines, refused⟩ := exists_lines_refuse .cacheUpdateLock p
    rw [restored, refused]
    exact Or.inl ⟨Bool.or_eq_true_iff.2 (Or.inr cache), lines, rfl⟩
  rw [Mutex.take?, if_neg cache]
  dsimp only
  rw [Bool.not_eq_true] at cache
  refine Or.inr ⟨rfl, runtime, cache, ?_, markTaken_managed _ _, ?_, ?_, ?_⟩
  all_goals
    simp only [enterMode_gate, enterMode_natives, enterMode_taken, takes, grip]
    -- which of the two locks that a session can do without are free
    cases sel : p.locks.selLock.busy <;> cases header : p.registry.lock.busy <;>
      simp [natives, sel, header, Mutex.take?]

theorem start_cases (calm : Calm p) (t : ThreadId) :
    (Debugger.start t p).1 = .off ∧ Still p (Debugger.start t p).2 ∨
      (Debugger.start t p).1 = (Debugger.start t p).2.gate.mode ∧
        Begun t p (Debugger.start t p).2 := by
  refine (start_off_cases calm.mode calm.tidy t).imp_left fun ⟨_, lines, refused⟩ => ?_
  rw [refused]
  exact ⟨rfl, .refl _, rfl, rfl⟩

theorem Begun.on (h : Begun t p q) : q.gate.mode ≠ .off := by
  rw [h.mode]
  split <;> decide

theorem foldl_freeTaken (taken : List Taken) (p : Process σ) :
    (taken.foldl Debugger.freeTaken p).natives = taken.foldl Natives.free p.natives ∧
      (taken.foldl Debugger.freeTaken p).gate = p.gate := by
  induction taken generalizing p with
  | nil => exact ⟨rfl, rfl⟩
  | cons k rest ih =>
    obtain ⟨natives, gate⟩ := ih (Debugger.freeTaken p k)
    rw [List.foldl_cons, List.foldl_cons, natives, gate]
    cases k <;> exact ⟨rfl, rfl⟩

theorem free_grip {n : Natives} (tidy : n.Tidy) (runtime : n.runtimeLock.busy = false)
    (cache : n.cacheUpdateLock.busy = false) :
    (takes n).reverse.foldl Natives.free (grip t n) = n := by
  obtain ⟨runtimeLock, selLock, cacheUpdateLock, headerLock⟩ := n
  obtain rfl := tidy.runtimeLock runtime
  obtain rfl := tidy.cacheUpdateLock cache
  have sel := tidy.selLock
  have header := tidy.headerLock
  dsimp only at sel header
  cases hs : selLock.busy <;> cases hh : headerLock.busy <;>
    simp [takes, grip, Natives.free, hs, hh, RwLock.free, Mutex.free]
  · exact ⟨(sel hs).symm, (header hh).symm⟩
  · exact (sel hs).symm
  · exact (header hh).symm

/-- The end of a session gives the managed locks back as they were before its start. -/
theorem finish_begun (calm : Calm p) (begun : Begun t p q) (still : Still q r) :
    (Debugger.finish r).natives = p.natives ∧ Calm (Debugger.finish r) := by
  have on : r.gate.mode ≠ .off := by
    rw [still.gate.mode]
    exact begun.on
  obtain ⟨freed, gate⟩ := foldl_freeTaken r.taken.reverse (Debugger.enterMode .off r)
  rw [enterMode_natives, still.taken, begun.taken, still.natives, begun.natives,
    free_grip calm.tidy begun.runtimeLock begun.cacheUpdateLock] at freed
  have natives : (Debugger.finish r).natives = p.natives := by
    rw [Debugger.finish, if_neg on]
    rw [← begun.taken, ← still.taken] at freed
    exact freed
  refine ⟨natives, ?_⟩
  rw [Debugger.finish, if_neg on] at natives ⊢
  refine ⟨?_, ?_, rfl, rfl, natives ▸ calm.tidy⟩
  · exact congrArg Gate.mode gate
  · have managed := still.gate.managed.trans (begun.managed.trans calm.managed)
    exact (congrArg Gate.managed gate).trans managed

/-- What a process has come to: none of its sessions runs, or one that began runs since. -/
theorem path_cases {config : Config} {own : σ}
    (h : Relation.ReflTransGen (Step true) (Process.new config own) p) :
    Calm p ∨ ∃ before t, Relation.ReflTransGen (Step true) (Process.new config own) before ∧
      Calm before ∧ Begun t before (Debugger.start t before).2 ∧
      Relation.ReflTransGen (Step false) (Debugger.start t before).2 p := by
  induction h with
  | refl => exact Or.inl (calm_new config own)
  | @tail p q path step ih =>
    rcases ih with calm | ⟨before, t, reached, calm, begun, session⟩
    · cases step with
      | lock id t call =>
        have frame := lockCall_frame id t call p
        exact Or.inl (calm.of_agrees frame.gate frame.taken (frame.tidy calm.tidy))
      | other h => exact Or.inl (h.still.calm calm)
      | start t =>
        rcases start_cases calm t with ⟨-, still⟩ | ⟨-, begun⟩
        · exact Or.inl (still.calm calm)
        · exact Or.inr ⟨p, t, path, calm, begun, .refl⟩
      | finish p ends =>
        rw [Debugger.finish, if_pos calm.mode]
        exact Or.inl calm
    · cases step with
      | lock id t' call => exact Or.inr ⟨before, t, reached, calm, begun, session.tail (.lock id t' call p)⟩
      | other h => exact Or.inr ⟨before, t, reached, calm, begun, session.tail (.other h)⟩
      | start t' => exact Or.inr ⟨before, t, reached, calm, begun, session.tail (.start t' p)⟩
      | finish p ends =>
        have still := still_of_path session (begun.managed.trans calm.managed) begun.on
        exact Or.inl (finish_begun calm begun still).2

def Reachable (config : Config) (own : σ) (p : Process σ) : Prop :=
  Trail true (Process.new config own) p

theorem Reachable.calm {config : Config} {own : σ} (h : Reachable config own p)
    (off : p.gate.mode = .off) : Calm p := by
  rcases path_cases (Trail.path h) with calm | ⟨before, t, -, calm, begun, session⟩
  · exact calm
  · have still := still_of_path session (begun.managed.trans calm.managed) begun.on
    exact absurd (still.gate.mode.symm.trans off) begun.on

theorem busy_of_mem_takes {n : Natives} (runtime : n.runtimeLock.busy = false)
    (cache : n.cacheUpdateLock.busy = false) : ∀ k ∈ takes n, n.busy k.id = false := by
  intro k h
  unfold takes at h
  cases hs : n.selLock.busy <;> cases hh : n.headerLock.busy <;>
    simp [hs, hh] at h <;> rcases h with rfl | rfl | rfl | rfl <;>
      simp [Natives.busy, Taken.id, *]

/-- A session that began is over without a trace, whoever did what with the locks while it ran. -/
theorem finish_restores {config : Config} {own : σ} (reached : Reachable config own p)
    (off : p.gate.mode = .off) (t : ThreadId) (started : (Debugger.start t p).1 ≠ .off)
    (meanwhile : Trail false (Debugger.start t p).2 q) :
    (Debugger.finish q).natives = p.natives ∧ (Debugger.finish q).gate.held = {} ∧
      (Debugger.finish q).taken = [] ∧ (Debugger.finish q).gate.mode = .off ∧
      ∀ k ∈ (Debugger.start t p).2.taken, (Debugger.finish q).natives.busy k.id = false := by
  have calm := reached.calm off
  rcases start_cases calm t with ⟨refused, -⟩ | ⟨-, begun⟩
  · exact absurd refused started
  · have still := still_of_path meanwhile.path (begun.managed.trans calm.managed) begun.on
    obtain ⟨natives, ended⟩ := finish_begun calm begun still
    refine ⟨natives, ended.held, ended.taken, ended.mode, fun k h => ?_⟩
    rw [natives]
    rw [begun.taken] at h
    exact busy_of_mem_takes begun.runtimeLock begun.cacheUpdateLock k h

def reading : Process Unit :=
  endState (lockCall .selLock (.named "a") (.acquire .read)) (Process.new {} ())

theorem reachable_reading : Reachable {} () reading :=
  .step (.lock .selLock (.named "a") (.acquire .read) (Process.new {} ()))

/-- A partial session, in which b takes what the debugger holds, c counts the images, and a gives up the
lock that it held before. -/
def interrupted : Process Unit :=
  endState (lockCall .selLock (.named "a") (.release .read)) <|
    endState (Registry.serve (.named "c") (.count : Registry.Request Unit)) <|
      endState (lockCall .runtimeLock (.named "b") (.acquire .write))
        (Debugger.start (.named "d") reading).2

theorem finish_restores_interrupted :
    (Debugger.start (.named "d") reading).1 = .partly ∧
      (Debugger.finish interrupted).natives = reading.natives ∧
      reading.natives.selLock = ⟨true, some (.named "a"), some .read⟩ := by
  have meanwhile : Trail false (Debugger.start (.named "d") reading).2 interrupted :=
    .join (.step (.lock .runtimeLock (.named "b") (.acquire .write) _)) <|
      .join (.registry (.named "c") .count _) (.step (.lock .selLock (.named "a") (.release .read) _))
  have ended := finish_restores reachable_reading (by decide) (.named "d") (by decide) meanwhile
  exact ⟨by decide, ended.1, by decide⟩

end Session

end ImageLoader
