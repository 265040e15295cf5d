import ImageLoader.Proofs.Session.Bracket
/-! The gate's table tells the truth. Without a session it is empty; in one it names the managed locks
that were free at its start, each natively held for writing ever since. So an acquisition is a violation
only in a partial session, of a lock that was busy when the session began. -/

namespace ImageLoader

open Act Process

variable {σ β : Type} {p q before : Process σ} {t : ThreadId}

namespace Session

theorem get?_markTaken (id : LockId) (taken : List Taken) (g : Gate)
    (exclusive : ∀ k ∈ taken, k.hold = .exclusive) :
    (Debugger.markTaken taken g).held.get? id =
      if id ∈ taken.map (·.id) then some .exclusive else g.held.get? id := by
  induction taken generalizing g with
  | nil => simp [Debugger.markTaken]
  | cons k rest ih =>
    rw [List.forall_mem_cons] at exclusive
    change (Debugger.markTaken rest (g.markHeld k.id k.hold)).held.get? id = _
    rw [ih _ exclusive.2, Gate.markHeld, Table.get?_insert, exclusive.1]
    by_cases here : k.id = id
    · simp [here]
    · simp [here, Ne.symm here]

theorem hold_of_mem_takes (n : Natives) : ∀ k ∈ takes n, k.hold = .exclusive := by
  intro k h
  unfold takes at h
  cases hs : n.selLock.busy <;> cases hh : n.headerLock.busy <;>
    simp [hs, hh] at h <;> rcases h with rfl | rfl | rfl | rfl <;> rfl

theorem mem_takes {n : Natives} (runtime : n.runtimeLock.busy = false)
    (cache : n.cacheUpdateLock.busy = false) (id : LockId) :
    id ∈ (takes n).map (·.id) ↔ id ∈ managedLocks ∧ n.busy id = false := by
  unfold takes managedLocks
  cases hs : n.selLock.busy <;> cases hh : n.headerLock.busy <;> cases id <;>
    simp [Taken.id, Natives.busy, runtime, cache, hs, hh]

theorem busy_grip (t : ThreadId) (n : Natives) : ∀ id ∈ managedLocks, (grip t n).busy id := by
  intro id h
  unfold grip
  cases hs : n.selLock.busy <;> cases hh : n.headerLock.busy <;> cases id <;>
    simp_all [managedLocks, Natives.busy]

/-- In `p` the session runs that thread `t` began in `before`. -/
structure Runs (before : Process σ) (t : ThreadId) (p : Process σ) : Prop where
  off : before.gate.mode = .off
  mode : (Debugger.start t before).1 = p.gate.mode
  since : Trail false (Debugger.start t before).2 p
  /-- What was taken when it began, which is what was free then. -/
  taken : p.taken = (Debugger.start t before).2.taken
  free : ∀ id, id ∈ p.taken.map (·.id) ↔ id ∈ managedLocks ∧ before.natives.busy id = false
  required : .runtimeLock ∈ p.taken.map (·.id) ∧ .cacheUpdateLock ∈ p.taken.map (·.id)
  held : ∀ id, p.gate.held.get? id = if id ∈ p.taken.map (·.id) then some .exclusive else none
  locked : ∀ id ∈ p.taken.map (·.id), p.natives.busy id
  writing : p.natives.runtimeLock.mode = some .write ∧
    (.selLock ∈ p.taken.map (·.id) → p.natives.selLock.mode = some .write)
  full : p.gate.mode = .full ↔ ∀ id ∈ managedLocks, id ∈ p.taken.map (·.id)
  /-- An acquisition is a violation in a partial session, of a lock that was busy when it began. -/
  acquired : ∀ id ∈ managedLocks, ∀ t' call, call.acquires →
    (endState (lockCall id t' call) p).gate.counters.violations =
      p.gate.counters.violations + if p.gate.mode = .partly ∧
        (id = .selLock ∨ id = .headerLock) ∧ before.natives.busy id then 1 else 0
  /-- A request to the registry acquires its lock once. -/
  requested : ∀ {β : Type} t' (r : Registry.Request β),
    (endState (Registry.serve t' r) p).gate.counters.violations =
      p.gate.counters.violations + if p.gate.mode = .partly ∧
        before.natives.busy .headerLock then 1 else 0

theorem violations_serve (h : p.gate.governs .headerLock) (t : ThreadId) (r : Registry.Request β) :
    (endState (Registry.serve t r) p).gate.counters.violations =
      (p.gate.asked .headerLock .exclusive).counters.violations := by
  rw [Registry.serve_eq_access, endState, Registry.access_governed h]
  unfold Gate.asked endState
  cases Gate.acquire .headerLock .exclusive p.gate with
  | ok a g => rfl
  | error e g => cases e <;> rfl

/-- In a session the gate misses exactly the managed locks that were not taken. -/
theorem violates_eq {taken : List Taken} {id : LockId} (governs : p.gate.governs id)
    (held : p.gate.held.get? id = if id ∈ taken.map (·.id) then some .exclusive else none)
    (need : Hold) : p.gate.violates id need = !decide (id ∈ taken.map (·.id)) := by
  rw [Gate.violates, governs, Gate.satisfies, held]
  by_cases h : id ∈ taken.map (·.id) <;> simp [h, Hold.satisfies]

theorem violations_asked (g : Gate) (id : LockId) (need : Hold) :
    (g.asked id need).counters.violations =
      g.counters.violations + if g.violates id need then 1 else 0 := (g.asked_spec id need).2.2

/-- A managed lock that was not taken was busy, and is not one of those required. -/
theorem not_mem_takes {n : Natives} (runtime : n.runtimeLock.busy = false)
    (cache : n.cacheUpdateLock.busy = false) {id : LockId} (managed : id ∈ managedLocks) :
    id ∉ (takes n).map (·.id) ↔ (id = .selLock ∨ id = .headerLock) ∧ n.busy id := by
  rw [mem_takes runtime cache]
  cases id <;> simp_all [managedLocks, Natives.busy]

theorem takes_all (n : Natives) :
    (∀ id ∈ managedLocks, id ∈ (takes n).map (·.id)) ↔
      n.selLock.busy = false ∧ n.headerLock.busy = false := by
  unfold takes managedLocks
  cases hs : n.selLock.busy <;> cases hh : n.headerLock.busy <;> simp [Taken.id]

theorem Begun.runs (calm : Calm before) (begun : Begun t before (Debugger.start t before).2)
    (mode : (Debugger.start t before).1 = (Debugger.start t before).2.gate.mode)
    (since : Trail false (Debugger.start t before).2 p) : Runs before t p := by
  have managed := begun.managed.trans calm.managed
  have still := still_of_path since.path managed begun.on
  have governs := governs_managed (still.gate.managed.trans managed) (still.gate.mode ▸ begun.on)
  have taken : p.taken = takes before.natives := still.taken.trans begun.taken
  have natives : p.natives = grip t before.natives := still.natives.trans begun.natives
  have runtime := begun.runtimeLock
  have cache := begun.cacheUpdateLock
  have held (id : LockId) : p.gate.held.get? id =
      if id ∈ p.taken.map (·.id) then some .exclusive else none := by
    rw [taken, still.gate.held, begun.held, get?_markTaken _ _ _ (hold_of_mem_takes _), calm.held]
    rfl
  have partly : p.gate.mode = if before.natives.selLock.busy || before.natives.headerLock.busy then
      .partly else .full := still.gate.mode.trans begun.mode
  have missed (id : LockId) (h : id ∈ managedLocks) :
      (!decide (id ∈ p.taken.map (·.id))) = true ↔
        p.gate.mode = .partly ∧ (id = .selLock ∨ id = .headerLock) ∧ before.natives.busy id := by
    rw [Bool.not_eq_true', decide_eq_false_iff_not, taken, not_mem_takes runtime cache h,
      iff_and_self, partly]
    rintro ⟨rfl | rfl, busy⟩
    · exact if_pos (Bool.or_eq_true_iff.2 (Or.inl busy))
    · exact if_pos (Bool.or_eq_true_iff.2 (Or.inr busy))
  refine
    { off := calm.mode
      mode := mode.trans still.gate.mode.symm
      since
      taken := still.taken
      free := fun id => taken ▸ mem_takes runtime cache id
      required := ?_
      held
      locked := fun id h => ?_
      writing := ?_
      full := ?_
      acquired := fun id h t' call acquires => ?_
      requested := fun t' r => ?_ }
  · rw [taken]
    exact ⟨by simp [takes, Taken.id], by simp [takes, Taken.id]⟩
  · rw [taken, mem_takes runtime cache] at h
    rw [natives]
    exact busy_grip t _ id h.1
  · rw [natives, taken]
    refine ⟨rfl, fun h => ?_⟩
    have free := ((mem_takes runtime cache _).1 h).2
    rw [grip, if_neg (by simpa [Natives.busy] using free)]
  · rw [partly, taken, takes_all]
    cases before.natives.selLock.busy <;> cases before.natives.headerLock.busy <;> simp
  · obtain ⟨need, asked⟩ := asked_lockCall h t' acquires p
    rw [asked, violations_asked, violates_eq (governs id h) (held id)]
    simp only [missed id h]
  · rw [violations_serve (governs _ (by decide)), violations_asked,
      violates_eq (governs _ (by decide)) (held _)]
    simp only [missed .headerLock (by decide), or_true, true_and]

/-- The table of the gate in every state of a process. -/
theorem table_of_reachable {config : Config} {own : σ} (reached : Reachable config own p) :
    (p.gate.mode = .off → p.gate.held = {} ∧ p.taken = []) ∧
      (p.gate.mode ≠ .off → ∃ before t, Reachable config own before ∧ Runs before t p) := by
  refine ⟨fun off => ⟨(reached.calm off).held, (reached.calm off).taken⟩, fun on => ?_⟩
  rcases path_cases (Trail.path reached) with calm | ⟨before, t, path, calm, begun, session⟩
  · exact absurd calm.mode on
  · rcases start_cases calm t with ⟨-, still⟩ | ⟨mode, -⟩
    · exact absurd (still.calm calm).mode begun.on
    · exact ⟨before, t, .of_path path, begun.runs calm mode (.of_path session)⟩

theorem table_of_reachable_reading :
    ∃ before t, Runs before t (Debugger.start (.named "d") reading).2 ∧
      (Debugger.start (.named "d") reading).2.gate.held.get? .headerLock = some .exclusive ∧
      (Debugger.start (.named "d") reading).2.gate.held.get? .selLock = none := by
  have reached : Reachable {} () (Debugger.start (.named "d") reading).2 :=
    .join reachable_reading (.step (.start (.named "d") reading))
  obtain ⟨before, t, -, runs⟩ := (table_of_reachable reached).2 (by decide)
  exact ⟨before, t, runs, by decide, by decide⟩

end Session

end ImageLoader
