import ImageLoader.Gate
import ImageLoader.Proofs.Act
/-! What asking the gate can change: its counters and what it recorded, and nothing that its answers
depend on. A violation is counted exactly where the gate governs the lock and does not hold it well
enough, whether its hook returns or not. -/

namespace ImageLoader.Gate

/-- The gates answer alike, up to the hook. -/
structure Agrees (g g' : Gate) : Prop where
  mode : g'.mode = g.mode
  managed : g'.managed = g.managed
  held : g'.held = g.held

theorem Agrees.refl (g : Gate) : Agrees g g := ⟨rfl, rfl, rfl⟩

theorem Agrees.trans {a b c : Gate} (h : Agrees a b) (h' : Agrees b c) : Agrees a c :=
  ⟨h'.mode.trans h.mode, h'.managed.trans h.managed, h'.held.trans h.held⟩

theorem Agrees.governs {g g' : Gate} (h : Agrees g g') (id : LockId) :
    g'.governs id = g.governs id := by
  rw [Gate.governs, Gate.governs, isManaged, isManaged, h.mode, h.managed]

theorem Agrees.satisfies {g g' : Gate} (h : Agrees g g') (id : LockId) (need : Hold) :
    g'.satisfies id need = g.satisfies id need := by
  rw [Gate.satisfies, Gate.satisfies, h.held]

def violates (g : Gate) (id : LockId) (need : Hold) : Bool := g.governs id && !g.satisfies id need

def asked (g : Gate) (id : LockId) (need : Hold) : Gate := Act.endState (acquire id need) g

theorem acquire_native {g : Gate} {id : LockId} (h : g.governs id = false) (need : Hold) :
    acquire id need g = .ok .native g := by
  simp [acquire, h]

/-- While the gate governs the lock, an acquisition is bypassed or fatal. -/
theorem acquire_governed {g : Gate} {id : LockId} (h : g.governs id = true) (need : Hold) :
    acquire id need g = .ok .bypass (g.asked id need) ∨
      ∃ e, acquire id need g = .error e (g.asked id need) := by
  unfold asked Act.endState acquire
  rw [if_pos h]
  split
  · exact Or.inl rfl
  · cases g.hook with
    | record => exact Or.inl rfl
    | fatal => exact Or.inr ⟨_, rfl⟩
    | announced => exact Or.inr ⟨_, rfl⟩

theorem asked_spec (g : Gate) (id : LockId) (need : Hold) :
    Agrees g (g.asked id need) ∧ (g.asked id need).hook = g.hook ∧
      (g.asked id need).counters.violations =
        g.counters.violations + if g.violates id need then 1 else 0 := by
  unfold asked Act.endState acquire violates
  by_cases h : g.governs id
  · by_cases hs : g.satisfies id need
    · simp only [h, hs, if_true, Bool.not_true, Bool.and_false, Bool.false_eq_true,
        if_false, UInt64.add_zero]
      exact ⟨⟨rfl, rfl, rfl⟩, rfl, rfl⟩
    · simp only [h, hs, if_true, Bool.and_true, Bool.not_false]
      cases hook : g.hook <;> exact ⟨⟨rfl, rfl, rfl⟩, hook, rfl⟩
  · simp only [h, Bool.false_and, Bool.false_eq_true, if_false, UInt64.add_zero]
    exact ⟨.refl g, trivial, trivial⟩

theorem acquire_bypass_of_satisfies {g : Gate} {id : LockId} {need : Hold} (h : g.governs id = true)
    (hs : g.satisfies id need = true ∨ g.hook = .record) :
    acquire id need g = .ok .bypass (g.asked id need) := by
  unfold asked Act.endState acquire
  rw [if_pos h]
  rcases hs with hs | hook
  · rw [if_pos hs]
  · split
    · rfl
    · rw [hook]

/-- What an acquisition counts where violations are only noted. -/
theorem counters_asked {g : Gate} (lenient : g.hook = .record) (id : LockId) (need : Hold) :
    (g.asked id need).counters =
      { bypassed := g.counters.bypassed + if g.governs id then 1 else 0
        skipped := g.counters.skipped
        violations := g.counters.violations + if g.violates id need then 1 else 0 } := by
  unfold asked Act.endState acquire violates
  by_cases h : g.governs id
  · by_cases hs : g.satisfies id need
    · simp only [h, hs, if_true, Bool.not_true, Bool.and_false, Bool.false_eq_true,
        if_false, UInt64.add_zero]
      rfl
    · simp only [h, hs, lenient, if_true, Bool.and_true, Bool.not_false]
      rfl
  · simp only [h, Bool.false_and, Bool.false_eq_true, if_false, UInt64.add_zero]

theorem release_native {g : Gate} {id : LockId} (h : g.governs id = false) :
    release id g = (.native, g) := by
  simp [release, h]

theorem release_governed {g : Gate} {id : LockId} (h : g.governs id = true) :
    release id g = (.skip, g.countSkip) := by
  simp [release, h]

theorem release_counters (g : Gate) (id : LockId) :
    (release id g).2.counters =
      { g.counters with skipped := g.counters.skipped + if g.governs id then 1 else 0 } := by
  unfold release
  split
  · rfl
  · rw [UInt64.add_zero]

theorem release_hook (g : Gate) (id : LockId) : (release id g).2.hook = g.hook := by
  unfold release
  split <;> rfl

theorem agrees_countSkip (g : Gate) : Agrees g g.countSkip := ⟨rfl, rfl, rfl⟩

end ImageLoader.Gate
