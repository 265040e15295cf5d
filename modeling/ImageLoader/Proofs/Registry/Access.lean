import ImageLoader.Registry
import ImageLoader.Proofs.Gate
/-! What one access to the registry does. Natively it finds the registry's lock free and leaves it
free; while the debugger governs that lock, the lock stays as it is and the gate counts. Either way the
list is changed once and the loader's tables are not. -/

namespace ImageLoader.Registry

open Act

variable {σ β γ : Type} {t : ThreadId} {f : ImageList → β × ImageList} {p : Process σ}

theorem access_native (h : p.gate.governs .headerLock = false) :
    access t f p =
      if p.registry.lock.busy then .error (.blocked .headerLock) p
      else .ok (f p.registry.value).1 { p with registry := ⟨{}, (f p.registry.value).2⟩ } := by
  obtain ⟨gate, locks, ⟨⟨busy, owner⟩, value⟩, loader, taken, log, client⟩ := p
  change gate.governs .headerLock = false at h
  cases busy <;>
    simp [access, Process.onRegistry, Process.onLock, Guarded.withValue, Guarded.onLock, Gated.focus,
      Guarded.update, bind_apply, map_apply, discard_apply, Mutex.lock, Gated.blocking,
      Gate.acquire_native h, Mutex.take?, Mutex.unlock, Gated.releasing, Gate.release_native h,
      Mutex.release?, Mutex.free, Process.report]

theorem access_governed (h : p.gate.governs .headerLock = true) :
    access t f p =
      match Gate.acquire .headerLock .exclusive p.gate with
      | .ok _ g =>
        .ok (f p.registry.value).1
          { p with gate := g.countSkip, registry := ⟨p.registry.lock, (f p.registry.value).2⟩ }
      | .error e g => .error e ({ p with gate := g }.report e) := by
  obtain ⟨gate, locks, ⟨lock, value⟩, loader, taken, log, client⟩ := p
  change gate.governs .headerLock = true at h
  have still := ((gate.asked_spec .headerLock .exclusive).1.governs .headerLock).trans h
  rcases Gate.acquire_governed h .exclusive with e | ⟨cause, e⟩
  · simp [access, Process.onRegistry, Process.onLock, Guarded.withValue, Guarded.onLock, Gated.focus,
      Guarded.update, bind_apply, map_apply, discard_apply, Mutex.lock, Gated.blocking, e,
      Mutex.unlock, Gated.releasing, Gate.release_governed still]
  · simp [access, Process.onRegistry, Process.onLock, Guarded.withValue, Guarded.onLock, Gated.focus,
      bind_apply, Mutex.lock, Gated.blocking, e]

/-- What an access leaves as it was, apart from the list. -/
structure Frame (p q : Process σ) : Prop where
  loader : q.loader = p.loader
  client : q.client = p.client
  locks : q.locks = p.locks
  taken : q.taken = p.taken
  gate : Gate.Agrees p.gate q.gate

theorem access_ok {b : β} {q : Process σ} (h : access t f p = .ok b q) :
    b = (f p.registry.value).1 ∧ q.registry.value = (f p.registry.value).2 ∧ Frame p q := by
  by_cases hg : p.gate.governs .headerLock
  · rw [access_governed hg] at h
    cases ha : Gate.acquire .headerLock .exclusive p.gate with
    | error e g => rw [ha] at h; cases h
    | ok a g =>
      rw [ha] at h
      cases h
      have agrees := (p.gate.asked_spec .headerLock .exclusive).1
      rw [Gate.asked, endState, ha] at agrees
      exact ⟨rfl, rfl, rfl, rfl, rfl, rfl, agrees.trans g.agrees_countSkip⟩
  · rw [access_native (by simpa using hg)] at h
    split at h
    · cases h
    · cases h
      exact ⟨rfl, rfl, rfl, rfl, rfl, rfl, .refl _⟩

/-- The registry's lock is free, or it is the debugger's and acquiring it is not fatal. -/
def available (p : Process σ) : Bool :=
  if p.gate.governs .headerLock then
    p.gate.satisfies .headerLock .exclusive || p.gate.hook = .record
  else !p.registry.lock.busy

theorem access_of_available (h : available p) (t : ThreadId) (f : ImageList → β × ImageList) :
    ∃ q, access t f p = .ok (f p.registry.value).1 q ∧ available q := by
  unfold available at h
  by_cases hg : p.gate.governs .headerLock
  · rw [if_pos hg, Bool.or_eq_true, decide_eq_true_eq] at h
    rw [access_governed hg, Gate.acquire_bypass_of_satisfies hg h]
    refine ⟨_, rfl, ?_⟩
    obtain ⟨agrees, hook, -⟩ := p.gate.asked_spec .headerLock .exclusive
    have agrees := agrees.trans (Gate.agrees_countSkip _)
    unfold available
    rw [if_pos ((agrees.governs _).trans hg), agrees.satisfies, Bool.or_eq_true, decide_eq_true_eq]
    exact h.imp id hook.trans
  · rw [if_neg hg, Bool.not_eq_true'] at h
    rw [access_native (by simpa using hg), h]
    refine ⟨_, rfl, ?_⟩
    unfold available
    rw [if_neg hg]
    rfl

end ImageLoader.Registry
