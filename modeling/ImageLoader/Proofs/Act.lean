import Mathlib.Logic.Relation
/-! Actions that may stop, and properties of them that sequencing keeps. `Keeps I` is about actions that
finish: they lead from a state in `I` to one in `I`. `Moves R` is about all of them: wherever one ends,
stopped or not, a path of `R` leads there. -/

namespace ImageLoader.Act

variable {ε s α β : Type}

theorem bind_apply (x : EStateM ε s α) (f : α → EStateM ε s β) (p : s) :
    (x >>= f) p = match x p with
      | .ok a q => f a q
      | .error e q => .error e q := rfl

theorem map_apply (g : α → β) (x : EStateM ε s α) (p : s) :
    (g <$> x) p = match x p with
      | .ok a q => .ok (g a) q
      | .error e q => .error e q := rfl

theorem discard_apply (x : EStateM ε s α) (p : s) :
    (discard x : EStateM ε s Unit) p = match x p with
      | .ok _ q => .ok () q
      | .error e q => .error e q := rfl

theorem discard_eq_bind (x : EStateM ε s α) : discard x = x >>= fun _ => pure () := rfl

theorem map_eq_bind (g : α → β) (x : EStateM ε s α) : g <$> x = x >>= fun a => pure (g a) := rfl

/-- A sequence that finished did so after its first part had. -/
theorem bind_eq_ok {x : EStateM ε s α} {f : α → EStateM ε s β} {p r : s} {b : β} :
    (x >>= f) p = .ok b r ↔ ∃ a q, x p = .ok a q ∧ f a q = .ok b r := by
  rw [bind_apply]
  constructor
  · intro h
    cases hx : x p with
    | ok a q => exact ⟨a, q, rfl, by rwa [hx] at h⟩
    | error e q => rw [hx] at h; cases h
  · rintro ⟨a, q, hx, hf⟩
    rw [hx]
    exact hf

theorem modify_eq_ok {f : s → s} {p q : s} {a : Unit} :
    (modify f : EStateM ε s Unit) p = .ok a q ↔ q = f p :=
  ⟨fun h => by cases h; rfl, fun h => h ▸ rfl⟩

theorem discard_eq_ok {x : EStateM ε s α} {p q : s} {u : Unit} :
    (discard x : EStateM ε s Unit) p = .ok u q ↔ ∃ a, x p = .ok a q := by
  rw [discard_apply]
  cases x p <;> simp

/-- The state in which an action ends. -/
def endState (x : EStateM ε s α) (p : s) : s :=
  match x p with
  | .ok _ q => q
  | .error _ q => q

theorem endState_of_ok {x : EStateM ε s α} {p q : s} {a : α} (h : x p = .ok a q) : endState x p = q := by
  rw [endState, h]

@[simp] theorem endState_discard (x : EStateM ε s α) (p : s) :
    endState (discard x : EStateM ε s Unit) p = endState x p := by
  rw [endState, discard_apply, endState]
  cases x p <;> rfl

@[simp] theorem endState_map (f : α → β) (x : EStateM ε s α) (p : s) :
    endState (f <$> x) p = endState x p := by
  rw [endState, map_apply, endState]
  cases x p <;> rfl

theorem map_error {x : EStateM ε s α} {f : α → β} {p q : s} {e : ε} (h : x p = .error e q) :
    (f <$> x) p = .error e q := by
  rw [map_apply, h]

/-- Whether the action answers `true`. -/
def affirms (x : EStateM ε s Bool) (p : s) : Bool :=
  match x p with
  | .ok b _ => b
  | .error _ _ => false

def finishes (x : EStateM ε s α) (p : s) : Bool :=
  match x p with
  | .ok _ _ => true
  | .error _ _ => false

theorem exists_ok {x : EStateM ε s α} {p : s} (h : finishes x p) : ∃ a, x p = .ok a (endState x p) := by
  unfold finishes at h
  unfold endState
  cases e : x p with
  | ok a q => exact ⟨a, rfl⟩
  | error e' q =>
    rw [e] at h
    cases h

/-- What the action answers, if it finishes. -/
def answer? (x : EStateM ε s α) (p : s) : Option α :=
  match x p with
  | .ok a _ => some a
  | .error _ _ => none

theorem ok_of_answer? {x : EStateM ε s α} {p : s} {a : α} (h : answer? x p = some a) :
    x p = .ok a (endState x p) := by
  unfold answer? at h
  unfold endState
  cases e : x p with
  | ok b q =>
    rw [e] at h
    cases h
    rfl
  | error e' q =>
    rw [e] at h
    cases h

/-- A property of actions that sequencing keeps. -/
structure Closed (P : ∀ {α : Type}, EStateM ε s α → Prop) : Prop where
  pure : ∀ {α : Type} (a : α), P (pure a : EStateM ε s α)
  bind : ∀ {α β : Type} {x : EStateM ε s α} {f : α → EStateM ε s β},
    P x → (∀ a, P (f a)) → P (x >>= f)

theorem Closed.discard {P : ∀ {α : Type}, EStateM ε s α → Prop} (h : Closed P) {x : EStateM ε s α}
    (hx : P x) : P (discard x : EStateM ε s Unit) := by
  rw [discard_eq_bind]
  exact h.bind hx fun _ => h.pure _

def Keeps (I : s → Prop) (x : EStateM ε s α) : Prop := ∀ p, I p → ∀ a q, x p = .ok a q → I q

theorem closed_keeps (I : s → Prop) : Closed (ε := ε) (Keeps I) where
  pure a p hp b q h := by
    cases h
    exact hp
  bind hx hf p hp b r h := by
    obtain ⟨a, q, h1, h2⟩ := bind_eq_ok.1 h
    exact hf a q (hx p hp a q h1) b r h2

theorem keeps_get (I : s → Prop) : Keeps I (get : EStateM ε s s) := by
  intro p hp a q h
  cases h
  exact hp

theorem keeps_modify {I : s → Prop} {f : s → s} (h : ∀ p, I p → I (f p)) :
    Keeps I (modify f : EStateM ε s Unit) := by
  intro p hp a q hq
  rw [modify_eq_ok.1 hq]
  exact h p hp

def Moves (R : s → s → Prop) (x : EStateM ε s α) : Prop :=
  ∀ p, Relation.ReflTransGen R p (endState x p)

theorem closed_moves (R : s → s → Prop) : Closed (ε := ε) (Moves R) where
  pure a p := .refl
  bind {α β x f} hx hf p := by
    have h := hx p
    rw [endState] at h ⊢
    rw [bind_apply]
    cases hxp : x p with
    | ok a q =>
      rw [hxp] at h
      exact h.trans (hf a q)
    | error e q =>
      rw [hxp] at h
      exact h

theorem moves_get (R : s → s → Prop) : Moves R (get : EStateM ε s s) := fun _ => .refl

theorem moves_modify {R : s → s → Prop} {f : s → s} (h : ∀ p, R p (f p)) :
    Moves R (modify f : EStateM ε s Unit) := fun p => .single (h p)

end ImageLoader.Act
