import ImageLoader.Proofs.Session.Trail
/-! What the threads of a process do where a single step is whatever a relation allows: requests to the
registry and to the loader come down to such steps, as soon as their accesses to the registry do. -/

namespace ImageLoader.Session

open Act

variable {σ : Type} {R R' : Process σ → Process σ → Prop} {p q : Process σ}

/-- Operations of any threads one after another, whose single steps are of `R`. Those that stop count for
what they did before. -/
inductive Activity (R : Process σ → Process σ → Prop) : Process σ → Process σ → Prop
  | none (p : Process σ) : Activity R p p
  | join {p q r : Process σ} : Activity R p q → Activity R q r → Activity R p r
  | step {p q : Process σ} : R p q → Activity R p q
  | registry {β : Type} (t : ThreadId) (r : Registry.Request β) (p : Process σ) :
    Activity R p (endState (Registry.serve t r) p)
  | loader (client : Client σ) (t : ThreadId) (r : Loader.Request) (p : Process σ) :
    (∀ call q, Activity R q (endState (client call) q)) →
    Activity R p (endState (Loader.serve client t r) p)

/-- The steps in which requests are made: accesses to the registry, and what touches no lock. -/
structure Hosts (R : Process σ → Process σ → Prop) : Prop where
  access : ∀ {β : Type} (t : ThreadId) (f : ImageList → β × ImageList),
    Moves R (Registry.access t f : ProcessAct σ β)
  bystands : ∀ {p q : Process σ}, Bystands p q → R p q

theorem hosts_step (ends : Bool) : Hosts (Step (σ := σ) ends) := ⟨moves_access, .other⟩

theorem Hosts.mono (h : Hosts R) (weaker : ∀ p q, R p q → R' p q) : Hosts R' :=
  ⟨fun t f p => Relation.ReflTransGen.mono weaker _ _ (h.access t f p),
    fun stands => weaker _ _ (h.bystands stands)⟩

theorem Hosts.pieces (h : Hosts R) (t : ThreadId) : Loader.Pieces (fun act => Moves R act) t where
  closed := closed_moves R
  reads := Loader.reads_of_get (closed_moves R) (moves_get R)
  say _ _ := moves_modify fun _ => h.bystands ⟨.refl _, rfl, rfl, rfl⟩
  access := h.access t
  revise _ := moves_modify fun _ => h.bystands ⟨.refl _, rfl, rfl, rfl⟩

theorem Activity.path (hosts : Hosts R) (h : Activity R p q) : Relation.ReflTransGen R p q := by
  induction h with
  | none p => exact .refl
  | join _ _ before after => exact before.trans after
  | step h => exact .single h
  | registry t r p =>
    rw [Registry.serve_eq_access]
    exact hosts.access t r.onImages p
  | loader client t r p _ calls => exact (hosts.pieces t).serve calls r p

end ImageLoader.Session
