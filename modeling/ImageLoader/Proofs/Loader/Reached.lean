import ImageLoader.Proofs.Loader.History
/-! What a process comes to that begins with no images. Requests to its loader may have handlers that ask
it for anything, to any depth. The registry may be used directly between them, though not to put a record
at the address in question; to take records away anywhere is allowed. What comes of it has no record where
the loader does not know the address, so a mapping finds no other image at the address of its own. -/

namespace ImageLoader

/-- Changing one record makes no more of those that are counted, if the new one counts only where the old
one did. -/
theorem countP_updateFirst_le {P : ImageRecord → Bool} {f : ImageRecord → ImageRecord}
    (fewer : ∀ r, P (f r) → P r) (addr : UInt64) (rs : List ImageRecord) :
    (updateFirst addr f rs).countP P ≤ rs.countP P := by
  induction rs with
  | nil => rfl
  | cons r rest ih =>
    rw [updateFirst]
    split
    · rw [List.countP_cons, List.countP_cons]
      have here := fewer r
      cases hf : P (f r) <;> cases hr : P r <;> simp_all
    · rw [List.countP_cons, List.countP_cons]
      exact Nat.add_le_add_right ih _

namespace Registry

variable {σ β : Type} {addr : UInt64}

/-- The request puts no record at `addr`. -/
def Request.PutsNone (addr : UInt64) : Request β → Prop
  | .append r => r.addr ≠ addr
  | .update _ f => ∀ r, (f r).addr = addr → r.addr = addr
  | _ => True

theorem Request.PutsNone.count_le {q : Request β} (none : q.PutsNone addr) (rs : List ImageRecord) :
    (q.onRecords rs).2.countP (·.addr = addr) ≤ rs.countP (·.addr = addr) := by
  cases q with
  | append r =>
    have other : r.addr ≠ addr := none
    simp [onRecords, other]
  | remove a => exact List.eraseP_sublist.countP_le
  | update a f =>
    have fewer : ∀ r, (f r).addr = addr → r.addr = addr := none
    exact countP_updateFirst_le (by simpa using fewer) a rs
  | setRealized a value =>
    exact countP_updateFirst_le (f := fun r => { r with realized := value }) (fun _ => id) a rs
  | _ => exact Nat.le_refl _

end Registry

namespace Loader

variable {σ : Type} {addr : UInt64} {p q : Process σ}

inductive Reached (addr : UInt64) : Process σ → Prop
  | empty {p : Process σ} : p.registry.value = {} → p.loader.known = {} → Reached addr p
  | request {p q : Process σ} (body : Call → Deed σ) (t : ThreadId) (depth : Nat) (r : Request)
    (a : r.Reply) : Reached addr p → (∀ call, (body call).Only fun _ => true) →
    serve (reentrant body t depth) t r p = .ok a q → Reached addr q
  | registry {p q : Process σ} {β : Type} (t : ThreadId) (r : Registry.Request β) (a : Registry.Answer β) :
    Reached addr p → r.PutsNone addr → Registry.serve t r p = .ok a q → Reached addr q
  | other {p q : Process σ} : Reached addr p → SameTables p q → Reached addr q

theorem Reached.next (reached : Reached addr p) (body : Call → Deed σ)
    (only : ∀ call, (body call).Only fun _ => true) (t : ThreadId) (depth : Nat) (r : Request)
    (h : Act.finishes (serve (reentrant body t depth) t r) p) :
    Reached addr (Act.endState (serve (reentrant body t depth) t r) p) :=
  have ⟨a, served⟩ := Act.exists_ok h
  .request body t depth r a reached only served

theorem Covered.registry_putsNone {owed : Nat} {β : Type} {t : ThreadId} {r : Registry.Request β}
    {answer : Registry.Answer β} (h : Covered addr owed p) (none : r.PutsNone addr)
    (served : Registry.serve t r p = .ok answer q) : Covered addr owed q := by
  obtain ⟨-, chained, records⟩ := Registry.serve_ok h.chained served
  rw [Registry.serve_eq_access] at served
  obtain ⟨-, -, frame⟩ := Registry.access_ok served
  refine ⟨chained, ?_⟩
  rw [ImageList.countAt, records, frame.loader]
  exact (none.count_le _).trans h.bound

theorem Reached.covered (reached : Reached addr p) : Covered addr 0 p := by
  induction reached with
  | empty images unseen =>
    refine ⟨images ▸ ImageList.chained_empty, ?_⟩
    rw [images]
    exact Nat.zero_le _
  | request body t depth r a _ only served ih => exact covered_serve only t depth 0 r _ ih a _ served
  | registry t r a _ none served ih => exact ih.registry_putsNone none served
  | other _ same ih => exact ih.of_same same

end Loader

end ImageLoader
