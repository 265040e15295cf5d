import ImageLoader.Proofs.Registry.Run
import ImageLoader.Proofs.Loader.InStep
/-! Histories of a process. Every request in one may have handlers of its own, who may ask the loader for
all that is allowed; between requests others use the registry, but for putting a record at one address or
taking one away there. With handlers that unmap, the table of known addresses may say less than the
registry: a handler may map the address of an image that is on its way out, and unmap it again before that
image has left. What no handler can break is an upper bound. An address has at most one record, and one
more for each of its images on their way out; so between requests an address that began with no record has
none where it is not known. -/

namespace ImageLoader.Loader

open Act

variable {σ : Type}

/-- What comes of `start` by requests that finish, by what is done with the registry away from `addr`, and
by what other parts of the process do. -/
inductive History (addr : UInt64) (allowed : Request → Bool) (start : Process σ) : Process σ → Prop
  | start : History addr allowed start start
  | request {p q : Process σ} (body : Call → Deed σ) (t : ThreadId) (depth : Nat) (r : Request)
    (a : r.Reply) : History addr allowed start p → (∀ call, (body call).Only allowed) → allowed r →
    serve (reentrant body t depth) t r p = .ok a q → History addr allowed start q
  | registry {p q : Process σ} {β : Type} (t : ThreadId) (r : Registry.Request β) (a : Registry.Answer β) :
    History addr allowed start p → r.Avoids addr → Registry.serve t r p = .ok a q →
    History addr allowed start q
  | other {p q : Process σ} : History addr allowed start p → SameTables p q → History addr allowed start q

variable {addr : UInt64} {allowed : Request → Bool} {start p q : Process σ} {t : ThreadId}
  {client : Client σ}

theorem History.keeps {I : Process σ → Prop} (same : ∀ {p q}, I p → SameTables p q → I q)
    (registry : ∀ {β : Type} t (r : Registry.Request β), r.Avoids addr → Keeps I (Registry.serve t r))
    (requests : ∀ body, (∀ call, (body call).Only allowed) → ∀ t depth r, allowed r →
      Keeps I (serve (reentrant body t depth) t r))
    (history : History addr allowed start p) (h : I start) : I p := by
  induction history with
  | start => exact h
  | request body t depth r a _ only ok served ih => exact requests body only t depth r ok _ ih a _ served
  | registry t r a _ avoids served ih => exact registry t r avoids _ ih a _ served
  | other _ unchanged ih => exact same ih unchanged

theorem History.next (history : History addr allowed start p) (body : Call → Deed σ)
    (only : ∀ call, (body call).Only allowed) (t : ThreadId) (depth : Nat) (r : Request) (ok : allowed r)
    (h : finishes (serve (reentrant body t depth) t r) p) :
    History addr allowed start (endState (serve (reentrant body t depth) t r) p) :=
  have ⟨a, served⟩ := exists_ok h
  .request body t depth r a history only ok served

/-- The address has no more records than are `owed`, and one more where its image is registered. -/
structure Covered (addr : UInt64) (owed : Nat) (p : Process σ) : Prop where
  chained : p.registry.value.Chained
  bound : p.registry.value.countAt addr ≤ owed + if p.loader.known.get? addr = some true then 1 else 0

namespace Covered

variable {owed : Nat} {a : UInt64}

theorem of_same (h : Covered addr owed p) (same : SameTables p q) : Covered addr owed q := by
  refine ⟨?_, ?_⟩
  · rw [same.images]
    exact h.chained
  · rw [same.images, same.loader]
    exact h.bound

theorem registry {β : Type} {r : Registry.Request β} {answer : Registry.Answer β}
    (h : Covered addr owed p) (avoids : r.Avoids addr) (served : Registry.serve t r p = .ok answer q) :
    Covered addr owed q := by
  obtain ⟨chained, images, loader⟩ := Registry.serve_avoids avoids h.chained served
  refine ⟨chained, ?_⟩
  rw [← ImageList.length_imagesAt, images, ImageList.length_imagesAt, loader]
  exact h.bound

theorem enters {image : Image} {registered : Bool} (h : Covered addr owed p)
    (enters : Enters image registered p q) : Covered addr owed q := by
  refine ⟨enters.chained h.chained, ?_⟩
  have bound := h.bound
  rw [enters.countAt h.chained, enters.known]
  by_cases e : image.addr = addr
  · rw [← e, enters.new] at bound
    rw [← e]
    cases registered <;> simp_all
  · simpa [e] using bound

theorem takenOut (h : Covered addr owed p) (out : TakenOut a p q) : Covered addr owed q := by
  refine ⟨out.images ▸ (ImageList.remove_spec h.chained a).1, ?_⟩
  have bound := h.bound
  rw [out.images, ImageList.countAt_remove h.chained, out.known]
  by_cases e : addr = a
  · rw [if_pos e, if_pos e.symm]
    split at bound <;> simp <;> omega
  · rwa [if_neg e, if_neg (Ne.symm e)]

theorem forgets (h : Covered addr owed p) (forgets : Forgets a p q) :
    Covered addr (if addr = a then owed + 1 else owed) q := by
  refine ⟨forgets.images ▸ h.chained, ?_⟩
  have bound := h.bound
  rw [forgets.images, forgets.known]
  by_cases e : addr = a
  · rw [if_pos e, if_pos e.symm]
    split at bound <;> simp <;> omega
  · rwa [if_neg e, if_neg (Ne.symm e)]

theorem departs (h : Covered addr (if addr = a then owed + 1 else owed) p) (departs : Departs a p q) :
    Covered addr owed q := by
  refine ⟨departs.images ▸ (ImageList.remove_spec h.chained a).1, ?_⟩
  have bound := h.bound
  rw [departs.images, ImageList.countAt_remove h.chained, departs.loader]
  by_cases e : addr = a
  · rw [if_pos e] at bound ⊢
    omega
  · rwa [if_neg e] at bound ⊢

theorem forgotten (h : Covered addr owed p) (forgets : Forgets a p q)
    (absent : p.loader.known.get? a = some true → p.registry.value.find? a = none) :
    Covered addr owed q := by
  refine ⟨forgets.images ▸ h.chained, ?_⟩
  have bound := h.bound
  rw [forgets.images, forgets.known]
  by_cases e : addr = a
  · subst e
    by_cases registered : p.loader.known.get? addr = some true
    · simp [ImageList.countAt_eq_zero.2 (absent registered)]
    · simpa [registered] using bound
  · rwa [if_neg (Ne.symm e)]

end Covered

theorem parts_covered (addr : UInt64) (owed : Nat) (t : ThreadId) :
    Parts (fun act => Keeps (Covered (σ := σ) addr owed) act) t :=
  parts_of_steps Covered.of_same (fun _ => keeps_modify fun _ hp => ⟨hp.chained, hp.bound⟩)
    Covered.enters Covered.takenOut t

theorem keeps_covered (hc : ∀ owed call, Keeps (Covered addr owed) (client call)) (owed : Nat)
    (r : Request) : Keeps (Covered addr owed) (serve client t r) := by
  by_cases unmaps : ∃ a, r = .unmap a
  · obtain ⟨a, rfl⟩ := unmaps
    intro p hp record q h
    rcases unmapImage_cases h with ⟨forgets, absent⟩ | ⟨-, r, -, -, p₁, p₂, forgets, called, departs⟩
    · exact hp.forgotten forgets absent
    · apply Covered.departs _ departs
      exact (parts_covered addr _ t).callRemove r.image (fun _ => hc _ _) _ p₁ (hp.forgets forgets) _ _ called
  · exact (parts_covered addr owed t).serve (hc owed) r fun a e => unmaps ⟨a, e⟩

theorem covered_serve {body : Call → Deed σ} (only : ∀ call, (body call).Only allowed) (t : ThreadId)
    (depth owed : Nat) (r : Request) : Keeps (Covered addr owed) (serve (reentrant body t depth) t r) := by
  apply keeps_covered
  intro owed call
  apply keeps_reentrant (I := Covered addr) only _ t _ depth owed call
  · intro owed p q h same
    exact h.of_same same
  · intro client hc owed r _
    exact keeps_covered hc owed r

/-- Nothing is owed between requests: what is not known has no record. -/
theorem Covered.absent (h : Covered addr 0 p) (unknown : p.loader.known.get? addr = none) :
    p.registry.value.find? addr = none := by
  have bound := h.bound
  rw [unknown] at bound
  exact ImageList.countAt_eq_zero.1 (by simpa using bound)

/-- Whatever handlers asked for meanwhile, an address that had no record has none where it is not known. -/
theorem History.absent (history : History addr allowed start p) (chained : start.registry.value.Chained)
    (absent : start.registry.value.find? addr = none) (unknown : p.loader.known.get? addr = none) :
    p.registry.value.Chained ∧ p.registry.value.find? addr = none := by
  have covered : Covered addr 0 p := by
    apply history.keeps (I := Covered addr 0)
    · intro p q h same
      exact h.of_same same
    · intro β t r avoids p h answer q served
      exact h.registry avoids served
    · intro body only t depth r _
      exact covered_serve only t depth 0 r
    · refine ⟨chained, ?_⟩
      rw [ImageList.countAt_eq_zero.2 absent]
      exact Nat.zero_le _
  exact ⟨covered.chained, covered.absent unknown⟩

end ImageLoader.Loader
