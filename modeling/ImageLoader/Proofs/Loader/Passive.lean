import ImageLoader.Proofs.Loader.Course
import ImageLoader.Proofs.Loader.History
import ImageLoader.Proofs.Loader.Notices
/-! Handlers that leave the loader and the registry alone. What they are called with and what they answer
is all that there is to know of them, so each stage of a request is told by the notices it adds. An unmapping
takes the one record of its address out, whatever its callbacks do. -/

namespace ImageLoader.Loader

open Act

variable {σ τ : Type} {t : ThreadId}

/-- Where the call finishes it leaves the images, the loader's tables and the notices alone. -/
def Passive (behave : Client (List Notice × τ)) (call : Call) : Prop :=
  ∀ p a q, behave call p = .ok a q → SameNotes p q

theorem inert_of_passive {behave : Client (List Notice × τ)} (passive : ∀ call, Passive behave call)
    (addrs : List UInt64) : Inert addrs behave := by
  intro call p a q h
  have same := passive call p a q h
  exact ⟨same.toSameTables.steady addrs, same.notes⟩

theorem passive_reentrant (body : Call → Deed (List Notice × τ)) (call : Call)
    (only : (body call).Only fun _ => false) (spares : (body call).Spares) (t : ThreadId) (depth : Nat) :
    Passive (reentrant body t depth) call := by
  intro p a q h
  cases depth with
  | zero => cases h
  | succ depth => exact Deed.sameNotes_run only spares h

/-- Notices were added, and nothing that the loader goes by is changed. -/
structure Heard (notices : List Notice) (p q : Process (List Notice × τ)) : Prop extends
    SameTables p q where
  notes : q.client.1 = p.client.1 ++ notices

namespace Heard

variable {notices notices' : List Notice} {p q r : Process (List Notice × τ)}

theorem untouched (h : Untouched p q) : Heard [] p q where
  toSameTables := h.toSameTables
  notes := by rw [h.client, List.append_nil]

theorem trans (h : Heard notices p q) (h' : Heard notices' q r) : Heard (notices ++ notices') p r where
  images := h'.images.trans h.images
  loader := h'.loader.trans h.loader
  notes := by rw [h'.notes, h.notes, List.append_assoc]

end Heard

section

variable {behave : Client (List Notice × τ)} {p q : Process (List Notice × τ)}

theorem Passive.heard {call : Call} (passive : Passive behave call) {a : Option String}
    (h : noticing behave call p = .ok a q) : Heard [⟨call, imagesOf p, a⟩] p q := by
  obtain ⟨_, _, e, h⟩ := bind_eq_ok.1 h
  cases e
  obtain ⟨answer, p₁, called, h⟩ := bind_eq_ok.1 h
  obtain ⟨_, p₂, noticed, h⟩ := bind_eq_ok.1 h
  cases h
  have same := passive p a p₁ called
  rw [modify_eq_ok.1 noticed]
  exact ⟨⟨same.images, same.loader⟩, congrArg (· ++ _) same.notes⟩

theorem Passive.keeps {call : Call} (passive : Passive behave call) {I : Process (List Notice × τ) → Prop}
    (same : ∀ {p q}, I p → SameTables p q → I q) : Keeps I (noticing behave call) :=
  fun _ hp _ _ h => same hp (passive.heard h).toSameTables

structure Unmoved (p q : Process σ) : Prop where
  images : q.registry.value = p.registry.value
  known : q.loader.known = p.loader.known

theorem Unmoved.of_same {p q r : Process σ} (h : Unmoved p q) (same : SameTables q r) : Unmoved p r where
  images := same.images.trans h.images
  known := same.loader ▸ h.known

theorem introduce_unmoved (passive : ∀ call, Passive behave call) {batch : List ImageRecord} {a : Unit}
    (h : introduce (noticing behave) t batch p = .ok a q) : Unmoved p q := by
  have tells : Tells (fun act => Keeps (Unmoved p) act) t :=
    tells_keeps Unmoved.of_same (fun _ => keeps_modify fun _ h => ⟨h.images, h.known⟩) t
  exact tells.introduce (fun call => (passive call).keeps Unmoved.of_same) batch p ⟨rfl, rfl⟩ a q h

/-- No request leaves more than one record at an address. -/
theorem serve_covered (passive : ∀ call, Passive behave call) {addr : UInt64} {r : Request} {a : r.Reply}
    (covered : Covered addr 0 p) (h : serve (noticing behave) t r p = .ok a q) : Covered addr 0 q :=
  keeps_covered (fun _ call => (passive call).keeps Covered.of_same) 0 r p covered a q h

/-- Every remove callback is called once, in front of the images that were there before. -/
theorem callRemove_heard {image : Image} (passive : ∀ c, Passive behave (.remove c image))
    {callbacks : List HandlerId} {a : Unit}
    (h : callRemove (noticing behave) image callbacks p = .ok a q) :
    ∃ notices, Heard notices p q ∧ notices.map (·.call) = callbacks.map (.remove · image) ∧
      ∀ n ∈ notices, n.registered = imagesOf p := by
  induction callbacks generalizing p with
  | nil =>
    cases h
    exact ⟨[], .untouched (.refl _), rfl, nofun⟩
  | cons c rest ih =>
    obtain ⟨_, p₁, called, h⟩ := bind_eq_ok.1 h
    obtain ⟨answer, called⟩ := discard_eq_ok.1 called
    have first := (passive c).heard called
    obtain ⟨notices, others, calls, registered⟩ := ih h
    refine ⟨_, first.trans others, ?_, List.forall_mem_append.2 ⟨?_, fun n hn => ?_⟩⟩
    · rw [List.map_append, calls]
      rfl
    · exact List.forall_mem_singleton.2 rfl
    · rw [registered n hn, imagesOf, imagesOf, first.images]

end

/-- The record at `addr` is taken out, if there is one, and the address is known no more. Each remove callback
was called once for it, while it was registered. -/
structure Unmapped (addr : UInt64) (a : Option ImageRecord) (notices : List Notice)
    (p q : Process (List Notice × τ)) : Prop where
  loader : q.loader = { p.loader with known := p.loader.known.erase addr }
  chained : q.registry.value.Chained
  records : q.registry.value.toList = p.registry.value.toList.filter (·.addr ≠ addr)
  answer : a = p.registry.value.toList.find? (·.addr = addr)
  notes : q.client.1 = p.client.1 ++ notices
  calls : notices.map (·.call) =
    a.toList.flatMap fun r => p.loader.removeCallbacks.map (.remove · r.image)
  present : ∀ n ∈ notices, n.Present

theorem Unmapped.known {addr : UInt64} {a : Option ImageRecord} {notices : List Notice}
    {p q : Process (List Notice × τ)} (h : Unmapped addr a notices p q) (x : UInt64) :
    q.loader.known.get? x = if addr = x then none else p.loader.known.get? x := by
  rw [h.loader]
  exact Table.get?_erase _ _ _

theorem Unmapped.covered {addr x : UInt64} {a : Option ImageRecord} {notices : List Notice}
    {p q : Process (List Notice × τ)} (h : Unmapped addr a notices p q) (covered : Covered x 0 p) :
    Covered x 0 q := by
  refine ⟨h.chained, ?_⟩
  have bound := covered.bound
  rw [ImageList.countAt] at bound ⊢
  rw [h.records, List.countP_filter, h.known]
  by_cases e : addr = x
  · subst e
    simp
  · rw [if_neg e]
    refine le_trans (List.countP_mono_left fun r _ here => ?_) bound
    exact (Bool.and_eq_true_iff.1 here).1

theorem Covered.countAt_le_one {addr : UInt64} {p : Process σ} (h : Covered addr 0 p) :
    p.registry.value.countAt addr ≤ 1 := by
  have bound := h.bound
  split at bound <;> omega

theorem unmapImage_unmapped {behave : Client (List Notice × τ)} {p q : Process (List Notice × τ)}
    (passive : ∀ c image, Passive behave (.remove c image)) {addr : UInt64} (covered : Covered addr 0 p)
    {a : Option ImageRecord} (h : unmapImage (noticing behave) t addr p = .ok a q) :
    ∃ notices, Unmapped addr a notices p q := by
  rcases unmapImage_spec h with
    ⟨forgets, rfl, absent⟩ | ⟨-, r, found, p₁, p₂, forgets, called, departs, rfl⟩
  · -- what is not registered has no record, so there is none to take out
    have none : p.registry.value.toList.find? (·.addr = addr) = none := by
      by_cases registered : p.loader.known.get? addr = some true
      · exact absent registered
      · have bound := covered.bound
        rw [if_neg registered] at bound
        exact ImageList.countAt_eq_zero.1 (by simpa using bound)
    refine ⟨[], forgets.loader, forgets.images ▸ covered.chained, ?_, none.symm, ?_, rfl, nofun⟩
    · rw [forgets.images]
      exact (List.filter_eq_self.2 (by simpa using none)).symm
    · rw [forgets.client, List.append_nil]
  · obtain ⟨notices, heard, calls, registered⟩ := callRemove_heard (passive · _) called
    have images : p₂.registry.value = p.registry.value := heard.images.trans forgets.images
    have answer : (p₂.registry.value.remove addr).1 = some r := by
      rw [images, (ImageList.remove_spec covered.chained addr).2.1]
      exact found
    have kept : imagesOf p₁ = imagesOf p := congrArg (fun l => l.toList.map (·.image)) forgets.images
    rw [answer]
    refine ⟨notices, ?_, ?_, ?_, found.symm, ?_, ?_, fun n hn i hi => ?_⟩
    · rw [departs.loader, heard.loader, forgets.loader]
    · rw [departs.images, images]
      exact (ImageList.remove_spec covered.chained addr).1
    · rw [departs.images, images]
      exact ImageList.toList_remove_of_countAt_le_one covered.chained covered.countAt_le_one
    · rw [departs.client, heard.notes, forgets.client]
    · rw [calls, forgets.loader]
      exact (List.append_nil _).symm
    · have call : n.call ∈ p₁.loader.removeCallbacks.map (.remove · r.image) :=
        calls ▸ List.mem_map_of_mem hn
      obtain ⟨c, -, e⟩ := List.mem_map.1 call
      rw [← e] at hi
      rw [registered n hn, kept, List.mem_singleton.1 hi]
      exact List.mem_map_of_mem (List.mem_of_find?_eq_some found)

end ImageLoader.Loader
