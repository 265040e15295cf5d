import ImageLoader.Proofs.Loader.Lookup
import ImageLoader.Proofs.Loader.Refusals
/-! Rejection removes exactly the refused images. The rest of the batch is registered behind what was there
before, and the refused images and those without metadata are remembered: until their address is unmapped,
mapping them again comes to nothing. -/

namespace ImageLoader.Loader

open Act

variable {σ τ : Type} {addr : UInt64} {p q : Process σ} {t : ThreadId} {client : Client σ}

def Ignored (addr : UInt64) (p : Process σ) : Prop := p.loader.known.get? addr = some false

instance : Decidable (Ignored addr p) := inferInstanceAs (Decidable (_ = _))

theorem Ignored.of_same (h : Ignored addr p) (same : SameTables p q) : Ignored addr q := by
  rw [Ignored, same.loader]
  exact h

theorem parts_ignored (addr : UInt64) (t : ThreadId) :
    Parts (fun act => Keeps (Ignored (σ := σ) addr) act) t := by
  refine parts_of_steps Ignored.of_same (fun _ => keeps_modify fun _ hp => hp) ?_ ?_ t
  · intro image registered p q h enters
    have other : image.addr ≠ addr := fun e => by
      have new := enters.new
      rw [e, h] at new
      cases new
    rw [Ignored, enters.known, if_neg other]
    exact h
  · intro a p q h out
    rw [Ignored, out.known]
    split
    · rfl
    · exact h

theorem keeps_ignored (hc : ∀ call, Keeps (Ignored addr) (client call)) (r : Request)
    (ok : r.spares addr) : Keeps (Ignored addr) (serve client t r) := by
  by_cases unmaps : ∃ a, r = .unmap a
  · obtain ⟨a, rfl⟩ := unmaps
    have other : a ≠ addr := by simpa [Request.spares] using ok
    have forgotten {p p₁ : Process σ} (h : Ignored addr p) (forgets : Forgets a p p₁) :
        Ignored addr p₁ := by
      rw [Ignored, forgets.known, if_neg other]
      exact h
    intro p h record q unmapped
    rcases unmapImage_cases unmapped with ⟨forgets, -⟩ | ⟨-, r, -, -, p₁, p₂, forgets, called, departs⟩
    · exact forgotten h forgets
    · have told := (parts_ignored addr t).callRemove r.image (fun _ => hc _) _ p₁ (forgotten h forgets) _ _
        called
      rw [Ignored, departs.loader]
      exact told
  · exact (parts_ignored addr t).serve hc r fun a e => unmaps ⟨a, e⟩

theorem History.ignored (history : History addr (Request.spares addr) p q) (h : Ignored addr p) :
    Ignored addr q := by
  apply history.keeps (I := Ignored addr) Ignored.of_same _ _ h
  · intro β t r _ p h answer q served
    rw [Registry.serve_eq_access] at served
    obtain ⟨-, -, frame⟩ := Registry.access_ok served
    rw [Ignored, frame.loader]
    exact h
  · intro body only t depth r ok
    refine keeps_ignored (fun call => ?_) r ok
    exact keeps_reentrant (I := fun _ : Unit => Ignored addr) only (fun h same => h.of_same same) t
      (fun client hc i r ok => keeps_ignored (hc i) r ok) depth () call

theorem enrolAll_of_ignored {images : List Image} (ignored : ∀ i ∈ images, Ignored i.addr p) :
    enrolAll t images p = .ok (images.map fun _ => .noMetadata, []) p := by
  induction images with
  | nil => rfl
  | cons i rest ih =>
    obtain ⟨here, others⟩ := List.forall_mem_cons.1 ignored
    have first : enrol t i p = .ok (.noMetadata, []) p := by
      refine bind_eq_ok.2 ⟨p, p, rfl, ?_⟩
      have known : p.loader.known.get? i.addr = some false := here
      simp only [known]
      rfl
    exact bind_eq_ok.2 ⟨_, p, first, bind_eq_ok.2 ⟨_, p, ih others, rfl⟩⟩

theorem mapImages_of_ignored {images : List Image} (ignored : ∀ i ∈ images, Ignored i.addr p) :
    mapImages client t images p = .ok (.ok (images.map fun _ => .noMetadata)) p :=
  bind_eq_ok.2 ⟨_, p, enrolAll_of_ignored ignored, rfl⟩

theorem Covered.ignored (h : Covered addr 0 p) (ignored : Ignored addr p) : addr ∉ addrs p := by
  have bound := h.bound
  rw [show p.loader.known.get? addr = some false from ignored] at bound
  rw [addrs, ← List.count_eq_zero, count_addr]
  simpa using bound

theorem Balanced.mem_addrs (h : Balanced none p) (addr : UInt64) :
    p.loader.known.get? addr = some true ↔ addr ∈ addrs p := by
  rw [addrs, ← List.one_le_count_iff, count_addr, h.countAt]
  split <;> simp_all

/-- A mapping is answered with the first refusal of a bound handler, or else with an outcome for each image;
all images that are refused are taken out again and nothing else, and they stay known, as do those without
metadata, so that nobody is called when they are mapped again. -/
theorem mapImages_rejects {behave : Client (List Notice × τ)} {t : ThreadId} {images : List Image}
    {p : Process (List Notice × τ)} (passive : ∀ call, Passive behave call)
    (reached : ∀ i ∈ images, Reached i.addr p) :
    (∀ a q, mapImages (noticing behave) t images p = .ok a q →
      ∃ notices, Concluded images notices p a q ∧
        (∀ i ∈ images, Ignored i.addr q → i.addr ∉ addrs q) ∧
        ∀ again : List Image, (∀ i ∈ again, Ignored i.addr q) → ∀ r,
          (∀ i ∈ again, History i.addr (Request.spares i.addr) q r) → ∀ client t,
            mapImages client t again r = .ok (.ok (again.map fun _ => .noMetadata)) r) ∧
    (Registry.available p → (∀ call, Returns (behave call)) →
      ∃ a q, mapImages (noticing behave) t images p = .ok a q) ∧
    ∀ body start, Run body start p → (∀ call, (body call).Only Request.isMap) →
      start.registry.value = {} → start.loader.known = {} →
      ∀ addr, p.loader.known.get? addr = some true ↔ addr ∈ addrs p := by
  refine ⟨fun a q mapped => ?_, fun available returns => ?_, fun body start run maps empty unseen addr => ?_⟩
  · have covered : ∀ i ∈ images, Covered i.addr 0 p := fun i hi => (reached i hi).covered
    obtain ⟨notices, concluded, -⟩ := mapImages_concluded passive covered mapped
    refine ⟨notices, concluded, fun i hi => ?_, fun again ignored r history client t => ?_⟩
    · exact (serve_covered passive (r := .map images) (covered i hi) mapped).ignored
    · exact mapImages_of_ignored fun i hi => (history i hi).ignored (ignored i hi)
  · have parts := (pieces_returns (σ := List Notice × τ) t).parts
    obtain ⟨a, q, mapped, -⟩ :=
      parts.mapImages (fun call => returns_noticing (returns call)) images p available
    exact ⟨a, q, mapped⟩
  · exact (run.balanced maps (.empty empty unseen)).mem_addrs addr

/-- Of two handlers the first refuses the image at 2 and the second that at 4. -/
def divided (call : Call) : Option String :=
  match call with
  | .state 0 _ images => if images.any (·.addr = 2) then some "second" else none
  | .state 1 _ images => if images.any (·.addr = 4) then some "fourth" else none
  | _ => none

/-- The image at 4 comes first and again, that at 3 has no metadata, and that at 5 is registered. -/
def contested : List Image :=
  [imageAt 4, imageAt 2, imageAt 1, .new 3 .dylib "plain" 0, imageAt 4, imageAt 5]

theorem mapImages_rejects_contested :
    ∃ p, (∀ i ∈ contested, Reached i.addr p) ∧ Registry.available p ∧
      (∀ call, Passive (judging divided (.named "a")) call) ∧
      ∃ q, mapImages (noticing (judging divided (.named "a"))) (.named "a") contested p =
          .ok (.error (.rejected "lib" "second")) q ∧
        (∃ notices, Concluded contested notices p (.error (.rejected "lib" "second")) q ∧
          (refusals notices).map (·.addr) = [2, 4]) ∧
        addrs p = [5] ∧ addrs q = [5, 1] ∧
        mapImages (noticing (judging divided (.named "b"))) (.named "b") [imageAt 4, imageAt 3] q =
          .ok (.ok [.noMetadata, .noMetadata]) q := by
  have only (call : Call) : (content call).Only fun _ => true := trivial
  have reached (addr : UInt64) : Reached addr (Process.unmanaged {} (([], ()) : List Notice × Unit)) :=
    .empty rfl rfl
  have reached addr := (reached addr).next content only (.named "a") 1 (.mapOne (imageAt 5))
    (by decide +kernel)
  have reached addr := (reached addr).next content only (.named "a") 1 (.onState ⟨.bound, false, 0⟩)
    (by decide +kernel)
  have reached addr := (reached addr).next content only (.named "b") 1 (.onState ⟨.bound, false, 1⟩)
    (by decide +kernel)
  have passive := passive_judging divided (.named "a")
  refine ⟨_, fun i _ => reached i.addr, by decide +kernel, passive, ?_⟩
  generalize hp : endState _ _ = p at reached
  obtain ⟨told, -, -⟩ := mapImages_rejects (t := .named "a") passive
    fun i (_ : i ∈ contested) => reached i.addr
  have mapped := ok_of_answer? (p := p)
    (x := mapImages (noticing (judging divided (.named "a"))) (.named "a") contested)
    (a := .error (.rejected "lib" "second")) (by subst hp; decide +kernel)
  obtain ⟨notices, concluded, -, again⟩ := told _ _ mapped
  have none : p.client.1 = [] := by
    subst hp
    decide +kernel
  have notes := concluded.notes
  rw [none, List.nil_append] at notes
  refine ⟨_, mapped, ⟨notices, concluded, ?_⟩, ?_, ?_, again _ ?_ _ (fun _ _ => .start) _ _⟩
  · rw [← notes]
    subst hp
    decide +kernel
  all_goals
    subst hp
    decide +kernel

end ImageLoader.Loader
