import ImageLoader.Proofs.Loader.Ledger
/-! Whether the images that a call is about are registered when it is made. They are, as long as handlers
and add callbacks do no more than map images and remove callbacks ask for nothing. Neither can be given
up: what an add callback unmaps is still handed to the callbacks after it, and an image that a remove
callback maps again may be refused twice, so that its record is gone before the next callback runs. -/

namespace ImageLoader.Loader

open Act

variable {σ τ : Type} {w : List UInt64}

def about : Call → List UInt64
  | .state _ _ images => images.map (·.addr)
  | .add _ image => [image.addr]
  | .remove _ image => [image.addr]

structure Sighting where
  call : Call
  registered : List UInt64
  deriving DecidableEq, Repr

def Sighting.Present (s : Sighting) : Prop := ∀ a ∈ about s.call, a ∈ s.registered

instance (s : Sighting) : Decidable s.Present := inferInstanceAs (Decidable (∀ a ∈ _, a ∈ _))

def sighted (call : Call) (p : Process (List Sighting × τ)) : List Sighting :=
  p.client.1 ++ [⟨call, addrs p⟩]

theorem present_noted {call : Call} {p : Process (List Sighting × τ)}
    (present : ∀ s ∈ p.client.1, s.Present) (here : ∀ a ∈ about call, a ∈ addrs p) :
    ∀ s ∈ (noted sighted call p).client.1, s.Present := by
  intro s hs
  rcases List.mem_append.1 hs with old | new
  · exact present s old
  · rw [List.mem_singleton.1 new]
    exact here

theorem mem_addrs {p : Process σ} {r : ImageRecord} (here : r ∈ p.registry.value.toList) :
    ∀ a ∈ [r.addr], a ∈ addrs p := by
  intro a ha
  rw [List.mem_singleton.1 ha]
  exact List.mem_map_of_mem here

/-- All that was seen so far was registered then. -/
structure Safe (p : Process (List Sighting × τ)) : Prop where
  balanced : Balanced none p
  present : ∀ s ∈ p.client.1, s.Present

namespace Safe

variable {p q : Process (List Sighting × τ)}

theorem moved (h : Safe p) (balanced : Balanced none q) (notes : q.client.1 = p.client.1) : Safe q :=
  ⟨balanced, notes ▸ h.present⟩

theorem seen {call : Call} (h : Safe p) (here : ∀ a ∈ about call, a ∈ addrs p) :
    Safe (noted sighted call p) :=
  ⟨h.balanced.of_same ⟨rfl, rfl⟩, present_noted h.present here⟩

/-- It does not matter here who is told of which image. -/
theorem ledger (nests : Bool) :
    Ledger nests sighted (fun _ => false) fun _ (p : Process (List Sighting × τ)) => Safe p where
  balanced h := h.balanced
  same h s := h.moved (h.balanced.of_same s.toSameTables) s.notes
  registered h enters := h.moved (h.balanced.enters enters) (by rw [enters.client])
  ignored h enters := h.moved (h.balanced.enters enters) (by rw [enters.client])
  refused h _ out := h.moved (h.balanced.takenOut out) (by rw [out.client])
  asked h here := by
    refine h.seen fun a ha => ?_
    obtain ⟨r, hr, rfl⟩ := List.mem_map.1 ha
    exact List.mem_map_of_mem (here r hr)
  unheard h _ here := h.seen (mem_addrs here)
  attended _ := .inr ⟨by simp, fun _ _ _ h => h⟩
  handlers _ h := h.moved ⟨h.balanced.chained, h.balanced.tally⟩ rfl

variable {client : Client (List Sighting × τ)} {t : ThreadId}

/-- The record is taken out last, so the image is registered when the remove callbacks run. -/
theorem unmapImage {addr : UInt64} {x : Option ImageRecord} (h : Safe p)
    (quiet : ∀ c image, Quiet sighted client (.remove c image))
    (unmapped : unmapImage client t addr p = .ok x q) (balanced : Balanced none q) : Safe q := by
  rcases unmapImage_parts h.balanced unmapped with
    ⟨-, forgets⟩ | ⟨-, r, here, -, p₁, p₂, forgets, called, departs⟩
  · exact h.moved balanced (by rw [forgets.client])
  have told : r ∈ p₂.registry.value.toList ∧ ∀ s ∈ p₂.client.1, s.Present := by
    refine callRemove_leads (K := fun _ p' => r ∈ p'.registry.value.toList ∧ ∀ s ∈ p'.client.1, s.Present)
      (quiet · _) ?_ ?_ ⟨forgets.images ▸ here, forgets.client ▸ h.present⟩ called
    · intro _ p' q' h same
      exact ⟨same.images ▸ h.1, same.notes ▸ h.2⟩
    · intro _ _ p' h
      exact ⟨h.1, present_noted h.2 (mem_addrs h.1)⟩
  exact ⟨balanced, departs.client ▸ told.2⟩

end Safe

section

variable {first last : Call → Deed (List Sighting × τ)} {start p q : Process (List Sighting × τ)}

theorem Safe.serve (orderly : Orderly true first last) {t : ThreadId} {depth : Nat} {request : Request}
    {x : request.Reply} (h : Safe p)
    (served : serve (reentrant (noting sighted first last) t depth) t request p = .ok x q) : Safe q := by
  have ledger := ledger (τ := τ) true
  have faithful : Faithful sighted (fun _ p => Safe p) (reentrant (noting sighted first last) t depth) :=
    faithful_reentrant ledger orderly depth
  cases request with
  | map images => exact (mapImages_leads (w := []) ledger faithful (fun _ => rfl) h served).1
  | mapOne image => exact (mapImage_leads (w := []) ledger faithful (fun _ => rfl) h served).1
  | onState s => exact registerState_leads (w := []) ledger faithful h served
  | onAdd c =>
    refine registerAdd_unheard (w := []) ledger faithful rfl ?_ served
    exact h.moved ⟨h.balanced.chained, h.balanced.tally⟩ rfl
  | onRemove c =>
    rw [modify_eq_ok.1 served]
    exact h.moved ⟨h.balanced.chained, h.balanced.tally⟩ rfl
  | unmap addr =>
    have balanced := keeps_serve (orderly.maps _) depth (.unmap addr) p h.balanced x q served
    exact h.unmapImage (quiet_reentrant orderly depth) served balanced

theorem present_of_course (orderly : Orderly true first last) {requests : List Request}
    (course : Course (noting sighted first last) start requests p) (images : start.registry.value = {})
    (unseen : start.loader.known = {}) (nothing : start.client.1 = []) :
    ∀ s ∈ p.client.1, s.Present := by
  have safe : Safe p := by
    induction course with
    | start => exact ⟨.empty images unseen, nothing ▸ nofun⟩
    | request t depth request x course served ih => exact ih.serve orderly served
    | other course same ih => exact ih.moved (ih.balanced.of_same same.toSameTables) same.notes
  exact safe.present

end

def greedy : Call → Deed (List Sighting × Unit)
  | .state _ _ images => .request (.mapOne (imageAt 3)) fun _ =>
    .answer (if images.any (·.addr = 2) then some "unwanted" else none)
  | _ => .answer none

theorem present_greedy :
    ∃ p, Course (noting sighted (fun _ => .answer none) greedy) (Process.unmanaged {} ([], ()))
      [.onState ⟨.bound, false, 0⟩, .onAdd 0, .onRemove 0, .map [imageAt 1, imageAt 2], .unmap 1] p ∧
      p.client.1.map (about ·.call) = [[1], [3], [3], [2], [1], [1]] ∧ ∀ s ∈ p.client.1, s.Present := by
  have orderly : Orderly true (fun _ => .answer none) greedy := by
    refine ⟨fun call => ⟨trivial, ?_⟩, fun c image => ⟨trivial, trivial⟩, fun call => ⟨trivial, ?_⟩⟩
    · cases call with
      | state h s images => exact ⟨rfl, fun _ => trivial⟩
      | _ => exact trivial
    · cases call with
      | state h s images => exact fun _ => trivial
      | _ => exact trivial
  have course : Course (noting sighted (fun _ => .answer none) greedy)
    (Process.unmanaged {} ([], ())) [] (Process.unmanaged {} ([], ())) := .start
  have course := course.next (.named "a") 0 (.onState ⟨.bound, false, 0⟩) (by decide +kernel)
  have course := course.next (.named "a") 0 (.onAdd 0) (by decide +kernel)
  have course := course.next (.named "a") 0 (.onRemove 0) (by decide +kernel)
  have course := course.next (.named "a") 2 (.map [imageAt 1, imageAt 2]) (by decide +kernel)
  have course := course.next (.named "b") 1 (.unmap 1) (by decide +kernel)
  exact ⟨_, course, by decide +kernel, present_of_course orderly course rfl rfl rfl⟩

/-- An add callback that unmaps the image at 2 when it is told of that at 1. -/
def unloading : Call → Deed (List Sighting × Unit)
  | .add _ image =>
    if image.addr = 1 then .request (.unmap 2) fun _ => .answer none else .answer none
  | _ => .answer none

/-- The callback goes on to be told of the image that it has unmapped. -/
theorem absent_unloading :
    ∃ p, Course (noting sighted (fun _ => .answer none) unloading) (Process.unmanaged {} ([], ()))
      [.onAdd 0, .map [imageAt 1, imageAt 2]] p ∧ ⟨.add 0 (imageAt 2), [1]⟩ ∈ p.client.1 := by
  have course : Course (noting sighted (fun _ => .answer none) unloading)
    (Process.unmanaged {} ([], ())) [] (Process.unmanaged {} ([], ())) := .start
  have course := course.next (.named "a") 0 (.onAdd 0) (by decide +kernel)
  have course := course.next (.named "a") 2 (.map [imageAt 1, imageAt 2]) (by decide +kernel)
  exact ⟨_, course, by decide +kernel⟩

/-- A remove callback that maps the image again, and handlers that refuse it from then on. -/
def remapping : Call → Deed (List Sighting × Bool)
  | .state _ _ _ => .look fun p => .answer (if p.client.2 then some "unwanted" else none)
  | .add _ _ => .answer none
  | .remove 0 image =>
    .change (fun p => { p with client := (p.client.1, true) })
      (.request (.mapOne image) fun _ => .answer none)
  | .remove _ _ => .answer none

/-- Refused twice, the image takes the record of the one on its way out with it. -/
theorem absent_remapping :
    ∃ p, Course (noting sighted (fun _ => .answer none) remapping) (Process.unmanaged {} ([], false))
      [.onState ⟨.bound, false, 0⟩, .onState ⟨.bound, false, 1⟩, .onRemove 0, .onRemove 1,
        .mapOne (imageAt 1), .unmap 1] p ∧ ⟨.remove 1 (imageAt 1), []⟩ ∈ p.client.1 := by
  have course : Course (noting sighted (fun _ => .answer none) remapping)
    (Process.unmanaged {} ([], false)) [] (Process.unmanaged {} ([], false)) := .start
  have course := course.next (.named "a") 0 (.onState ⟨.bound, false, 0⟩) (by decide +kernel)
  have course := course.next (.named "a") 0 (.onState ⟨.bound, false, 1⟩) (by decide +kernel)
  have course := course.next (.named "a") 0 (.onRemove 0) (by decide +kernel)
  have course := course.next (.named "a") 0 (.onRemove 1) (by decide +kernel)
  have course := course.next (.named "a") 2 (.mapOne (imageAt 1)) (by decide +kernel)
  have course := course.next (.named "a") 2 (.unmap 1) (by decide +kernel)
  exact ⟨_, course, by decide +kernel⟩

end ImageLoader.Loader
