import ImageLoader.Proofs.Loader.Ledger
/-! A client that keeps a list of the registered images by callbacks alone: its add callback appends the
address of the image it is called for, its remove callback deletes it. Once both are registered the list
is that of the registry after every request, whatever was mapped before, refused, or unmapped since; in
the registry's order, unless handlers map images themselves. -/

namespace ImageLoader.Loader

open Act

variable {τ : Type} {a r : HandlerId} {nests : Bool} {w : List UInt64}

/-- The list that the add callback `a` and the remove callback `r` keep. -/
def mirrorNote (a r : HandlerId) (call : Call) (p : Process (List UInt64 × τ)) : List UInt64 :=
  match call with
  | .state _ _ _ => p.client.1
  | .add c image => if c = a then p.client.1 ++ [image.addr] else p.client.1
  | .remove c image => if c = r then p.client.1.erase image.addr else p.client.1

structure Watch where
  adds : Bool := false
  removes : Bool := false
  deriving DecidableEq, Repr

/-- Neither callback is registered twice, and nothing is unmapped while just one is. -/
def Watch.after (a r : HandlerId) (v : Watch) : Request → Option Watch
  | .onAdd c => if c = a then (if v.adds then none else some { v with adds := true }) else some v
  | .onRemove c => if c = r then (if v.removes then none else some { v with removes := true }) else some v
  | .unmap _ => if v.adds = v.removes then some v else none
  | _ => some v

def watch (a r : HandlerId) (requests : List Request) : Option Watch := requests.foldlM (·.after a r) {}

/-- The same addresses, in the same order where it is `ordered`. -/
structure Matches (ordered : Bool) (l l' : List UInt64) : Prop where
  perm : l.Perm l'
  order : ordered → l = l'

/-- How the list stands to the registry while the images at `w` are yet to be told of. -/
structure Mirrors (a r : HandlerId) (nests : Bool) (v : Watch) (w : List UInt64)
    (p : Process (List UInt64 × τ)) : Prop where
  balanced : Balanced none p
  adds : p.loader.addCallbacks.countP (· = a) = if v.adds then 1 else 0
  removes : p.loader.removeCallbacks.countP (· = r) = if v.removes then 1 else 0
  unused : v.adds = false → p.client.1 = []
  current : v.adds → Matches (!nests) (p.client.1 ++ w) (addrs p)

theorem addrs_remove {l : ImageList} (h : l.Chained) (addr : UInt64) :
    (l.remove addr).2.toList.map (·.addr) = (l.toList.map (·.addr)).erase addr := by
  rw [(ImageList.remove_spec h addr).2.2, List.erase_eq_eraseP', List.eraseP_map]
  congr 2

namespace Mirrors

variable {v : Watch} {p q : Process (List UInt64 × τ)}

theorem moved {w' : List UInt64} (h : Mirrors a r nests v w p) (balanced : Balanced none q)
    (loader : q.loader = { p.loader with known := q.loader.known }) (notes : q.client.1 = p.client.1)
    (current : v.adds → Matches (!nests) (p.client.1 ++ w') (addrs q)) : Mirrors a r nests v w' q := by
  refine ⟨balanced, ?_, ?_, ?_, ?_⟩
  · rw [loader]
    exact h.adds
  · rw [loader]
    exact h.removes
  · rw [notes]
    exact h.unused
  · rw [notes]
    exact current

theorem same (h : Mirrors a r nests v w p) (same : SameNotes p q) : Mirrors a r nests v w q := by
  refine h.moved (h.balanced.of_same same.toSameTables) (by rw [same.loader]) same.notes fun on => ?_
  rw [addrs, same.images]
  exact h.current on

theorem registered {image : Image} (h : Mirrors a r nests v w p) (enters : Enters image true p q) :
    Mirrors a r nests v (w ++ [image.addr]) q := by
  have joined : addrs q = addrs p ++ [image.addr] := by
    rw [addrs, enters.images, if_pos rfl, ImageList.toList_append h.balanced.chained, List.map_append]
    rfl
  refine h.moved (h.balanced.enters enters) (by rw [enters.loader]) (by rw [enters.client]) fun on => ?_
  obtain ⟨perm, order⟩ := h.current on
  rw [joined, ← List.append_assoc]
  exact ⟨perm.append_right _, fun ordered => by rw [order ordered]⟩

theorem ignored {image : Image} (h : Mirrors a r nests v w p) (enters : Enters image false p q) :
    Mirrors a r nests v w q := by
  refine h.moved (h.balanced.enters enters) (by rw [enters.loader]) (by rw [enters.client]) fun on => ?_
  rw [addrs, enters.images]
  exact h.current on

/-- An image that is refused is one that waits, so it is not on the list. -/
theorem refused {outer mine : List UInt64} {addr : UInt64}
    (h : Mirrors a r nests v (outer ++ mine) p) (waits : addr ∈ mine) (out : TakenOut addr p q) :
    Mirrors a r nests v (outer ++ mine.erase addr) q := by
  have left : addrs q = (addrs p).erase addr := by
    rw [addrs, out.images]
    exact addrs_remove h.balanced.chained addr
  refine h.moved (h.balanced.takenOut out) (by rw [out.loader]) (by rw [out.client]) fun on => ?_
  obtain ⟨perm, order⟩ := h.current on
  have once : (p.client.1 ++ outer ++ mine).Nodup := by
    rw [List.append_assoc]
    exact perm.nodup_iff.2 h.balanced.distinct
  have elsewhere : addr ∉ p.client.1 ++ outer := fun mem => List.disjoint_of_nodup_append once mem waits
  have erased : (p.client.1 ++ (outer ++ mine)).erase addr = p.client.1 ++ (outer ++ mine.erase addr) := by
    rw [← List.append_assoc, List.erase_append_right _ elsewhere, List.append_assoc]
  rw [left, ← erased]
  exact ⟨perm.erase _, fun ordered => by rw [order ordered]⟩

theorem heeds (on : v.adds) :
    Heeds nests (mirrorNote a r) (· = a) (Mirrors (τ := τ) a r nests v) := by
  intro outer rest c i p h alone hears _
  obtain rfl : c = a := by simpa using hears
  refine ⟨h.balanced.of_same ⟨rfl, rfl⟩, h.adds, h.removes, ?_, fun _ => ?_⟩
  · rw [on]
    exact nofun
  · obtain ⟨perm, order⟩ := h.current on
    change Matches _ ((if c = c then p.client.1 ++ [i.addr] else p.client.1) ++ (outer ++ rest)) (addrs p)
    rw [if_pos rfl, List.append_assoc]
    refine ⟨.trans (List.Perm.append_left _ ?_) perm, fun ordered => ?_⟩
    · change (i.addr :: (outer ++ rest)).Perm _
      exact List.perm_middle.symm
    · have order := order ordered
      rw [alone (by simpa using ordered)] at order ⊢
      exact order

theorem ledger (a r : HandlerId) (nests : Bool) (v : Watch) :
    Ledger nests (mirrorNote a r) (· = a) (Mirrors (τ := τ) a r nests v) where
  balanced h := h.balanced
  same h s := h.same s
  registered h enters := h.registered enters
  ignored h enters := h.ignored enters
  refused h waits out := h.refused waits out
  asked h _ := h.same ⟨⟨rfl, rfl⟩, rfl⟩
  unheard h other _ := by
    refine h.same ⟨⟨rfl, rfl⟩, ?_⟩
    exact if_neg (by simpa using other)
  attended h := by
    rcases on : v.adds with _ | _
    · refine .inr ⟨by rw [h.adds, on]; rfl, fun w w' p h => ?_⟩
      refine ⟨h.balanced, h.adds, h.removes, h.unused, ?_⟩
      rw [on]
      exact nofun
    · exact .inl ⟨by rw [h.adds, on]; rfl, heeds on⟩
  handlers l h := ⟨⟨h.balanced.chained, h.balanced.tally⟩, h.adds, h.removes, h.unused, h.current⟩

variable {client : Client (List UInt64 × τ)} {t : ThreadId}

/-- The add callback is called for every image there is, and then knows of all of them. -/
theorem registerAdd {u : Unit} (h : Mirrors a r nests v [] p) (off : v.adds = false)
    (faithful : Faithful (mirrorNote a r) (Mirrors (τ := τ) a r nests { v with adds := true }) client)
    (subscribed : registerAdd client t a p = .ok u q) :
    Mirrors a r nests { v with adds := true } [] q := by
  obtain ⟨p₁, same, called⟩ := registerAdd_parts subscribed
  have before : Mirrors a r nests { v with adds := true } (addrs p) (withAdd a p) := by
    refine ⟨⟨h.balanced.chained, h.balanced.tally⟩, ?_, h.removes, nofun, fun _ => ?_⟩
    · change (p.loader.addCallbacks ++ [a]).countP _ = 1
      rw [List.countP_append, h.adds, off]
      simp
    · change Matches _ (p.client.1 ++ addrs p) (addrs p)
      rw [h.unused off]
      exact ⟨.refl _, fun _ => rfl⟩
  have there : addrs p = [] ++ p₁.registry.value.toList.map (·.addr) := by rw [same.images]; rfl
  have before := there ▸ before.same same
  exact (callAddEach_heard (ledger a r nests _) faithful (heeds rfl) (by simp) (fun _ => rfl) before
    (fun i hi => hi) called).1

theorem registerAdd_other {c : HandlerId} {u : Unit} (h : Mirrors a r nests v [] p) (other : c ≠ a)
    (faithful : Faithful (mirrorNote a r) (Mirrors (τ := τ) a r nests v) client)
    (subscribed : Loader.registerAdd client t c p = .ok u q) : Mirrors a r nests v [] q := by
  refine registerAdd_unheard (ledger a r nests v) faithful (by simpa using other) ?_ subscribed
  refine ⟨⟨h.balanced.chained, h.balanced.tally⟩, ?_, h.removes, h.unused, h.current⟩
  change (p.loader.addCallbacks ++ [c]).countP _ = _
  rw [List.countP_append, h.adds]
  simp [other]

theorem callRemove_erases {image : Image} {callbacks : List HandlerId} {u : Unit}
    (quiet : ∀ c, Quiet (mirrorNote a r) client (.remove c image))
    (called : callRemove client image callbacks p = .ok u q) :
    SameTables p q ∧ q.client.1 = (·.erase image.addr)^[callbacks.countP (· = r)] p.client.1 := by
  refine callRemove_leads (K := fun cs p' => SameTables p p' ∧
    (·.erase image.addr)^[cs.countP (· = r)] p'.client.1 =
      (·.erase image.addr)^[callbacks.countP (· = r)] p.client.1) quiet ?_ ?_ ⟨⟨rfl, rfl⟩, rfl⟩ called
  · intro cs p' q' h same
    exact ⟨⟨same.images.trans h.1.images, same.loader.trans h.1.loader⟩, same.notes ▸ h.2⟩
  · rintro c cs p' ⟨tables, erased⟩
    refine ⟨⟨tables.images, tables.loader⟩, ?_⟩
    rw [← erased]
    by_cases e : c = r
    · rw [List.countP_cons_of_pos (by simpa using e), Function.iterate_succ_apply]
      exact congrArg _ (if_pos e)
    · rw [List.countP_cons_of_neg (by simpa using e)]
      exact congrArg _ (if_neg e)

theorem unmapImage {addr : UInt64} {x : Option ImageRecord} (h : Mirrors a r nests v [] p)
    (paired : v.adds = v.removes) (quiet : ∀ c image, Quiet (mirrorNote a r) client (.remove c image))
    (unmapped : unmapImage client t addr p = .ok x q) (balanced : Balanced none q) :
    Mirrors a r nests v [] q := by
  rcases unmapImage_parts h.balanced unmapped with
    ⟨-, forgets⟩ | ⟨-, i, -, rfl, p₁, p₂, forgets, called, departs⟩
  · refine h.moved balanced (by rw [forgets.loader]) (by rw [forgets.client]) fun on => ?_
    rw [addrs, forgets.images]
    exact h.current on
  obtain ⟨tables, erased⟩ := callRemove_erases (quiet · _) called
  have loader : q.loader = { p.loader with known := p.loader.known.erase i.addr } := by
    rw [departs.loader, tables.loader, forgets.loader]
  have left : addrs q = (addrs p).erase i.addr := by
    rw [addrs, departs.images, tables.images, forgets.images]
    exact addrs_remove h.balanced.chained i.addr
  have notes : q.client.1 = (·.erase i.addr)^[if v.removes then 1 else 0] p.client.1 := by
    rw [departs.client, erased, forgets.loader, forgets.client]
    exact congrArg (fun n => (·.erase i.addr)^[n] p.client.1) h.removes
  rw [← paired] at notes
  -- either neither callback is registered, or `r` has run once
  rcases on : v.adds with _ | _
  · rw [on] at notes
    exact h.moved balanced (by rw [loader]) notes fun on' => by simp [on] at on'
  · obtain ⟨perm, order⟩ := h.current on
    rw [on] at notes
    change q.client.1 = p.client.1.erase i.addr at notes
    rw [List.append_nil] at perm order
    refine ⟨balanced, ?_, ?_, ?_, fun _ => ?_⟩
    · rw [loader]
      exact h.adds
    · rw [loader]
      exact h.removes
    · simp [on]
    · rw [notes, left, List.append_nil]
      exact ⟨perm.erase _, fun ordered => by rw [order ordered]⟩

theorem registerRemove {c : HandlerId} {u : Unit} {v' : Watch} (h : Mirrors a r nests v [] p)
    (next : v.after a r (.onRemove c) = some v')
    (subscribed : (registerRemove c : ProcessAct (List UInt64 × τ) Unit) p = .ok u q) :
    Mirrors a r nests v' [] q := by
  rw [modify_eq_ok.1 subscribed]
  have count : (p.loader.removeCallbacks ++ [c]).countP (· = r) =
      (if v.removes then 1 else 0) + if c = r then 1 else 0 := by
    rw [List.countP_append, h.removes]
    simp [List.countP_singleton]
  have ⟨adds, removes⟩ : v'.adds = v.adds ∧ (p.loader.removeCallbacks ++ [c]).countP (· = r) =
      if v'.removes then 1 else 0 := by
    rw [count]
    by_cases e : c = r
    · simp only [Watch.after, if_pos e] at next
      split at next
      · cases next
      · next off =>
        cases next
        simp [e, off]
    · simp only [Watch.after, if_neg e] at next
      cases next
      simp [e]
  refine ⟨⟨h.balanced.chained, h.balanced.tally⟩, ?_, removes, ?_, ?_⟩ <;> rw [adds]
  · exact h.adds
  · exact h.unused
  · exact h.current

end Mirrors

section

variable {first last : Call → Deed (List UInt64 × τ)} {start p q : Process (List UInt64 × τ)}

theorem Mirrors.serve (orderly : Orderly nests first last) {v v' : Watch} {t : ThreadId} {depth : Nat}
    {request : Request} {x : request.Reply} (h : Mirrors a r nests v [] p)
    (next : v.after a r request = some v')
    (served : serve (reentrant (noting (mirrorNote a r) first last) t depth) t request p = .ok x q) :
    Mirrors a r nests v' [] q := by
  have faithful : ∀ v, Faithful (mirrorNote a r) (Mirrors a r nests v)
      (reentrant (noting (mirrorNote a r) first last) t depth) :=
    fun v => faithful_reentrant (ledger a r nests v) orderly depth
  cases request with
  | map images =>
    cases next
    exact (mapImages_leads (ledger a r nests _) (faithful _) (fun _ => rfl) h served).1
  | mapOne image =>
    cases next
    exact (mapImage_leads (ledger a r nests _) (faithful _) (fun _ => rfl) h served).1
  | onState s =>
    cases next
    exact registerState_leads (ledger a r nests _) (faithful _) h served
  | onAdd c =>
    simp only [Watch.after] at next
    split at next
    · next e =>
      subst e
      split at next
      · cases next
      · next off =>
        cases next
        exact h.registerAdd (by simpa using off) (faithful _) served
    · next other =>
      cases next
      exact h.registerAdd_other other (faithful _) served
  | onRemove c => exact h.registerRemove next served
  | unmap addr =>
    simp only [Watch.after] at next
    split at next
    · next paired =>
      cases next
      have balanced := keeps_serve (orderly.maps _) depth (.unmap addr) p h.balanced x q served
      exact h.unmapImage paired (quiet_reentrant orderly depth) served balanced
    · cases next

theorem Course.mirrors (orderly : Orderly nests first last) {requests : List Request} {v : Watch}
    (course : Course (noting (mirrorNote a r) first last) start requests p)
    (images : start.registry.value = {}) (loader : start.loader = {}) (mirror : start.client.1 = [])
    (watched : watch a r requests = some v) : Mirrors a r nests v [] p := by
  induction course generalizing v with
  | start =>
    cases watched
    refine ⟨⟨images ▸ ImageList.chained_empty, fun addr => ?_⟩, ?_, ?_, fun _ => mirror, nofun⟩
    · rw [images, loader]
      rfl
    · rw [loader]
      rfl
    · rw [loader]
      rfl
  | request t depth request x course served ih =>
    rw [watch, List.foldlM_append] at watched
    obtain ⟨v₀, before, next⟩ := Option.bind_eq_some_iff.1 watched
    rw [List.foldlM_cons] at next
    obtain ⟨v₁, next, e⟩ := Option.bind_eq_some_iff.1 next
    cases e
    exact (ih before).serve orderly next served
  | other course same ih => exact (ih watched).same same

/-- From a process without images on, a client with both callbacks registered has the addresses of the
registered images on its list, each once; they are in order where no handler calls the loader. -/
theorem mirror_of_course (orderly : Orderly true first last) {requests : List Request}
    (course : Course (noting (mirrorNote a r) first last) start requests p)
    (watched : watch a r requests = some ⟨true, true⟩) (images : start.registry.value = {})
    (loader : start.loader = {}) (mirror : start.client.1 = []) :
    p.client.1.Perm (addrs p) ∧ p.client.1.Nodup ∧ (Orderly false first last → p.client.1 = addrs p) := by
  have h := course.mirrors orderly images loader mirror watched
  have current := (h.current rfl).perm
  rw [List.append_nil] at current
  refine ⟨current, current.nodup_iff.2 h.balanced.distinct, fun alone => ?_⟩
  have order := ((course.mirrors alone images loader mirror watched).current rfl).order rfl
  rwa [List.append_nil] at order

end

/-- A handler that refuses the image at 2, and an add callback that maps another after that at 5. -/
def curious : Call → Deed (List UInt64 × Unit)
  | .state _ _ images => .answer (if images.any (·.addr = 2) then some "unwanted" else none)
  | .add _ image =>
    if image.addr = 5 then .request (.mapOne (imageAt 9)) fun _ => .answer none else .answer none
  | .remove _ _ => .answer none

/-- Both callbacks come after two images; one of these is unmapped after two more. -/
def lateWatch : List Request :=
  [.onState ⟨.bound, false, 0⟩, .map [imageAt 1, imageAt 2], .onAdd 3, .onRemove 4,
    .map [imageAt 5, imageAt 6], .unmap 1]

theorem orderly_curious : Orderly true (fun _ => .answer none) curious := by
  refine ⟨fun call => ⟨trivial, ?_⟩, fun c image => ⟨trivial, trivial⟩, fun call => ⟨trivial, ?_⟩⟩
  all_goals
    cases call with
    | add c image => by_cases five : image.addr = 5 <;> simp [curious, five, Deed.Only, Deed.Spares,
        Request.nestable, Request.isMap]
    | _ => exact trivial

theorem mirror_curious :
    ∃ p, Course (noting (mirrorNote 3 4) (fun _ => .answer none) curious)
      (Process.unmanaged {} ([], ())) lateWatch p ∧ p.client.1 = [5, 9, 6] ∧ p.client.1.Perm (addrs p) := by
  have course : Course (noting (mirrorNote 3 4) (fun _ => .answer none) curious)
    (Process.unmanaged {} ([], ())) [] (Process.unmanaged {} ([], ())) := .start
  have course := course.next (.named "a") 1 (.onState ⟨.bound, false, 0⟩) (by decide +kernel)
  have course := course.next (.named "a") 1 (.map [imageAt 1, imageAt 2]) (by decide +kernel)
  have course := course.next (.named "b") 1 (.onAdd 3) (by decide +kernel)
  have course := course.next (.named "b") 0 (.onRemove 4) (by decide +kernel)
  have course := course.next (.named "a") 2 (.map [imageAt 5, imageAt 6]) (by decide +kernel)
  have course := course.next (.named "a") 1 (.unmap 1) (by decide +kernel)
  exact ⟨_, course, by decide +kernel, (mirror_of_course orderly_curious course rfl rfl rfl rfl).1⟩

end ImageLoader.Loader
