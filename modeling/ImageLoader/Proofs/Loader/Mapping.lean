import ImageLoader.Proofs.Loader.Passive
import ImageLoader.Proofs.Loader.Reached
/-! The calls of a mapping, against a list of them that is made without the registry: from the images that
are new, the handlers and callbacks subscribed, and the answers that the calls get. The loader itself goes
by what is registered when it looks. So what carries the proof is that of the batch exactly those images
are registered that no handler has refused, and that nothing else is registered at their addresses. -/

namespace ImageLoader.Loader

open Act

variable {σ τ : Type}

/-- The images of a list that a mapping registers: the address is not known, no image before it has the
same one, and there is metadata. -/
def newcomers (known : Table UInt64 Bool) : (seen : List UInt64) → List Image → List Image
  | _, [] => []
  | seen, i :: rest =>
    if known.get? i.addr = none ∧ i.addr ∉ seen ∧ i.hasMetadata then
      i :: newcomers known (i.addr :: seen) rest
    else newcomers known (i.addr :: seen) rest

/-- The calls to the bound handlers while images are left, and the images left after them. -/
def boundCalls : List StateRegistration → (left : List Image) → (answers : List (Option String)) →
    List Call × List Image
  | [], left, _ => ([], left)
  | h :: rest, left, answers =>
    if left = [] then ([], [])
    else
      let calls := asks h left
      let others := boundCalls rest (survivors h left answers) (answers.drop calls.length)
      (calls ++ others.1, others.2)

/-- The calls for images that were not refused. -/
def introductions (l : Loader) (left : List Image) : List Call :=
  (left.flatMap fun i => l.addCallbacks.map (.add · i)) ++
    if left = [] then [] else (l.handlersOf .dependentsInitialized).flatMap (asks · left)

/-- The calls of a mapping, given the answers that they get in turn. -/
def documented (l : Loader) (images : List Image) (answers : List (Option String)) : List Call :=
  let bound := boundCalls (l.handlersOf .bound) (newcomers l.known [] images) answers
  bound.1 ++ introductions l bound.2

/-- Notices were added, of calls about images that were registered; subscribers are those of before. -/
structure Told (notices : List Notice) (p q : Process (List Notice × τ)) : Prop where
  loader : ∃ known, q.loader = { p.loader with known }
  notes : q.client.1 = p.client.1 ++ notices
  present : ∀ n ∈ notices, n.Present

namespace Told

variable {notices notices' : List Notice} {p q r : Process (List Notice × τ)}

theorem silent {known : Table UInt64 Bool} (loader : q.loader = { p.loader with known })
    (client : q.client = p.client) : Told [] p q where
  loader := ⟨known, loader⟩
  notes := by rw [client, List.append_nil]
  present := nofun

theorem untouched (h : Untouched p q) : Told [] p q where
  loader := ⟨p.loader.known, h.loader⟩
  notes := by rw [h.client, List.append_nil]
  present := nofun

theorem trans (h : Told notices p q) (h' : Told notices' q r) : Told (notices ++ notices') p r where
  loader := by
    obtain ⟨known, h⟩ := h.loader
    obtain ⟨known', h'⟩ := h'.loader
    exact ⟨known', by rw [h', h]⟩
  notes := by rw [h'.notes, h.notes, List.append_assoc]
  present := List.forall_mem_append.2 ⟨h.present, h'.present⟩

theorem handlersOf (h : Told notices p q) (state : ImageState) :
    q.loader.handlersOf state = p.loader.handlersOf state := by
  obtain ⟨known, h⟩ := h.loader
  rw [h]
  rfl

theorem addCallbacks (h : Told notices p q) : q.loader.addCallbacks = p.loader.addCallbacks := by
  obtain ⟨known, h⟩ := h.loader
  rw [h]

theorem introductions (h : Told notices p q) (left : List Image) :
    introductions q.loader left = introductions p.loader left := by
  rw [Loader.introductions, Loader.introductions, h.handlersOf, h.addCallbacks]

theorem of_noticed {addrs : List UInt64} {calls : List Call} (h : Noticed addrs calls notices p q)
    (here : ∀ c ∈ calls, ∀ i ∈ c.images, i.addr ∈ addrs ∧ i ∈ p.registry.value.imagesAt i.addr) :
    Told notices p q where
  loader := ⟨p.loader.known, h.loader⟩
  notes := h.notes
  present n hn i hi := by
    obtain ⟨mem, registered⟩ := here n.call (h.calls ▸ List.mem_map_of_mem hn) i hi
    rw [← h.registered n hn _ mem] at registered
    exact (List.mem_filter.1 registered).1

end Told

/-- Of a batch those images that are left are registered, once each, and nothing else is at the addresses
of the batch. -/
structure Stands (batch left : List Image) (p : Process σ) : Prop where
  chained : p.registry.value.Chained
  distinct : (batch.map (·.addr)).Nodup
  ofBatch : batch.filter (· ∈ left) = left
  here : ∀ i ∈ batch, p.registry.value.imagesAt i.addr = if i ∈ left then [i] else []

namespace Stands

variable {batch left : List Image} {p q : Process σ} {t : ThreadId}

theorem mem_batch (stands : Stands batch left p) {i : Image} (h : i ∈ left) : i ∈ batch := by
  rw [← stands.ofBatch] at h
  exact (List.mem_filter.1 h).1

theorem distinct_left (stands : Stands batch left p) : (left.map (·.addr)).Nodup := by
  rw [← stands.ofBatch]
  exact stands.distinct.sublist (List.filter_sublist.map _)

theorem registered (stands : Stands batch left p) {i : Image} (h : i ∈ left) :
    i.addr ∈ batch.map (·.addr) ∧ i ∈ p.registry.value.imagesAt i.addr := by
  have mem := stands.mem_batch h
  refine ⟨List.mem_map_of_mem mem, ?_⟩
  rw [stands.here i mem, if_pos h]
  exact List.mem_singleton_self i

theorem steady (stands : Stands batch left p) (h : Steady (batch.map (·.addr)) p q) :
    Stands batch left q where
  chained := h.chained stands.chained
  distinct := stands.distinct
  ofBatch := stands.ofBatch
  here i hi := by
    rw [h.images i.addr (List.mem_map_of_mem hi)]
    exact stands.here i hi

theorem live (stands : Stands batch left p) {images : List ImageRecord}
    (h : live t (batch.map ImageRecord.new) p = .ok images q) : images = left.map ImageRecord.new ∧ Untouched p q := by
  obtain ⟨rfl, same⟩ := live_eq_filter h
  have stand : ∀ i ∈ batch, p.registry.value.contains (ImageRecord.new i).addr = decide (i ∈ left) := by
    intro i hi
    rw [ImageList.contains_eq, ImageRecord.addr_new, stands.here i hi]
    split <;> simp_all
  refine ⟨?_, same⟩
  rw [List.filter_map, ← stands.ofBatch]
  exact congrArg (List.map ImageRecord.new) (List.filter_congr stand)

theorem filter (stands : Stands batch left p) (keep : Image → Bool) :
    batch.filter (· ∈ left.filter keep) = left.filter keep := by
  have both : batch.filter (· ∈ left.filter keep) = (batch.filter (· ∈ left)).filter keep := by
    rw [List.filter_filter]
    exact List.filter_congr fun i _ => by simp [and_comm]
  rw [both, stands.ofBatch]

theorem takenOut {addr : UInt64} (stands : Stands batch left p) (out : TakenOut addr p q) :
    Stands batch (left.filter (·.addr ≠ addr)) q where
  chained := out.images ▸ (ImageList.remove_spec stands.chained addr).1
  distinct := stands.distinct
  ofBatch := stands.filter _
  here i hi := by
    have here := stands.here i hi
    rw [out.images]
    by_cases e : i.addr = addr
    · rw [if_neg (by simp [e])]
      rw [e] at here
      rw [e, ImageList.imagesAt_remove_self stands.chained, here]
      split <;> rfl
    · rw [ImageList.imagesAt_remove stands.chained (Ne.symm e), here]
      simp [e]

theorem reject {p q : Process (List Notice × τ)} {rejections : List Rejection} {a : Unit}
    (stands : Stands batch left p) (h : reject t rejections p = .ok a q) :
    Stands batch (left.filter (·.addr ∉ rejections.map (·.addr))) q ∧ Told [] p q := by
  induction rejections generalizing p left with
  | nil =>
    cases h
    exact ⟨by simpa using stands, .untouched (.refl _)⟩
  | cons r rest ih =>
    rw [reject_cons] at h
    obtain ⟨_, p₁, said, h⟩ := bind_eq_ok.1 h
    obtain ⟨_, p₂, taken, h⟩ := bind_eq_ok.1 h
    have said := say_untouched _ _ _ said
    have out := takenOut_of_takeOut taken
    obtain ⟨stands, told⟩ := ih ((stands.steady (said.steady _)).takenOut out) h
    have both : (left.filter (·.addr ≠ r.addr)).filter (·.addr ∉ rest.map (·.addr)) =
        left.filter (·.addr ∉ (r :: rest).map (·.addr)) := by
      rw [List.filter_filter]
      exact List.filter_congr fun i _ => by simp [Bool.and_comm]
    refine ⟨both ▸ stands, ?_⟩
    exact (Told.untouched said).trans ((Told.silent out.loader out.client).trans told)

end Stands

theorem mem_of_mem_newcomers {known : Table UInt64 Bool} {seen : List UInt64} {images : List Image}
    {i : Image} (h : i ∈ newcomers known seen images) :
    i ∈ images ∧ known.get? i.addr = none ∧ i.addr ∉ seen := by
  induction images generalizing seen with
  | nil => cases h
  | cons j rest ih =>
    rw [newcomers] at h
    have later : i ∈ newcomers known (j.addr :: seen) rest →
        i ∈ j :: rest ∧ known.get? i.addr = none ∧ i.addr ∉ seen := fun mem =>
      have ⟨mem, new, unseen⟩ := ih mem
      ⟨List.mem_cons_of_mem _ mem, new, fun old => unseen (List.mem_cons_of_mem _ old)⟩
    split at h
    · next new =>
      rcases List.mem_cons.1 h with rfl | h
      · exact ⟨List.mem_cons_self, new.1, new.2.1⟩
      · exact later h
    · exact later h

theorem newcomers_subset (known : Table UInt64 Bool) (seen : List UInt64) (images : List Image) :
    newcomers known seen images ⊆ images := fun _ hi => (mem_of_mem_newcomers hi).1

theorem distinct_newcomers (known : Table UInt64 Bool) (seen : List UInt64) (images : List Image) :
    ((newcomers known seen images).map (·.addr)).Nodup := by
  induction images generalizing seen with
  | nil => exact .nil
  | cons i rest ih =>
    rw [newcomers]
    split
    · refine List.nodup_cons.2 ⟨fun mem => ?_, ih _⟩
      obtain ⟨j, hj, e⟩ := List.mem_map.1 mem
      exact (mem_of_mem_newcomers hj).2.2 (e ▸ List.mem_cons_self)
    · exact ih _

theorem filter_addr {images : List Image} (distinct : (images.map (·.addr)).Nodup) {i : Image}
    (mem : i ∈ images) : images.filter (·.addr = i.addr) = [i] := by
  have one : images.filter (·.addr = i.addr) = images.filter (· = i) :=
    List.filter_congr fun j hj => decide_eq_decide.2
      ⟨List.inj_on_of_nodup_map distinct hj mem, congrArg _⟩
  rw [one, List.filter_eq, List.count_eq_one_of_mem (.of_map _ distinct) mem]
  rfl

theorem Enters.unknown {image : Image} {registered : Bool} {p q : Process σ}
    (h : Enters image registered p q) (addr : UInt64) :
    q.loader.known.get? addr = none ↔ image.addr ≠ addr ∧ p.loader.known.get? addr = none := by
  rw [h.known]
  split <;> simp_all

theorem Enters.imagesOf {image : Image} {registered : Bool} {p q : Process σ}
    (h : Enters image registered p q) (chained : p.registry.value.Chained) :
    imagesOf q = imagesOf p ++ if registered then [image] else [] := by
  rw [Loader.imagesOf, Loader.imagesOf, h.images]
  cases registered
  · exact (List.append_nil _).symm
  · rw [if_pos rfl, ImageList.toList_append chained, List.map_append]
    rfl

theorem enrolAll_told {known : Table UInt64 Bool} {seen : List UInt64} {images : List Image}
    {t : ThreadId} {p q : Process (List Notice × τ)} {a : List MapOutcome × List ImageRecord}
    (chained : p.registry.value.Chained)
    (agree : ∀ addr, p.loader.known.get? addr = none ↔ known.get? addr = none ∧ addr ∉ seen)
    (h : enrolAll t images p = .ok a q) :
    a.2 = (newcomers known seen images).map ImageRecord.new ∧ q.registry.value.Chained ∧
      imagesOf q = imagesOf p ++ newcomers known seen images ∧ Told [] p q := by
  induction images generalizing p seen a with
  | nil =>
    cases h
    exact ⟨rfl, chained, (List.append_nil _).symm, .untouched (.refl _)⟩
  | cons i rest ih =>
    obtain ⟨⟨outcome, new⟩, p₁, enrolled, h⟩ := bind_eq_ok.1 h
    obtain ⟨⟨outcomes, batch⟩, q', others, h⟩ := bind_eq_ok.1 h
    cases h
    have new : p.loader.known.get? i.addr = none ↔ known.get? i.addr = none ∧ i.addr ∉ seen := agree _
    -- whatever becomes of the image, its address is known from here on
    have later {p₁ : Process (List Notice × τ)} (known₁ : ∀ addr, p₁.loader.known.get? addr = none ↔
        i.addr ≠ addr ∧ p.loader.known.get? addr = none) : ∀ addr, p₁.loader.known.get? addr = none ↔
        known.get? addr = none ∧ addr ∉ i.addr :: seen := fun addr => by
      rw [known₁, agree, List.mem_cons, not_or]
      tauto
    rcases enrol_spec enrolled with
      ⟨old, same, -, rfl⟩ | ⟨metadata, enters, -, rfl⟩ | ⟨plain, enters, -, rfl⟩
    · have unchanged : imagesOf p₁ = imagesOf p := by rw [imagesOf, imagesOf, same.images]
      obtain ⟨rfl, chained, images, told⟩ := ih (same.images ▸ chained) (later fun addr => by
        rw [same.loader, iff_and_self]
        exact fun unknown e => old (e ▸ unknown)) others
      rw [newcomers, if_neg fun h => old (new.2 ⟨h.1, h.2.1⟩), ← unchanged]
      exact ⟨rfl, chained, images, (Told.untouched same).trans told⟩
    · obtain ⟨rfl, chained', images, told⟩ := ih (enters.chained chained) (later enters.unknown) others
      rw [enters.imagesOf chained, List.append_assoc] at images
      obtain ⟨unknown, unseen⟩ := new.1 enters.new
      rw [newcomers, if_pos ⟨unknown, unseen, metadata⟩]
      exact ⟨rfl, chained', images, (Told.silent enters.loader enters.client).trans told⟩
    · obtain ⟨rfl, chained', images, told⟩ := ih (enters.chained chained) (later enters.unknown) others
      rw [enters.imagesOf chained, List.append_assoc] at images
      rw [newcomers, if_neg (by simp [plain])]
      exact ⟨rfl, chained', images, (Told.silent enters.loader enters.client).trans told⟩

@[simp] theorem boundCalls_nil (handlers : List StateRegistration) (answers : List (Option String)) :
    boundCalls handlers [] answers = ([], []) := by
  cases handlers <;> rfl

@[simp] theorem introductions_nil (l : Loader) : introductions l [] = [] := rfl

theorem boundCalls_cons {left : List Image} (some : left ≠ []) (s : StateRegistration)
    (rest : List StateRegistration) (answers : List (Option String)) :
    boundCalls (s :: rest) left answers =
      (asks s left ++
          (boundCalls rest (survivors s left answers) (answers.drop (asks s left).length)).1,
        (boundCalls rest (survivors s left answers) (answers.drop (asks s left).length)).2) := by
  rw [boundCalls, if_neg some]

section

variable {behave : Client (List Notice × τ)} {t : ThreadId} {batch left : List Image}
  {p q : Process (List Notice × τ)}

/-- What is left after each handler is what its answers leave, whatever the calls after it are answered. -/
theorem Stands.runBound (inert : Inert (batch.map (·.addr)) behave) (stands : Stands batch left p)
    {handlers : List StateRegistration} {refused a : Option Rejection}
    (h : runBound (noticing behave) t (batch.map ImageRecord.new) handlers refused p = .ok a q) :
    ∃ notices left', Told notices p q ∧ Stands batch left' q ∧
      ∀ more, boundCalls handlers left (notices.map (·.answer) ++ more) =
        (notices.map (·.call), left') := by
  -- on the handlers: before each one what stands is the images left, and its rejections are taken out
  induction handlers generalizing p left refused with
  | nil =>
    cases h
    exact ⟨[], left, .untouched (.refl _), stands, fun _ => rfl⟩
  | cons s rest ih =>
    obtain ⟨images, p₁, looked, h⟩ := bind_eq_ok.1 h
    obtain ⟨rfl, same⟩ := stands.live looked
    have stands₁ := stands.steady (same.steady _)
    split at h
    · next none =>
      cases h
      obtain rfl : left = [] := by simpa using none
      exact ⟨[], [], .untouched same, stands₁, fun more => by simp⟩
    · next some =>
      obtain ⟨rejections, p₂, asked, h⟩ := bind_eq_ok.1 h
      obtain ⟨_, p₃, rejected, h⟩ := bind_eq_ok.1 h
      obtain ⟨first, noticed, survive⟩ := ask_noticed inert stands.distinct_left asked
      obtain ⟨stands₃, quiet⟩ := (stands₁.steady noticed.toSteady).reject rejected
      obtain ⟨others, left', told, stands', rested⟩ := ih stands₃ h
      have asking : Told first p₁ p₂ := .of_noticed noticed fun c hc i hi =>
        stands₁.registered (mem_images_of_asks hc hi)
      refine ⟨first ++ others, left', ?_, stands', fun more => ?_⟩
      · simpa using (Told.untouched same).trans (asking.trans (quiet.trans told))
      · have nonempty : left ≠ [] := by simpa using some
        have length : (asks s left).length = (first.map (·.answer)).length := by
          rw [List.length_map, noticed.length]
        rw [boundCalls_cons nonempty, List.map_append, List.append_assoc, survive, length,
          List.drop_left, rested, List.map_append, noticed.calls]

theorem Stands.introduce (inert : Inert (batch.map (·.addr)) behave) (stands : Stands batch left p) {a : Unit}
    (h : introduce (noticing behave) t (batch.map ImageRecord.new) p = .ok a q) :
    ∃ notices, Told notices p q ∧ notices.map (·.call) = introductions p.loader left := by
  obtain ⟨images, p₁, looked, h⟩ := bind_eq_ok.1 h
  obtain ⟨rfl, same⟩ := stands.live looked
  have stands₁ := stands.steady (same.steady _)
  obtain ⟨_, _, e, h⟩ := bind_eq_ok.1 h
  cases e
  obtain ⟨_, p₂, added, h⟩ := bind_eq_ok.1 h
  obtain ⟨first, adding⟩ := callAddEach_noticed inert added
  have told : Told first p p₂ := (Told.untouched same).trans (.of_noticed adding fun c hc i hi =>
    stands₁.registered (mem_images_of_adds hc hi))
  rw [introductions, ← same.loader, ← adding.calls]
  split at h
  · next none =>
    cases h
    obtain rfl : left = [] := by simpa using none
    exact ⟨first, told, by simp⟩
  · next some =>
    obtain ⟨_, _, e, h⟩ := bind_eq_ok.1 h
    cases e
    have stands₂ := stands₁.steady adding.toSteady
    obtain ⟨others, asking⟩ := runDependents_noticed inert stands.distinct_left h
    refine ⟨first ++ others, told.trans (.of_noticed asking fun c hc i hi => ?_), ?_⟩
    · obtain ⟨s, -, mem⟩ := List.mem_flatMap.1 hc
      exact stands₂.registered (mem_images_of_asks mem hi)
    · have nonempty : left ≠ [] := by simpa using some
      rw [List.map_append, asking.calls, if_neg nonempty, adding.loader]

/-- The newcomers of a list stand registered once all of it is enrolled. -/
theorem stands_of_enrolAll {images : List Image} {a : List MapOutcome × List ImageRecord}
    (covered : ∀ i ∈ images, Covered i.addr 0 p) (chained : p.registry.value.Chained)
    (h : enrolAll t images p = .ok a q) :
    a.2 = (newcomers p.loader.known [] images).map ImageRecord.new ∧ Told [] p q ∧
      Stands (newcomers p.loader.known [] images) (newcomers p.loader.known [] images) q := by
  have agree : ∀ addr, p.loader.known.get? addr = none ↔ p.loader.known.get? addr = none ∧ addr ∉ [] :=
    fun _ => (and_iff_left List.not_mem_nil).symm
  obtain ⟨batch, chained', registered, told⟩ := enrolAll_told chained agree h
  have distinct := distinct_newcomers p.loader.known [] images
  refine ⟨batch, told, chained', distinct, List.filter_eq_self.2 (by simp), fun i hi => ?_⟩
  obtain ⟨mem, unknown, -⟩ := mem_of_mem_newcomers hi
  have before : p.registry.value.imagesAt i.addr = [] := by
    rw [← List.head?_eq_none_iff, ImageList.head?_imagesAt, (covered i mem).absent unknown]
    rfl
  rw [if_pos hi, imagesAt_eq, registered, List.filter_append, filter_addr distinct hi, ← imagesAt_eq,
    before, List.nil_append]

theorem mapImages_told {images : List Image} (inert : Inert (images.map (·.addr)) behave)
    (covered : ∀ i ∈ images, Covered i.addr 0 p) {a : Except LoaderError (List MapOutcome)}
    (h : mapImages (noticing behave) t images p = .ok a q) :
    ∃ notices, Told notices p q ∧
      notices.map (·.call) = documented p.loader images (notices.map (·.answer)) := by
  rcases eq_or_ne images [] with rfl | some
  · cases h
    exact ⟨[], .untouched (.refl _), by simp [documented, newcomers]⟩
  obtain ⟨first, here⟩ := List.exists_mem_of_ne_nil images some
  obtain ⟨outcomes, batch, p₁, enrolled, h⟩ := mapImages_cases h
  obtain ⟨rfl, quiet, stands⟩ := stands_of_enrolAll covered (covered first here).chained enrolled
  rcases h with ⟨none, rfl, -⟩ | ⟨refused, announced, -⟩
  · exact ⟨[], quiet, by simp [documented, List.map_eq_nil_iff.1 none]⟩
  · rw [announce_eq] at announced
    obtain ⟨_, _, e, announced⟩ := bind_eq_ok.1 announced
    cases e
    obtain ⟨refused', p₂, bound, announced⟩ := bind_eq_ok.1 announced
    obtain ⟨_, p₃, introduced, announced⟩ := bind_eq_ok.1 announced
    cases announced
    have inert := inert.mono (List.map_subset (·.addr) (newcomers_subset p.loader.known [] images))
    obtain ⟨asked, left, asking, stands', boundCalls⟩ := stands.runBound inert bound
    obtain ⟨later, telling, calls⟩ := stands'.introduce inert introduced
    refine ⟨asked ++ later, quiet.trans (asking.trans telling), ?_⟩
    have same := (quiet.trans asking).introductions left
    simp only [documented, List.map_append, ← quiet.handlersOf, boundCalls, calls, same]

end

theorem inert_reentrant {body : Call → Deed (List Notice × τ)} {addrs : List UInt64}
    (only : ∀ call, (body call).Only fun _ => false) (spares : ∀ call, (body call).Spares) (t : ThreadId)
    (depth : Nat) : Inert addrs (reentrant body t depth) :=
  inert_of_passive (fun call => passive_reentrant body call (only call) (spares call) t depth) addrs

/-- The action returns where the registry can be had, and leaves it so. -/
def Returns {α : Type} (x : ProcessAct σ α) : Prop :=
  ∀ p, Registry.available p → ∃ a q, x p = .ok a q ∧ Registry.available q

theorem closed_returns : Closed (s := Process σ) (ε := Stop) Returns where
  pure a p h := ⟨a, p, rfl, h⟩
  bind hx hf p h := by
    obtain ⟨a, q, first, h⟩ := hx p h
    obtain ⟨b, r, second, h⟩ := hf a q h
    exact ⟨b, r, bind_eq_ok.2 ⟨a, q, first, second⟩, h⟩

theorem returns_get : Returns (get : ProcessAct σ (Process σ)) := fun p h => ⟨p, p, rfl, h⟩

theorem pieces_returns (t : ThreadId) : Pieces (σ := σ) Returns t where
  closed := closed_returns
  reads := reads_of_get closed_returns returns_get
  say _ _ _ h := ⟨(), _, rfl, h⟩
  access f _ h := ⟨_, Registry.access_of_available h t f⟩
  revise _ _ h := ⟨(), _, rfl, h⟩

theorem returns_noticing {behave : Client (List Notice × τ)} {call : Call} (h : Returns (behave call)) :
    Returns (noticing behave call) :=
  closed_returns.bind returns_get fun _ => closed_returns.bind h fun _ =>
    closed_returns.bind (fun _ h => ⟨(), _, rfl, h⟩) fun _ => closed_returns.pure _

/-- A mapping calls as documented, and only about images that are registered then. -/
theorem calls_of_mapImages {behave : Client (List Notice × τ)} {t : ThreadId} {images : List Image}
    {p : Process (List Notice × τ)} (inert : Inert (images.map (·.addr)) behave)
    (reached : ∀ i ∈ images, Reached i.addr p) :
    (∀ a q, mapImages (noticing behave) t images p = .ok a q →
      ∃ notices, q.client.1 = p.client.1 ++ notices ∧
        notices.map (·.call) = documented p.loader images (notices.map (·.answer)) ∧
        ∀ n ∈ notices, n.Present) ∧
    (Registry.available p → (∀ call, Returns (behave call)) →
      ∃ a q, mapImages (noticing behave) t images p = .ok a q) := by
  refine ⟨fun a q mapped => ?_, fun available returns => ?_⟩
  · obtain ⟨notices, told, calls⟩ := mapImages_told inert (fun i hi => (reached i hi).covered) mapped
    exact ⟨notices, told.notes, calls, told.present⟩
  · have parts := (pieces_returns (σ := List Notice × τ) t).parts
    obtain ⟨a, q, mapped, -⟩ :=
      parts.mapImages (fun call => returns_noticing (returns call)) images p available
    exact ⟨a, q, mapped⟩

def picky (call : Call) : Deed (List Notice × Unit) :=
  match call with
  | .state 0 _ images => .answer (if images.any (·.addr = 2) then some "unwanted" else none)
  | _ => .answer none

theorem picky_eq (call : Call) : ∃ reason, picky call = .answer reason := by
  unfold picky
  split <;> exact ⟨_, rfl⟩

theorem inert_picky (addrs : List UInt64) (t : ThreadId) : Inert addrs (reentrant picky t 1) := by
  refine inert_reentrant (fun call => ?_) (fun call => ?_) t 1
  · obtain ⟨_, e⟩ := picky_eq call
    rw [e]
    exact trivial
  · obtain ⟨_, e⟩ := picky_eq call
    rw [e]
    exact trivial

theorem returns_picky (t : ThreadId) (call : Call) : Returns (reentrant picky t 1 call) := by
  obtain ⟨reason, e⟩ := picky_eq call
  change Returns ((picky call).run _)
  rw [e]
  exact closed_returns.pure reason

def content : Call → Deed (List Notice × Unit) := fun _ => .answer none

/-- One image comes twice, one has no metadata, and that at 5 is known. -/
def mixed : List Image :=
  [imageAt 1, imageAt 2, .new 3 .dylib "plain" 0, imageAt 1, imageAt 4, imageAt 5]

theorem calls_of_mapImages_mixed :
    ∃ p, (∀ i ∈ mixed, Reached i.addr p) ∧ Registry.available p ∧
      ∃ a q, mapImages (noticing (reentrant picky (.named "a") 1)) (.named "a") mixed p = .ok a q ∧
        ∃ notices, q.client.1 = p.client.1 ++ notices ∧
          notices.map (·.call) = documented p.loader mixed (notices.map (·.answer)) ∧
          (∀ n ∈ notices, n.Present) ∧
          notices.map (·.call.images.map (·.addr)) = [[1], [2], [4], [1, 4], [1], [4], [1, 4]] := by
  have only (call : Call) : (content call).Only fun _ => true := trivial
  have reached (addr : UInt64) : Reached addr (Process.unmanaged {} (([], ()) : List Notice × Unit)) :=
    .empty rfl rfl
  have reached addr := (reached addr).next content only (.named "a") 1 (.mapOne (imageAt 5))
    (by decide +kernel)
  have reached addr := (reached addr).next content only (.named "a") 1 (.onState ⟨.bound, false, 0⟩)
    (by decide +kernel)
  have reached addr := (reached addr).next content only (.named "b") 1
    (.onState ⟨.dependentsInitialized, true, 1⟩) (by decide +kernel)
  have reached addr := (reached addr).next content only (.named "b") 1 (.onState ⟨.bound, true, 2⟩)
    (by decide +kernel)
  have reached addr := (reached addr).next content only (.named "a") 1 (.onAdd 0) (by decide +kernel)
  refine ⟨_, fun i _ => reached i.addr, by decide +kernel, ?_⟩
  generalize hp : endState _ _ = p at reached
  obtain ⟨told, answered⟩ := calls_of_mapImages (t := .named "a")
    (inert_picky (mixed.map (·.addr)) (.named "a")) fun i _ => reached i.addr
  obtain ⟨a, q, mapped⟩ := answered (by subst hp; decide +kernel) (returns_picky _)
  obtain ⟨notices, notes, calls, present⟩ := told a q mapped
  refine ⟨a, q, mapped, notices, notes, calls, present, ?_⟩
  have ends : q = endState (mapImages (noticing (reentrant picky (.named "a") 1)) (.named "a") mixed) p := by
    rw [endState, mapped]
  have none : p.client.1 = [] := by
    subst hp
    decide +kernel
  rw [none, List.nil_append, ends] at notes
  rw [← notes]
  subst hp
  decide +kernel

end ImageLoader.Loader
