import ImageLoader.Proofs.Loader.Verdicts
/-! To unmap an image undoes its mapping. Two runs of the same requests are followed side by side, one after
the image was mapped and one as if it never was. They differ at the address of the image only, whatever
became of it, until it is unmapped and nothing is left to differ. -/

namespace ImageLoader.Loader

open Act

variable {σ τ : Type}

def Request.apart (addr : UInt64) : Request → Bool
  | .map images => images.all (·.addr ≠ addr)
  | .mapOne image => image.addr ≠ addr
  | .unmap a => a ≠ addr
  | _ => false

def serveEach (client : Client σ) : List (ThreadId × Request) → ProcessAct σ Unit
  | [] => pure ()
  | (t, r) :: rest => do
    discard (serve client t r)
    serveEach client rest

/-- The image is registered, and no handler refuses it, when it is mapped alone and its address is not known. -/
def welcome (judge : Call → Option String) (l : Loader) (image : Image) : Bool :=
  image.hasMetadata && !barred judge (l.handlersOf .bound) image

/-- Two processes with these subscribers are alike but for one address, at which the first has this record
and the second nothing. -/
structure Beside (l : Loader) (addr : UInt64) (record : Option ImageRecord) (p p' : Process σ) : Prop where
  known : ∀ a, a ≠ addr → p.loader.known.get? a = p'.loader.known.get? a
  unknown : p'.loader.known.get? addr = none
  records : p'.registry.value.toList = p.registry.value.toList.filter (·.addr ≠ addr)
  found : p.registry.value.toList.find? (·.addr = addr) = record
  subscribers : Subscribed l p
  subscribers' : Subscribed l p'

section

variable {behave : Client (List Notice × τ)} {judge : Call → Option String} {t : ThreadId} {l : Loader}
  {image : Image} {images : List Image} {addr : UInt64} {record : Option ImageRecord} {notices : List Notice}
  {p p' q q' : Process (List Notice × τ)} {a : Except LoaderError (List MapOutcome)}

theorem Concluded.known_of_ne (h : Concluded images notices p a q) (apart : ∀ i ∈ images, i.addr ≠ addr) :
    q.loader.known.get? addr = p.loader.known.get? addr := by
  have away : addr ∉ images.map (·.addr) := by simpa using apart
  have none : images.find? (·.addr = addr) = none := by simpa using apart
  rw [h.known, if_neg (mt h.mem_of_refused away), knownAfter, none]
  simp

theorem newcomers_singleton {known : Table UInt64 Bool} (unknown : known.get? image.addr = none) :
    newcomers known [] [image] = if image.hasMetadata then [image] else [] := by
  simp [newcomers, unknown]

theorem filter_verdicts_singleton {known : Table UInt64 Bool} (unknown : known.get? image.addr = none)
    (l : Loader) : (newcomers known [] [image]).filter (·.addr ∉ (verdicts judge (l.handlersOf .bound)
      (newcomers known [] [image])).map (·.addr)) = if welcome judge l image then [image] else [] := by
  have short : (newcomers known [] [image]).length ≤ 1 := by
    rw [newcomers_singleton unknown]
    split <;> simp
  rw [filter_verdicts judge (distinct_newcomers _ _ _) (fun _ => state_of_mem_handlersOf) (.inl short),
    newcomers_singleton unknown, welcome]
  cases image.hasMetadata <;> cases h : barred judge (l.handlersOf .bound) image <;> simp [h]

/-- After an image is mapped alone there is its record, if it is welcome, or nothing. -/
theorem beside_of_mapImage (passive : ∀ call, Passive behave call) (decides : Decides judge behave)
    (covered : Covered image.addr 0 p) (unknown : p.loader.known.get? image.addr = none)
    {a : Except LoaderError MapOutcome} (h : mapImage (noticing behave) t image p = .ok a q) :
    Beside p.loader image.addr (if welcome judge p.loader image then some (.new image) else none) q p := by
  obtain ⟨outcomes, mapped, -⟩ := mapImage_cases h
  obtain ⟨notices, concluded, decided⟩ :=
    mapImages_concluded passive (fun i hi => List.mem_singleton.1 hi ▸ covered) mapped
  have records := concluded.records
  rw [decided judge decides, filter_verdicts_singleton unknown] at records
  have absent : p.registry.value.toList.find? (·.addr = image.addr) = none := covered.absent unknown
  refine ⟨fun x other => ?_, unknown, ?_, ?_, concluded.subscribers, .refl p⟩
  · exact concluded.known_of_ne fun i hi e => other (List.mem_singleton.1 hi ▸ e).symm
  · rw [records, List.filter_append, List.filter_eq_self.2 (by simpa using absent)]
    split <;> simp
  · rw [records, List.find?_append, absent]
    split <;> simp

theorem verdicts_singleton (judge : Call → Option String) (l : Loader) (image : Image) :
    verdicts judge (l.handlersOf .bound) [image] = [] ↔ barred judge (l.handlersOf .bound) image = false := by
  have mem (addr : UInt64) : addr ∈ (verdicts judge (l.handlersOf .bound) [image]).map (·.addr) ↔ _ :=
    mem_verdicts judge (fun _ => state_of_mem_handlersOf) (.inl le_rfl) addr
  rw [← List.map_eq_nil_iff (f := (·.addr)), List.eq_nil_iff_forall_not_mem]
  simp [mem]

theorem mapImage_mapped (passive : ∀ call, Passive behave call) (decides : Decides judge behave)
    (covered : Covered image.addr 0 p) (unknown : p.loader.known.get? image.addr = none)
    {a : Except LoaderError MapOutcome} (h : mapImage (noticing behave) t image p = .ok a q) :
    a = .ok .mapped ↔ welcome judge p.loader image := by
  obtain ⟨reply, mapped, rfl⟩ := mapImage_cases h
  obtain ⟨notices, concluded, decided⟩ :=
    mapImages_concluded passive (fun i hi => List.mem_singleton.1 hi ▸ covered) mapped
  have outcome : outcomes p.loader.known [] [image] =
      [if image.hasMetadata then .mapped else .noMetadata] := by
    rw [outcomes, knownAfter_nil, unknown]
    rfl
  rw [concluded.answer, decided judge decides, newcomers_singleton unknown, outcome, welcome]
  cases image.hasMetadata
  · simp [verdicts_nil, Except.map]
  · have refused := verdicts_singleton judge p.loader image
    cases none : verdicts judge (p.loader.handlersOf .bound) [image] with
    | nil => simp [refused.1 none, none, Except.map]
    | cons r rest =>
      have barred : barred judge (p.loader.handlersOf .bound) image := by
        rw [← Bool.not_eq_false, ← refused, none]
        simp
      simp [none, barred, Except.map]

namespace Beside

theorem mapImages (beside : Beside l addr record p p') (passive : ∀ call, Passive behave call)
    (decides : Decides judge behave) (apart : ∀ i ∈ images, i.addr ≠ addr)
    (covered : ∀ i ∈ images, Covered i.addr 0 p) (covered' : ∀ i ∈ images, Covered i.addr 0 p')
    {a a' : Except LoaderError (List MapOutcome)}
    (h : Loader.mapImages (noticing behave) t images p = .ok a q)
    (h' : Loader.mapImages (noticing behave) t images p' = .ok a' q') : Beside l addr record q q' := by
  obtain ⟨notices, told, decided⟩ := mapImages_concluded passive covered h
  obtain ⟨notices', told', decided'⟩ := mapImages_concluded passive covered' h'
  have new : newcomers p.loader.known [] images = newcomers p'.loader.known [] images :=
    newcomers_congr fun i hi => by rw [beside.known _ (apart i hi)]
  -- so the same images are refused in both, and the same are registered
  have refused : refusals notices = refusals notices' := by
    rw [decided judge decides, decided' judge decides, new, beside.subscribers.handlersOf,
      beside.subscribers'.handlersOf]
  obtain ⟨added, records, records', other⟩ : ∃ added,
      q.registry.value.toList = p.registry.value.toList ++ added ∧
      q'.registry.value.toList = p'.registry.value.toList ++ added ∧ ∀ r ∈ added, r.addr ≠ addr := by
    refine ⟨_, told.records, by rw [told'.records, new, refused], List.forall_mem_map.2 fun i hi => ?_⟩
    exact apart i (mem_of_mem_newcomers (List.mem_filter.1 hi).1).1
  refine ⟨fun x ne => ?_, ?_, ?_, ?_, beside.subscribers.trans told.subscribers,
    beside.subscribers'.trans told'.subscribers⟩
  · rw [told.known, told'.known, refused, knownAfter, knownAfter, beside.known x ne]
  · rw [told'.known_of_ne apart, beside.unknown]
  · have all : added.filter (·.addr ≠ addr) = added :=
      List.filter_eq_self.2 fun r hr => decide_eq_true (other r hr)
    rw [records, records', List.filter_append, beside.records, all]
  · have none : added.find? (·.addr = addr) = none :=
      List.find?_eq_none.2 fun r hr => by simpa using other r hr
    rw [records, List.find?_append, beside.found, none, Option.or_none]

theorem unmapImage (beside : Beside l addr record p p') {x : UInt64} (apart : x ≠ addr)
    {a a' : Option ImageRecord} {notices notices' : List Notice} (h : Unmapped x a notices p q)
    (h' : Unmapped x a' notices' p' q') : Beside l addr record q q' := by
  refine ⟨fun y ne => ?_, ?_, ?_, ?_, beside.subscribers.trans ⟨_, h.loader⟩,
    beside.subscribers'.trans ⟨_, h'.loader⟩⟩
  · rw [h.known, h'.known, beside.known y ne]
  · rw [h'.known, beside.unknown, ite_self]
  · rw [h.records, h'.records, beside.records, List.filter_comm]
  · rw [h.records, List.find?_filter, ← beside.found]
    refine congrArg (List.find? · _) (funext fun r => ?_)
    by_cases e : r.addr = addr <;> simp [e, Ne.symm apart]

theorem serve (beside : Beside l addr record p p') (passive : ∀ call, Passive behave call)
    (decides : Decides judge behave) (covered : ∀ x, Covered x 0 p) (covered' : ∀ x, Covered x 0 p')
    {r : Request} (apart : r.apart addr) {a a' : r.Reply}
    (h : Loader.serve (noticing behave) t r p = .ok a q)
    (h' : Loader.serve (noticing behave) t r p' = .ok a' q') : Beside l addr record q q' := by
  cases r with
  | map images =>
    have apart : ∀ i ∈ images, i.addr ≠ addr := by simpa [Request.apart] using apart
    exact beside.mapImages passive decides apart (fun _ _ => covered _) (fun _ _ => covered' _) h h'
  | mapOne image =>
    obtain ⟨_, h, -⟩ := mapImage_cases h
    obtain ⟨_, h', -⟩ := mapImage_cases h'
    have apart : image.addr ≠ addr := by simpa [Request.apart] using apart
    exact beside.mapImages passive decides (fun i hi => List.mem_singleton.1 hi ▸ apart)
      (fun _ _ => covered _) (fun _ _ => covered' _) h h'
  | unmap x =>
    obtain ⟨notices, h⟩ := unmapImage_unmapped (fun _ _ => passive _) (covered x) h
    obtain ⟨notices', h'⟩ := unmapImage_unmapped (fun _ _ => passive _) (covered' x) h'
    exact beside.unmapImage (by simpa [Request.apart] using apart) h h'
  | onState s => cases apart
  | onAdd c => cases apart
  | onRemove c => cases apart

theorem serveEach (beside : Beside l addr record p p') (passive : ∀ call, Passive behave call)
    (decides : Decides judge behave) (covered : ∀ x, Covered x 0 p) (covered' : ∀ x, Covered x 0 p')
    {requests : List (ThreadId × Request)} (apart : ∀ r ∈ requests, r.2.apart addr)
    (h : Loader.serveEach (noticing behave) requests p = .ok () q)
    (h' : Loader.serveEach (noticing behave) requests p' = .ok () q') :
    Beside l addr record q q' ∧ Covered addr 0 q := by
  induction requests generalizing p p' with
  | nil =>
    cases h
    cases h'
    exact ⟨beside, covered addr⟩
  | cons request rest ih =>
    obtain ⟨t, r⟩ := request
    obtain ⟨here, others⟩ := List.forall_mem_cons.1 apart
    obtain ⟨_, p₁, first, h⟩ := bind_eq_ok.1 h
    obtain ⟨_, p₁', first', h'⟩ := bind_eq_ok.1 h'
    obtain ⟨_, first⟩ := discard_eq_ok.1 first
    obtain ⟨_, first'⟩ := discard_eq_ok.1 first'
    exact ih (beside.serve passive decides covered covered' here first first')
      (fun x => serve_covered passive (covered x) first)
      (fun x => serve_covered passive (covered' x) first') others h h'

end Beside

end

theorem erase_of_unknown {known : Table UInt64 Bool} {addr : UInt64} (unknown : known.get? addr = none) :
    known.erase addr = known := by
  rw [Table.get?, Option.map_eq_none_iff, List.find?_eq_none] at unknown
  rw [Table.erase, List.filter_eq_self.2 (by simpa using unknown)]

theorem unmapImage_of_unknown {client : Client σ} {t : ThreadId} {addr : UInt64} {p : Process σ}
    (unknown : p.loader.known.get? addr = none) : unmapImage client t addr p = .ok none p := by
  refine bind_eq_ok.2 ⟨p, p, rfl, bind_eq_ok.2 ⟨(), p, ?_, ?_⟩⟩
  · rw [forget, modify_eq_ok, erase_of_unknown unknown]
  · rw [unknown]
    rfl

theorem returns_serveEach {behave : Client (List Notice × τ)} (returns : ∀ call, Returns (behave call))
    (requests : List (ThreadId × Request)) : Returns (serveEach (noticing behave) requests) := by
  induction requests with
  | nil => exact closed_returns.pure _
  | cons request rest ih =>
    obtain ⟨t, r⟩ := request
    have served := (pieces_returns t).serve (fun call => returns_noticing (returns call)) r
    exact closed_returns.bind (closed_returns.discard served) fun _ => ih

/-- To map an image, serve requests about other addresses and unmap the image leaves what the requests alone
leave. The record of the image is given back if it was registered, and each remove callback is called once
for it while it is; then there is nothing more to unmap. -/
theorem unmapImage_undoes {behave : Client (List Notice × τ)} {judge : Call → Option String}
    {p : Process (List Notice × τ)} {image : Image} {requests : List (ThreadId × Request)}
    (t t' : ThreadId) (passive : ∀ call, Passive behave call) (decides : Decides judge behave)
    (reached : ∀ addr, Reached addr p) (unknown : p.loader.known.get? image.addr = none)
    (apart : ∀ r ∈ requests, r.2.apart image.addr) :
    (∀ outcome p₁ p₂ record q r, mapImage (noticing behave) t image p = .ok outcome p₁ →
      serveEach (noticing behave) requests p₁ = .ok () p₂ →
      unmapImage (noticing behave) t' image.addr p₂ = .ok record q →
      serveEach (noticing behave) requests p = .ok () r →
        q.registry.value.toList = r.registry.value.toList ∧
        (∀ addr, q.loader.known.get? addr = r.loader.known.get? addr) ∧
        (outcome = .ok .mapped ↔ welcome judge p.loader image) ∧
        record = (if welcome judge p.loader image then some (.new image) else none) ∧
        (∃ notices, q.client.1 = p₂.client.1 ++ notices ∧
          notices.map (·.call) = (if welcome judge p.loader image then
            p.loader.removeCallbacks.map (.remove · image) else []) ∧
          ∀ n ∈ notices, n.Present) ∧
        ∀ client t, unmapImage client t image.addr q = .ok none q) ∧
    (Registry.available p → (∀ call, Returns (behave call)) →
      (∃ r, serveEach (noticing behave) requests p = .ok () r) ∧
        ∃ outcome p₁, mapImage (noticing behave) t image p = .ok outcome p₁ ∧
          ∃ p₂, serveEach (noticing behave) requests p₁ = .ok () p₂ ∧
            ∃ record q, unmapImage (noticing behave) t' image.addr p₂ = .ok record q) := by
  refine ⟨fun outcome p₁ p₂ record q r mapped between unmapped alone => ?_, fun available returns => ?_⟩
  · have covered addr := (reached addr).covered
    have covered₁ addr := serve_covered passive (r := .mapOne image) (covered addr) mapped
    have beside := beside_of_mapImage passive decides (covered _) unknown mapped
    obtain ⟨beside, covered₂⟩ := beside.serveEach passive decides covered₁ covered apart between alone
    obtain ⟨notices, gone⟩ := unmapImage_unmapped (fun _ _ => passive _) covered₂ unmapped
    have answer := gone.answer.trans beside.found
    have known (addr : UInt64) : q.loader.known.get? addr = r.loader.known.get? addr := by
      rw [gone.known]
      split
      · next here => rw [← here, beside.unknown]
      · next other => exact beside.known addr (Ne.symm other)
    refine ⟨gone.records.trans beside.records.symm, known,
      mapImage_mapped passive decides (covered _) unknown mapped, answer,
      ⟨notices, gone.notes, ?_, gone.present⟩, fun client t => unmapImage_of_unknown ?_⟩
    · rw [gone.calls, answer, beside.subscribers.removeCallbacks]
      split
      · exact List.append_nil _
      · rfl
    · rw [known, beside.unknown]
  · obtain ⟨⟨⟩, r, alone, -⟩ := returns_serveEach returns requests p available
    have pieces (t : ThreadId) := pieces_returns (σ := List Notice × τ) t
    have noticed (call : Call) := returns_noticing (returns call)
    obtain ⟨outcome, p₁, mapped, available⟩ := (pieces t).parts.mapImage noticed image p available
    obtain ⟨⟨⟩, p₂, between, available⟩ := returns_serveEach returns requests p₁ available
    obtain ⟨record, q, unmapped, -⟩ := (pieces t').unmapImage (fun _ _ => noticed _) image.addr p₂ available
    exact ⟨⟨r, alone⟩, outcome, p₁, mapped, p₂, between, record, q, unmapped⟩

/-- Of the images mapped in between that at 2 is refused, and that at 5 was there before. -/
def meanwhile : List (ThreadId × Request) :=
  [(.named "b", .map [imageAt 2, imageAt 3]), (.named "a", .unmap 5)]

theorem unmapImage_undoes_meanwhile :
    ∃ p, (∀ addr, Reached addr p) ∧ Registry.available p ∧ p.loader.known.get? 1 = none ∧
      (∀ r ∈ meanwhile, r.2.apart 1) ∧ addrs p = [5] ∧
      ∃ p₁ p₂ q r, mapImage (noticing (judging strict (.named "a"))) (.named "a") (imageAt 1) p =
          .ok (.ok .mapped) p₁ ∧
        serveEach (noticing (judging strict (.named "a"))) meanwhile p₁ = .ok () p₂ ∧ addrs p₂ = [1, 3] ∧
        unmapImage (noticing (judging strict (.named "a"))) (.named "b") 1 p₂ =
          .ok (some (.new (imageAt 1))) q ∧
        serveEach (noticing (judging strict (.named "a"))) meanwhile p = .ok () r ∧
        q.registry.value.toList = r.registry.value.toList ∧ addrs r = [3] ∧
        (∀ addr, q.loader.known.get? addr = r.loader.known.get? addr) ∧
        (∃ notices, q.client.1 = p₂.client.1 ++ notices ∧
          notices.map (·.call) = [.remove 0 (imageAt 1)] ∧ ∀ n ∈ notices, n.Present) ∧
        unmapImage (noticing (judging strict (.named "a"))) (.named "a") 1 q = .ok none q := by
  have only (call : Call) : (content call).Only fun _ => true := trivial
  have reached (addr : UInt64) : Reached addr (Process.unmanaged {} (([], ()) : List Notice × Unit)) :=
    .empty rfl rfl
  have reached addr := (reached addr).next content only (.named "a") 1 (.mapOne (imageAt 5))
    (by decide +kernel)
  have reached addr := (reached addr).next content only (.named "a") 1 (.onState ⟨.bound, false, 0⟩)
    (by decide +kernel)
  have reached addr := (reached addr).next content only (.named "a") 1 (.onRemove 0) (by decide +kernel)
  have apart : ∀ r ∈ meanwhile, r.2.apart 1 := by decide +kernel
  refine ⟨_, reached, by decide +kernel, by decide +kernel, apart, by decide +kernel, ?_⟩
  generalize hp : endState _ _ = p at reached
  have unknown : p.loader.known.get? (imageAt 1).addr = none := by
    subst hp
    decide +kernel
  obtain ⟨told, answered⟩ := unmapImage_undoes (.named "a") (.named "b") (passive_judging strict (.named "a"))
    (decides_judging strict (.named "a")) reached unknown apart
  obtain ⟨⟨r, alone⟩, outcome, p₁, mapped, p₂, between, record, q, unmapped⟩ :=
    answered (by subst hp; decide +kernel) (returns_judging strict (.named "a"))
  obtain ⟨records, known, isMapped, isRecord, notices, again⟩ :=
    told outcome p₁ p₂ record q r mapped between unmapped alone
  have welcomed : welcome strict p.loader (imageAt 1) := by
    subst hp
    decide +kernel
  have callbacks : p.loader.removeCallbacks = [0] := by
    subst hp
    decide +kernel
  rw [if_pos welcomed] at isRecord
  rw [if_pos welcomed, callbacks] at notices
  subst isRecord
  rw [isMapped.2 welcomed] at mapped
  refine ⟨p₁, p₂, q, r, mapped, between, ?_, unmapped, alone, records, ?_, known, notices, again _ _⟩
  · rw [← endState_of_ok between, ← endState_of_ok mapped]
    subst hp
    decide +kernel
  · rw [← endState_of_ok alone]
    subst hp
    decide +kernel

end ImageLoader.Loader
