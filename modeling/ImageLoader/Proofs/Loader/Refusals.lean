import ImageLoader.Proofs.Loader.Mapping
/-! What a mapping comes to when handlers refuse images. The loader takes records out by address, handler by
handler, and asks the registry what is left. Told from the calls alone: the images that no bound handler
refused are appended to the registry in batch order, the refused ones stay known, and the answer is the
first refusal, or else an outcome for every image. -/

namespace ImageLoader

/-- The images that a bound handler refuses if it answers a call in this way. -/
def Call.refused : Call → (answer : Option String) → List Rejection
  | .state _ .bound records, some reason => records.map (Rejection.of · reason)
  | _, _ => []

@[simp] theorem Call.refused_none (c : Call) : c.refused none = [] := by
  rcases c with ⟨_, _ | _, _⟩ | _ | _ <;> rfl

def Call.added? : Call → Option (HandlerId × Image)
  | .add c image => some (c, image)
  | _ => none

namespace Loader

open Act

variable {σ τ : Type} {t : ThreadId}

/-- What is known of an address after images of a list were enrolled: what was known before, or else
whether the first image there has metadata. -/
def knownAfter (known : Table UInt64 Bool) (earlier : List Image) (addr : UInt64) : Option Bool :=
  (known.get? addr).or ((earlier.find? (·.addr = addr)).map (·.hasMetadata))

def outcome (known : Option Bool) (i : Image) : MapOutcome :=
  match known with
  | some true => .alreadyMapped
  | some false => .noMetadata
  | none => if i.hasMetadata then .mapped else .noMetadata

/-- The outcomes for the images of a list in order, each after the images before it. -/
def outcomes (known : Table UInt64 Bool) : (earlier : List Image) → List Image → List MapOutcome
  | _, [] => []
  | earlier, i :: rest =>
    outcome (knownAfter known earlier i.addr) i :: outcomes known (earlier ++ [i]) rest

/-- The refusals in the order of the calls, and for each call in the order of its images. -/
def refusals (notices : List Notice) : List Rejection := notices.flatMap fun n => n.call.refused n.answer

@[simp] theorem refusals_nil : refusals [] = [] := rfl

@[simp] theorem refusals_append (notices notices' : List Notice) :
    refusals (notices ++ notices') = refusals notices ++ refusals notices' :=
  List.flatMap_append

def adds (notices : List Notice) : List (HandlerId × Image) :=
  (notices.map (·.call)).filterMap Call.added?

theorem adds_append (notices notices' : List Notice) :
    adds (notices ++ notices') = adds notices ++ adds notices' := by
  simp only [adds, List.map_append, List.filterMap_append]

/-- The bound handlers decide by what they are given. -/
def Decides (judge : Call → Option String) (behave : Client (List Notice × τ)) : Prop :=
  ∀ h records p a q, behave (.state h .bound records) p = .ok a q → a = judge (.state h .bound records)

def judging (judge : Call → Option String) (t : ThreadId) : Client (List Notice × Unit) :=
  reentrant (fun call => .answer (judge call)) t 1

section

variable (judge : Call → Option String) (t : ThreadId)

theorem passive_judging (call : Call) : Passive (judging judge t) call :=
  passive_reentrant (fun call => .answer (judge call)) call trivial trivial t 1

theorem decides_judging : Decides judge (judging judge t) := by
  intro h records p a q answered
  cases answered
  rfl

theorem returns_judging (call : Call) : Returns (judging judge t call) := closed_returns.pure _

end

/-- The refusals of handlers that decide by what they are given, each asked about what is left. -/
def verdicts (judge : Call → Option String) : List StateRegistration → List Image → List Rejection
  | [], _ => []
  | s :: rest, left =>
    let refused := (asks s left).flatMap fun c => c.refused (judge c)
    refused ++ verdicts judge rest (left.filter (·.addr ∉ refused.map (·.addr)))

theorem verdicts_nil (judge : Call → Option String) (handlers : List StateRegistration) :
    verdicts judge handlers [] = [] := by
  have none (s : StateRegistration) : (asks s []).flatMap (fun c => c.refused (judge c)) = [] := by
    obtain ⟨_ | _, _ | _, h⟩ := s
    all_goals simp only [asks, List.map_nil, List.flatMap_nil, List.flatMap_singleton, Bool.false_eq_true,
      if_true, if_false]
    all_goals cases judge _ <;> rfl
  induction handlers with
  | nil => rfl
  | cons s rest ih => simpa [verdicts, none] using ih

theorem knownAfter_append (known : Table UInt64 Bool) (earlier images : List Image) (addr : UInt64) :
    knownAfter known (earlier ++ images) addr =
      (knownAfter known earlier addr).or ((images.find? (·.addr = addr)).map (·.hasMetadata)) := by
  rw [knownAfter, knownAfter, List.find?_append, Option.map_or, Option.or_assoc]

theorem enrol_outcome {image : Image} {p q : Process σ} {a : MapOutcome × List ImageRecord}
    (h : enrol t image p = .ok a q) : a.1 = outcome (p.loader.known.get? image.addr) image := by
  rcases enrol_spec h with ⟨old, -, -, -⟩ | ⟨metadata, enters, mapped, -⟩ | ⟨plain, enters, ignored, -⟩
  · obtain ⟨_, _, e, h⟩ := bind_eq_ok.1 h
    cases e
    rcases known : p.loader.known.get? image.addr with _ | _ | _
    · exact absurd known old
    all_goals
      simp only [known] at h
      cases h
      rfl
  · rw [mapped, enters.new, outcome, if_pos metadata]
  · rw [ignored, enters.new, outcome, if_neg (by simp [plain])]

/-- Whatever an image comes to, its address is known afterwards. -/
theorem enrol_known {image : Image} {p q : Process σ} {a : MapOutcome × List ImageRecord}
    (h : enrol t image p = .ok a q) (addr : UInt64) : q.loader.known.get? addr =
      (p.loader.known.get? addr).or (if image.addr = addr then some image.hasMetadata else none) := by
  rcases enrol_spec h with ⟨old, same, -, -⟩ | ⟨metadata, enters, -, -⟩ | ⟨plain, enters, -, -⟩
  · rw [same.loader]
    by_cases e : image.addr = addr
    · obtain ⟨b, known⟩ := Option.ne_none_iff_exists'.1 old
      simp [← e, known]
    · simp [e]
  · rw [enters.known]
    by_cases e : image.addr = addr
    · simp [← e, enters.new, metadata]
    · simp [e]
  · rw [enters.known]
    by_cases e : image.addr = addr
    · simp [← e, enters.new, plain]
    · simp [e]

theorem enrolAll_outcomes {known : Table UInt64 Bool} {earlier images : List Image} {p q : Process σ}
    {a : List MapOutcome × List ImageRecord} (chained : p.registry.value.Chained)
    (agree : ∀ addr, p.loader.known.get? addr = knownAfter known earlier addr)
    (h : enrolAll t images p = .ok a q) :
    a.1 = outcomes known earlier images ∧
      (∀ addr, q.loader.known.get? addr = knownAfter known (earlier ++ images) addr) ∧
      q.registry.value.toList = p.registry.value.toList ++ a.2 := by
  induction images generalizing p earlier a with
  | nil =>
    cases h
    exact ⟨rfl, by simpa using agree, (List.append_nil _).symm⟩
  | cons i rest ih =>
    obtain ⟨⟨first, new⟩, p₁, enrolled, h⟩ := bind_eq_ok.1 h
    obtain ⟨⟨others, batch⟩, q', rested, h⟩ := bind_eq_ok.1 h
    cases h
    have appended : p₁.registry.value.Chained ∧
        p₁.registry.value.toList = p.registry.value.toList ++ new := by
      rcases enrol_cases enrolled with ⟨same, -, rfl⟩ | ⟨enters, -, rfl⟩ | ⟨enters, -, rfl⟩
      · rw [same.images]
        exact ⟨chained, (List.append_nil _).symm⟩
      · refine ⟨enters.chained chained, ?_⟩
        rw [enters.images]
        exact ImageList.toList_append chained _
      · refine ⟨enters.chained chained, ?_⟩
        rw [enters.images]
        exact (List.append_nil _).symm
    have agree₁ : ∀ addr, p₁.loader.known.get? addr = knownAfter known (earlier ++ [i]) addr := fun addr => by
      rw [enrol_known enrolled, agree, knownAfter_append]
      by_cases e : i.addr = addr <;> simp [e]
    obtain ⟨outcomes_eq, known_eq, records⟩ := ih appended.1 agree₁ rested
    refine ⟨?_, fun addr => ?_, ?_⟩
    · rw [outcomes, ← agree, ← enrol_outcome enrolled, ← outcomes_eq]
    · rw [known_eq, List.append_assoc]
      rfl
    · rw [records, appended.2, List.append_assoc]

section

variable {behave : Client (List Notice × τ)} {p q : Process (List Notice × τ)}

theorem ask_heard (passive : ∀ call, Passive behave call) {s : StateRegistration} (bound : s.state = .bound)
    {records : List ImageRecord} {a : List Rejection}
    (h : ask (noticing behave) s records p = .ok a q) :
    ∃ notices, Heard notices p q ∧ a = refusals notices ∧ adds notices = [] := by
  unfold Loader.ask at h
  split at h
  · obtain ⟨answer, p₁, called, h⟩ := bind_eq_ok.1 h
    have heard := (passive _).heard called
    cases answer with
    | none =>
      cases h
      exact ⟨_, heard, by simp [refusals], rfl⟩
    | some reason =>
      cases h
      exact ⟨_, heard, by simp [refusals, Call.refused, bound], rfl⟩
  · induction records generalizing p a with
    | nil =>
      cases h
      exact ⟨[], .untouched (.refl _), rfl, rfl⟩
    | cons r rest ih =>
      obtain ⟨answer, p₁, called, h⟩ := bind_eq_ok.1 h
      obtain ⟨others, q', rested, h⟩ := bind_eq_ok.1 h
      cases h
      obtain ⟨notices, heard, rfl, none⟩ := ih rested
      refine ⟨_, ((passive _).heard called).trans heard, ?_, none⟩
      cases answer <;> simp [refusals, Call.refused, bound]

theorem Decides.judged {judge : Call → Option String} (decides : Decides judge behave) {h : HandlerId}
    {records : List ImageRecord} {a : Option String}
    (called : noticing behave (.state h .bound records) p = .ok a q) :
    a = judge (.state h .bound records) := by
  obtain ⟨_, _, e, called⟩ := bind_eq_ok.1 called
  cases e
  obtain ⟨answer, p₁, answered, called⟩ := bind_eq_ok.1 called
  obtain ⟨_, p₂, noticed, called⟩ := bind_eq_ok.1 called
  cases called
  exact decides h records p a p₁ answered

theorem Decides.ask {judge : Call → Option String} (decides : Decides judge behave)
    {s : StateRegistration} (bound : s.state = .bound) {images : List Image} {a : List Rejection}
    (h : ask (noticing behave) s (images.map ImageRecord.new) p = .ok a q) :
    a = (asks s images).flatMap fun c => c.refused (judge c) := by
  obtain ⟨state, batch, handler⟩ := s
  obtain rfl : state = .bound := bound
  unfold Loader.ask at h
  unfold asks
  split at h
  · next one =>
    rw [if_pos one]
    obtain ⟨answer, p₁, called, h⟩ := bind_eq_ok.1 h
    rw [List.flatMap_singleton, ← decides.judged called]
    cases answer <;> cases h <;> rfl
  · next each =>
    rw [if_neg each]
    induction images generalizing p a with
    | nil =>
      cases h
      rfl
    | cons i rest ih =>
      obtain ⟨answer, p₁, called, h⟩ := bind_eq_ok.1 h
      obtain ⟨others, q', rested, h⟩ := bind_eq_ok.1 h
      cases h
      rw [List.map_cons, List.flatMap_cons, ← decides.judged called, ← ih rested]
      cases answer <;> rfl

end

/-- The records at these addresses are taken out, and the addresses stay known. -/
structure Struck (struck : List UInt64) (p q : Process σ) : Prop where
  records : q.registry.value.toList = p.registry.value.toList.filter (·.addr ∉ struck)
  known : ∀ a, q.loader.known.get? a = if a ∈ struck then some false else p.loader.known.get? a

namespace Struck

variable {struck struck' : List UInt64} {p q r : Process σ}

theorem same (h : SameTables p q) : Struck [] p q where
  records := by simp [h.images]
  known a := by simp [h.loader]

theorem trans (h : Struck struck p q) (h' : Struck struck' q r) : Struck (struck ++ struck') p r where
  records := by
    rw [h'.records, h.records, List.filter_filter]
    exact List.filter_congr fun r _ => by simp [Bool.and_comm]
  known a := by
    rw [h'.known, h.known]
    by_cases e : a ∈ struck' <;> simp [e]

end Struck

namespace Stands

variable {batch left : List Image} {p q : Process σ}

theorem countAt_le_one (stands : Stands batch left p) {addr : UInt64}
    (mine : addr ∈ batch.map (·.addr)) : p.registry.value.countAt addr ≤ 1 := by
  obtain ⟨i, hi, rfl⟩ := List.mem_map.1 mine
  rw [← ImageList.length_imagesAt, stands.here i hi]
  split <;> simp

theorem takesOut (stands : Stands batch left p) {addr : UInt64} (mine : addr ∈ batch.map (·.addr))
    (out : TakenOut addr p q) : Struck [addr] p q where
  records := by
    rw [out.images, ImageList.toList_remove_of_countAt_le_one stands.chained (stands.countAt_le_one mine)]
    simp
  known a := by
    rw [out.known]
    simp [eq_comm]

theorem struck {rejections : List Rejection} {a : Unit} (stands : Stands batch left p)
    (mine : ∀ r ∈ rejections, r.addr ∈ batch.map (·.addr)) (h : Loader.reject t rejections p = .ok a q) :
    Struck (rejections.map (·.addr)) p q := by
  induction rejections generalizing p left with
  | nil =>
    cases h
    exact .same ⟨rfl, rfl⟩
  | cons r rest ih =>
    rw [reject_cons] at h
    obtain ⟨_, p₁, said, h⟩ := bind_eq_ok.1 h
    obtain ⟨_, p₂, taken, h⟩ := bind_eq_ok.1 h
    have said := say_untouched _ _ _ said
    have stands₁ := stands.steady (said.steady _)
    have out := takenOut_of_takeOut taken
    obtain ⟨here, others⟩ := List.forall_mem_cons.1 mine
    have first := (Struck.same said.toSameTables).trans (stands₁.takesOut here out)
    exact first.trans (ih (stands₁.takenOut out) others h)

end Stands

/-- The bound handlers have been asked about what was left of a batch, and what they refused is out. -/
structure Screened (batch left : List Image) (notices : List Notice)
    (p q : Process (List Notice × τ)) : Prop where
  notes : q.client.1 = p.client.1 ++ notices
  mine : ∀ r ∈ refusals notices, r.addr ∈ left.map (·.addr)
  stands : Stands batch (left.filter (·.addr ∉ (refusals notices).map (·.addr))) q
  struck : Struck ((refusals notices).map (·.addr)) p q

namespace Screened

variable {batch left : List Image} {notices notices' : List Notice} {p q r : Process (List Notice × τ)}

theorem untouched (stands : Stands batch left p) (same : Untouched p q) : Screened batch left [] p q where
  notes := by rw [same.client, List.append_nil]
  mine := nofun
  stands := by simpa using stands.steady (same.steady _)
  struck := .same same.toSameTables

theorem trans (h : Screened batch left notices p q)
    (h' : Screened batch (left.filter (·.addr ∉ (refusals notices).map (·.addr))) notices' q r) :
    Screened batch left (notices ++ notices') p r where
  notes := by rw [h'.notes, h.notes, List.append_assoc]
  mine := by
    rw [refusals_append]
    refine List.forall_mem_append.2 ⟨h.mine, fun r hr => ?_⟩
    exact List.map_subset _ List.filter_sublist.subset (h'.mine r hr)
  stands := by
    have stands := h'.stands
    rw [List.filter_filter] at stands
    rw [refusals_append]
    convert stands using 2
    funext i
    simp [Bool.and_comm]
  struck := by
    rw [refusals_append, List.map_append]
    exact h.struck.trans h'.struck

end Screened

section

variable {behave : Client (List Notice × τ)} {batch left : List Image} {p q : Process (List Notice × τ)}

/-- The first refusal is kept; handlers that decide by what they are given give their verdicts. -/
theorem Stands.runBound_screened (passive : ∀ call, Passive behave call) (stands : Stands batch left p)
    {handlers : List StateRegistration} (bound : ∀ s ∈ handlers, s.state = .bound)
    {refused a : Option Rejection}
    (h : Loader.runBound (noticing behave) t (batch.map ImageRecord.new) handlers refused p = .ok a q) :
    ∃ notices, Screened batch left notices p q ∧ a = (refused <|> (refusals notices).head?) ∧
      adds notices = [] ∧ ∀ judge, Decides judge behave → refusals notices = verdicts judge handlers left := by
  -- on the handlers: each finds what the ones before it left, and adds its own refusals
  induction handlers generalizing p left refused with
  | nil =>
    cases h
    exact ⟨[], .untouched stands (.refl _), by simp, rfl, fun _ _ => rfl⟩
  | cons s rest ih =>
    obtain ⟨isBound, others⟩ := List.forall_mem_cons.1 bound
    obtain ⟨images, p₁, looked, h⟩ := bind_eq_ok.1 h
    obtain ⟨rfl, same⟩ := stands.live looked
    have stands₁ := stands.steady (same.steady _)
    split at h
    · next none =>
      cases h
      obtain rfl : left = [] := by simpa using none
      exact ⟨[], .untouched stands same, by simp, rfl, fun judge _ => (verdicts_nil judge _).symm⟩
    · obtain ⟨rejections, p₂, asked, h⟩ := bind_eq_ok.1 h
      obtain ⟨_, p₃, rejected, h⟩ := bind_eq_ok.1 h
      obtain ⟨first, heard, rfl, quiet₁⟩ := ask_heard passive isBound asked
      have mine : ∀ r ∈ refusals first, r.addr ∈ left.map (·.addr) := fun r hr => by
        simpa [Function.comp_def] using (ask_sublist asked).subset (List.mem_map_of_mem hr)
      have stands₂ : Stands batch left p₂ := stands₁.steady (heard.toSameTables.steady _)
      obtain ⟨stands₃, quiet⟩ := stands₂.reject rejected
      have struck := stands₂.struck
        (fun r hr => (List.map_subset _ (fun _ hi => stands.mem_batch hi)) (mine r hr)) rejected
      have screened : Screened batch left first p p₃ := by
        refine ⟨?_, mine, stands₃, ?_⟩
        · rw [quiet.notes, heard.notes, same.client, List.append_nil]
        · exact ((Struck.same same.toSameTables).trans (Struck.same heard.toSameTables)).trans struck
      obtain ⟨later, screened', rfl, quiet₂, decided⟩ := ih stands₃ others h
      refine ⟨_, screened.trans screened', ?_, ?_, fun judge decides => ?_⟩
      · rw [refusals_append, List.head?_append]
        cases refused <;> cases (refusals first).head? <;> rfl
      · rw [adds_append, quiet₁, quiet₂, List.append_nil]
      · rw [refusals_append, verdicts, ← decides.ask isBound asked, decided judge decides]

theorem state_of_mem_handlersOf {l : Loader} {state : ImageState} {s : StateRegistration}
    (h : s ∈ l.handlersOf state) : s.state = state := by
  simpa using (List.mem_filter.1 h).2

theorem eq_state_of_mem_asks {s : StateRegistration} {images : List Image} {c : Call} (h : c ∈ asks s images) :
    ∃ records, c = .state s.handler s.state records := by
  unfold asks at h
  split at h
  · exact ⟨_, List.mem_singleton.1 h⟩
  · obtain ⟨i, -, rfl⟩ := List.mem_map.1 h
    exact ⟨_, rfl⟩

theorem adds_of_introductions {l : Loader} {images : List Image} {notices : List Notice}
    (calls : notices.map (·.call) = introductions l images) :
    adds notices = images.flatMap fun i => l.addCallbacks.map (·, i) := by
  have told (i : Image) : (l.addCallbacks.map (Call.add · i)).filterMap Call.added? =
      l.addCallbacks.map (·, i) := by
    rw [List.filterMap_map]
    exact congrFun (List.filterMap_eq_map (f := (·, i))) _
  have states : ∀ c ∈ if images = [] then [] else
      (l.handlersOf .dependentsInitialized).flatMap (asks · images), c.added? = none := by
    intro c h
    split at h
    · cases h
    · obtain ⟨s, -, h⟩ := List.mem_flatMap.1 h
      obtain ⟨records, rfl⟩ := eq_state_of_mem_asks h
      rfl
  rw [adds, calls, introductions, List.filterMap_append, List.filterMap_eq_nil_iff.2 states,
    List.append_nil, List.filterMap_flatMap]
  simp only [told]

theorem refused_of_mem_introductions {l : Loader} {images : List Image} {c : Call}
    (h : c ∈ introductions l images) (answer : Option String) : c.refused answer = [] := by
  rcases List.mem_append.1 h with h | h
  · obtain ⟨i, -, h⟩ := List.mem_flatMap.1 h
    obtain ⟨callback, -, rfl⟩ := List.mem_map.1 h
    rfl
  · split at h
    · cases h
    · obtain ⟨s, mem, h⟩ := List.mem_flatMap.1 h
      obtain ⟨records, rfl⟩ := eq_state_of_mem_asks h
      rw [state_of_mem_handlersOf mem]
      rfl

theorem refusals_of_introductions {l : Loader} {images : List Image} {notices : List Notice}
    (calls : notices.map (·.call) = introductions l images) : refusals notices = [] :=
  List.flatMap_eq_nil_iff.2 fun n hn =>
    refused_of_mem_introductions (calls ▸ List.mem_map_of_mem hn) n.answer

theorem Stands.introduce_same (passive : ∀ call, Passive behave call) (stands : Stands batch left p) {a : Unit}
    (h : Loader.introduce (noticing behave) t (batch.map ImageRecord.new) p = .ok a q) :
    ∃ notices, Heard notices p q ∧ refusals notices = [] ∧
      adds notices = left.flatMap fun i => p.loader.addCallbacks.map (·, i) := by
  obtain ⟨notices, told, calls⟩ := stands.introduce (inert_of_passive passive _) h
  obtain ⟨images, known⟩ := introduce_unmoved passive h
  obtain ⟨known', loader⟩ := told.loader
  refine ⟨notices, ⟨⟨images, ?_⟩, told.notes⟩, refusals_of_introductions calls, adds_of_introductions calls⟩
  obtain rfl : known' = p.loader.known := by
    rw [← known, loader]
  rw [loader]

/-- A batch is announced to all handlers; what the bound ones refuse is out in the end. -/
theorem Stands.announce_screened (passive : ∀ call, Passive behave call) (stands : Stands batch batch p)
    {a : Option Rejection} (h : Loader.announce (noticing behave) t (batch.map ImageRecord.new) p = .ok a q) :
    ∃ notices, Screened batch batch notices p q ∧ a = (refusals notices).head? ∧
      adds notices = ((batch.filter (·.addr ∉ (refusals notices).map (·.addr))).flatMap fun i =>
        p.loader.addCallbacks.map (·, i)) ∧
      ∀ judge, Decides judge behave →
        refusals notices = verdicts judge (p.loader.handlersOf .bound) batch := by
  rw [announce_eq] at h
  obtain ⟨_, _, e, h⟩ := bind_eq_ok.1 h
  cases e
  obtain ⟨refused, p₁, bound, h⟩ := bind_eq_ok.1 h
  obtain ⟨_, p₂, introduced, h⟩ := bind_eq_ok.1 h
  cases h
  obtain ⟨asked, screened, rfl, quiet, decided⟩ := stands.runBound_screened passive
    (fun _ => state_of_mem_handlersOf) bound
  obtain ⟨_, _, told, -, -⟩ := stands.runBound (inert_of_passive passive _) bound
  obtain ⟨later, heard, none, added⟩ := screened.stands.introduce_same passive introduced
  have all : refusals (asked ++ later) = refusals asked := by
    rw [refusals_append, none, List.append_nil]
  refine ⟨asked ++ later, ⟨?_, ?_, ?_, ?_⟩, ?_, ?_, ?_⟩
  · rw [heard.notes, screened.notes, List.append_assoc]
  · rw [all]
    exact screened.mine
  · rw [all]
    exact screened.stands.steady (heard.toSameTables.steady _)
  · have struck := screened.struck.trans (.same heard.toSameTables)
    rwa [all, ← List.append_nil (List.map _ _)]
  · rw [all]
    rfl
  · rw [all, adds_append, quiet, added, told.addCallbacks]
    rfl
  · rw [all]
    exact decided

def Subscribed (l : Loader) (p : Process σ) : Prop := ∃ known, p.loader = { l with known }

namespace Subscribed

variable {l : Loader} {p q : Process σ}

theorem refl (p : Process σ) : Subscribed p.loader p := ⟨_, rfl⟩

theorem trans (h : Subscribed l p) (same : Subscribed p.loader q) : Subscribed l q := by
  obtain ⟨_, h⟩ := h
  obtain ⟨known, same⟩ := same
  exact ⟨known, by rw [same, h]⟩

theorem handlersOf (h : Subscribed l p) (state : ImageState) :
    p.loader.handlersOf state = l.handlersOf state := by
  obtain ⟨_, h⟩ := h
  rw [h]
  rfl

theorem addCallbacks (h : Subscribed l p) : p.loader.addCallbacks = l.addCallbacks := by
  obtain ⟨_, h⟩ := h
  rw [h]

theorem removeCallbacks (h : Subscribed l p) : p.loader.removeCallbacks = l.removeCallbacks := by
  obtain ⟨_, h⟩ := h
  rw [h]

end Subscribed

/-- What a mapping comes to: its calls are the documented ones, the images refused in them are new, the others
that are new are registered, and the answer is the first refusal or an outcome for each image. -/
structure Concluded (images : List Image) (notices : List Notice) (p : Process (List Notice × τ))
    (a : Except LoaderError (List MapOutcome)) (q : Process (List Notice × τ)) : Prop where
  notes : q.client.1 = p.client.1 ++ notices
  calls : notices.map (·.call) = documented p.loader images (notices.map (·.answer))
  mine : ∀ r ∈ refusals notices, r.addr ∈ (newcomers p.loader.known [] images).map (·.addr)
  answer : a = match (refusals notices).head? with
    | some r => .error r.error
    | none => .ok (outcomes p.loader.known [] images)
  records : q.registry.value.toList = p.registry.value.toList ++
    ((newcomers p.loader.known [] images).filter
      (·.addr ∉ (refusals notices).map (·.addr))).map ImageRecord.new
  known : ∀ addr, q.loader.known.get? addr =
    if addr ∈ (refusals notices).map (·.addr) then some false
    else knownAfter p.loader.known images addr
  adds : adds notices = ((newcomers p.loader.known [] images).filter
    (·.addr ∉ (refusals notices).map (·.addr))).flatMap fun i => p.loader.addCallbacks.map (·, i)
  subscribers : Subscribed p.loader q

theorem Concluded.mem_of_refused {images : List Image} {notices : List Notice}
    {p q : Process (List Notice × τ)} {a : Except LoaderError (List MapOutcome)}
    (h : Concluded images notices p a q) {addr : UInt64} (refused : addr ∈ (refusals notices).map (·.addr)) :
    addr ∈ images.map (·.addr) := by
  obtain ⟨r, hr, rfl⟩ := List.mem_map.1 refused
  exact List.map_subset _ (newcomers_subset _ _ _) (h.mine r hr)

theorem knownAfter_nil (known : Table UInt64 Bool) (addr : UInt64) :
    knownAfter known [] addr = known.get? addr := by
  simp [knownAfter]

theorem filter_notMem_old {images : List Image} {p : Process σ}
    (covered : ∀ i ∈ images, Covered i.addr 0 p) {struck : List UInt64}
    (mine : ∀ a ∈ struck, a ∈ (newcomers p.loader.known [] images).map (·.addr)) :
    p.registry.value.toList.filter (·.addr ∉ struck) = p.registry.value.toList := by
  refine List.filter_eq_self.2 fun r hr => decide_eq_true fun mem => ?_
  obtain ⟨i, hi, e⟩ := List.mem_map.1 (mine r.addr mem)
  obtain ⟨here, unknown, -⟩ := mem_of_mem_newcomers hi
  have none := (covered i here).absent unknown
  exact List.find?_eq_none.1 none r hr (decide_eq_true e.symm)

theorem mapImages_concluded (passive : ∀ call, Passive behave call) {images : List Image}
    (covered : ∀ i ∈ images, Covered i.addr 0 p) {a : Except LoaderError (List MapOutcome)}
    (h : mapImages (noticing behave) t images p = .ok a q) :
    ∃ notices, Concluded images notices p a q ∧ ∀ judge, Decides judge behave →
      refusals notices = verdicts judge (p.loader.handlersOf .bound) (newcomers p.loader.known [] images) := by
  obtain ⟨notices, told, calls⟩ := mapImages_told (inert_of_passive passive _) covered h
  rcases eq_or_ne images [] with rfl | nonempty
  · cases h
    obtain rfl : notices = [] := by simpa using told.notes
    exact ⟨[], ⟨told.notes, calls, nofun, rfl, (List.append_nil _).symm,
      fun addr => (knownAfter_nil _ addr).symm, rfl, told.loader⟩, fun judge _ => (verdicts_nil judge _).symm⟩
  obtain ⟨i, here⟩ := List.exists_mem_of_ne_nil images nonempty
  have chained := (covered i here).chained
  obtain ⟨_, batch, p₁, enrolled, h⟩ := mapImages_cases h
  obtain ⟨rfl, quiet, stands⟩ := stands_of_enrolAll covered chained enrolled
  obtain ⟨rfl, known, records⟩ :=
    enrolAll_outcomes chained (fun addr => (knownAfter_nil p.loader.known addr).symm) enrolled
  have screening : ∃ notices, Screened (newcomers p.loader.known [] images)
      (newcomers p.loader.known [] images) notices p₁ q ∧
      (a = match (refusals notices).head? with
        | some r => .error r.error
        | none => .ok (outcomes p.loader.known [] images)) ∧
      adds notices = ((newcomers p.loader.known [] images).filter
        (·.addr ∉ (refusals notices).map (·.addr))).flatMap (fun i => p.loader.addCallbacks.map (·, i)) ∧
      ∀ judge, Decides judge behave → refusals notices =
        verdicts judge (p.loader.handlersOf .bound) (newcomers p.loader.known [] images) := by
    rcases h with ⟨none, rfl, rfl⟩ | ⟨refused, announced, rfl⟩
    · refine ⟨[], .untouched stands (.refl _), rfl, ?_, fun judge _ => ?_⟩
      · rw [List.map_eq_nil_iff.1 none]
        rfl
      · rw [List.map_eq_nil_iff.1 none, verdicts_nil]
        rfl
    · obtain ⟨notices, screened, rfl, added, decided⟩ := stands.announce_screened passive announced
      rw [quiet.handlersOf] at decided
      rw [quiet.addCallbacks] at added
      refine ⟨notices, screened, ?_, added, decided⟩
      cases (refusals notices).head? <;> rfl
  obtain ⟨notices', screened, answer, added, decided⟩ := screening
  have same : notices = notices' := by
    have notes := screened.notes
    rw [quiet.notes, told.notes, List.append_nil] at notes
    exact List.append_cancel_left notes
  subst same
  refine ⟨notices, ⟨told.notes, calls, screened.mine, answer, ?_, fun addr => ?_, added, told.loader⟩,
    decided⟩
  · rw [screened.struck.records, records, List.filter_append, filter_notMem_old covered
      (List.forall_mem_map.2 screened.mine), List.filter_map]
    rfl
  · rw [screened.struck.known, known]
    rfl

end

end Loader

end ImageLoader
