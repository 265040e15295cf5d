import ImageLoader.Proofs.Loader.Course
/-! Mapping, seen from a client that keeps notes. `I waiting p` says that the notes are right but for the
images at `waiting`, which the client has yet to be told of. An image that is registered starts to wait;
it waits no more once it is refused or a callback that hears of images has run for it. While it waits,
handlers map other images, whose own waiting begins and ends meanwhile. -/

namespace ImageLoader.Loader

open Act

variable {κ τ : Type}

/-- An image that a callback hears of waits no more. Where handlers do not nest calls, none but those of
the mapping itself waits then. -/
def Heeds (nests : Bool) (note : Call → Process (κ × τ) → κ) (hears : HandlerId → Bool)
    (I : List UInt64 → Process (κ × τ) → Prop) : Prop :=
  ∀ {outer rest c r p}, I (outer ++ r.addr :: rest) p → (nests = false → outer = []) → hears c →
    r ∈ p.registry.value.toList → I (outer ++ rest) (noted note (.add c r.image) p)

/-- What the parts of a mapping do to the notes. Of the callbacks one hears of images, or none does and
it does not matter who waits. -/
structure Ledger (nests : Bool) (note : Call → Process (κ × τ) → κ) (hears : HandlerId → Bool)
    (I : List UInt64 → Process (κ × τ) → Prop) : Prop where
  balanced : ∀ {w p}, I w p → Balanced none p
  same : ∀ {w p q}, I w p → SameNotes p q → I w q
  registered : ∀ {w image p q}, I w p → Enters image true p q → I (w ++ [image.addr]) q
  ignored : ∀ {w image p q}, I w p → Enters image false p q → I w q
  refused : ∀ {outer mine a p q}, I (outer ++ mine) p → a ∈ mine → TakenOut a p q →
    I (outer ++ mine.erase a) q
  asked : ∀ {w h s images p}, I w p → (∀ r ∈ images, r ∈ p.registry.value.toList) →
    I w (noted note (.state h s images) p)
  unheard : ∀ {w c r p}, I w p → hears c = false → r ∈ p.registry.value.toList →
    I w (noted note (.add c r.image) p)
  attended : ∀ {w p}, I w p → (p.loader.addCallbacks.countP hears = 1 ∧ Heeds nests note hears I) ∨
    (p.loader.addCallbacks.countP hears = 0 ∧ ∀ w w' p, I w p → I w' p)
  handlers : ∀ {w p} l, I w p → I w { p with loader := { p.loader with stateHandlers := l } }

/-- A call leads from what held before it to what its note makes of that, and takes no record away. -/
def Faithful (note : Call → Process (κ × τ) → κ) (I : List UInt64 → Process (κ × τ) → Prop)
    (client : Client (κ × τ)) : Prop :=
  ∀ ⦃call w w' p a q⦄, I w p → (∀ p', Lasting p p' → I w p' → I w' (noted note call p')) →
    client call p = .ok a q → I w' q ∧ Lasting p q

def remaining (batch : List ImageRecord) (p : Process (κ × τ)) : List ImageRecord :=
  batch.filter fun r => p.loader.known.get? r.addr = some true

/-- The batch of a mapping that began in `base`: what remains of it waits, besides those of `outer`. -/
structure Underway (I : List UInt64 → Process (κ × τ) → Prop) (outer : List UInt64)
    (base : Process (κ × τ)) (batch : List ImageRecord) (p : Process (κ × τ)) : Prop where
  start : Balanced none base
  lasting : Lasting base p
  fresh : ∀ r ∈ batch, base.loader.known.get? r.addr = none
  distinct : (batch.map (·.addr)).Nodup
  placed : ∀ r ∈ batch, p.loader.known.get? r.addr = some false ∨
    (p.loader.known.get? r.addr = some true ∧ r ∈ p.registry.value.toList)
  ledger : I (outer ++ (remaining batch p).map (·.addr)) p

namespace Underway

variable {I : List UInt64 → Process (κ × τ) → Prop} {outer : List UInt64}
  {base p q : Process (κ × τ)} {batch : List ImageRecord}

theorem mem_remaining (u : Underway I outer base batch p) {r : ImageRecord} (h : r ∈ remaining batch p) :
    r ∈ p.registry.value.toList := by
  obtain ⟨mem, known⟩ := List.mem_filter.1 h
  rcases u.placed r mem with refused | ⟨-, here⟩
  · simp [refused] at known
  · exact here

theorem distinct_remaining (u : Underway I outer base batch p) :
    ((remaining batch p).map (·.addr)).Nodup :=
  u.distinct.sublist (List.filter_sublist.map _)

theorem remaining_eq (u : Underway I outer base batch p) (h : Lasting p q) :
    remaining batch q = remaining batch p := by
  refine List.filter_congr fun r hr => ?_
  rcases u.placed r hr with e | ⟨e, -⟩ <;> rw [e, h.known _ _ e]

/-- Whatever takes no record away and leaves the batch waiting. -/
theorem step (u : Underway I outer base batch p) (h : Lasting p q)
    (ledger : I (outer ++ (remaining batch p).map (·.addr)) q) : Underway I outer base batch q where
  start := u.start
  lasting := u.lasting.trans h
  fresh := u.fresh
  distinct := u.distinct
  placed r hr := (u.placed r hr).imp (h.known _ _) fun here => ⟨h.known _ _ here.1, h.records _ here.2⟩
  ledger := by rwa [u.remaining_eq h]

end Underway

section

variable {nests : Bool} {note : Call → Process (κ × τ) → κ} {hears : HandlerId → Bool}
  {I : List UInt64 → Process (κ × τ) → Prop} {client : Client (κ × τ)} {t : ThreadId}
  {outer w : List UInt64} {base p q : Process (κ × τ)} {batch : List ImageRecord}

theorem Balanced.absent (h : Balanced none p) {r : ImageRecord}
    (unregistered : p.loader.known.get? r.addr ≠ some true) : r ∉ p.registry.value.toList := by
  have none := h.countAt r.addr
  rw [if_neg unregistered, ImageList.countAt, List.countP_eq_zero] at none
  exact fun mem => none r mem (decide_eq_true rfl)

theorem Balanced.contains (h : Balanced none p) (addr : UInt64) :
    p.registry.value.contains addr = decide (p.loader.known.get? addr = some true) := by
  have count := h.countAt addr
  rw [Bool.eq_iff_iff, ImageList.contains, List.any_eq_true, decide_eq_true_eq, ← List.countP_pos_iff]
  change 0 < p.registry.value.countAt addr ↔ _
  rw [count]
  split <;> simp_all

theorem Underway.remaining_takenOut (u : Underway I outer base batch p) {addr : UInt64}
    (h : TakenOut addr p q) :
    (remaining batch q).map (·.addr) = ((remaining batch p).map (·.addr)).erase addr := by
  rw [u.distinct_remaining.erase_eq_filter, List.filter_map, remaining, remaining, List.filter_filter]
  refine congrArg (List.map _) (List.filter_congr fun r _ => ?_)
  rw [h.known]
  by_cases e : addr = r.addr
  · simp [e]
  · simp [e, Ne.symm e]

theorem Underway.takenOut (ledger : Ledger nests note hears I) (u : Underway I outer base batch p)
    {addr : UInt64} (mine : addr ∈ (remaining batch p).map (·.addr)) (h : TakenOut addr p q) :
    Underway I outer base batch q := by
  have chained := (ledger.balanced u.ledger).chained
  obtain ⟨r₀, stands, rfl⟩ := List.mem_map.1 mine
  -- the address is one of the batch, so `base` neither knows it nor has a record of it
  have new := u.fresh r₀ (List.mem_filter.1 stands).1
  refine ⟨u.start, ⟨fun r hr => ?_, fun a b hb => ?_⟩, u.fresh, u.distinct, fun r hr => ?_, ?_⟩
  · refine h.kept chained (fun e => ?_) (u.lasting.records r hr)
    exact u.start.absent (by simp [e, new]) hr
  · rw [h.known, if_neg fun e => ?_]
    · exact u.lasting.known a b hb
    · rw [← e, new] at hb
      cases hb
  · rw [h.known]
    by_cases e : r₀.addr = r.addr
    · exact .inl (if_pos e)
    · rw [if_neg e]
      exact (u.placed r hr).imp_right (And.imp_right (h.kept chained (Ne.symm e)))
  · rw [u.remaining_takenOut h]
    exact ledger.refused u.ledger mine h

theorem Balanced.lasting {image : Image} {registered : Bool} (hp : Balanced none p)
    (h : Enters image registered p q) : Lasting p q := by
  refine ⟨fun r hr => ?_, fun a b hb => ?_⟩
  · rw [h.images]
    cases registered
    · exact hr
    · rw [if_pos rfl, ImageList.toList_append hp.chained]
      exact List.mem_append_left _ hr
  · rw [h.loader, Table.get?_insert, if_neg fun e => ?_]
    · exact hb
    · rw [← e, h.new] at hb
      cases hb

theorem Underway.after {r : Process (κ × τ)} (u : Underway I outer q batch r) (hp : Balanced none p)
    (h : Lasting p q) : Underway I outer p batch r := by
  refine ⟨hp, h.trans u.lasting, fun i hi => ?_, u.distinct, u.placed, u.ledger⟩
  rcases known : p.loader.known.get? i.addr with _ | b
  · rfl
  · exact absurd (u.fresh i hi) (by simp [h.known _ _ known])

/-- A batch enrolled after another image, together with that image. -/
theorem Underway.cons {i : ImageRecord} {r : Process (κ × τ)} (hp : Balanced none p)
    (enters : Enters i.image true p q) (u : Underway I (outer ++ [i.addr]) q batch r)
    (record : i = .new i.image) : Underway I outer p (i :: batch) r := by
  have known : q.loader.known.get? i.addr = some true := by
    rw [enters.loader]
    exact (Table.get?_insert _ _ _ _).trans (if_pos rfl)
  have here : i ∈ q.registry.value.toList := by
    rw [enters.images, if_pos rfl, ImageList.toList_append hp.chained, ← record]
    exact List.mem_append_right _ (List.mem_singleton_self i)
  have lasting := hp.lasting enters
  have others := u.after hp lasting
  refine ⟨hp, others.lasting, ?_, ?_, ?_, ?_⟩
  · exact List.forall_mem_cons.2 ⟨enters.new, others.fresh⟩
  · refine List.nodup_cons.2 ⟨fun mem => ?_, u.distinct⟩
    obtain ⟨j, hj, e⟩ := List.mem_map.1 mem
    have fresh := u.fresh j hj
    rw [e, known] at fresh
    cases fresh
  · exact List.forall_mem_cons.2
      ⟨.inr ⟨u.lasting.known _ _ known, u.lasting.records _ here⟩, u.placed⟩
  · rw [remaining, List.filter_cons_of_pos (by simp [u.lasting.known _ _ known]), List.map_cons,
      List.append_cons]
    exact u.ledger

theorem enrolAll_leads (ledger : Ledger nests note hears I) {images : List Image}
    {a : List MapOutcome × List ImageRecord} (hp : I w p) (h : enrolAll t images p = .ok a q) :
    Underway I w p a.2 q := by
  induction images generalizing w p a with
  | nil =>
    cases h
    refine ⟨ledger.balanced hp, .refl _, nofun, .nil, nofun, ?_⟩
    rwa [remaining, List.filter_nil, List.map_nil, List.append_nil]
  | cons i rest ih =>
    obtain ⟨⟨outcome, new⟩, p₁, enrolled, h⟩ := bind_eq_ok.1 h
    obtain ⟨⟨outcomes, batch⟩, q', others, h⟩ := bind_eq_ok.1 h
    cases h
    have start := ledger.balanced hp
    rcases enrol_cases enrolled with ⟨same, -, rfl⟩ | ⟨enters, -, rfl⟩ | ⟨enters, -, rfl⟩
    · exact (ih (ledger.same hp same.sameNotes) others).after start (.of_same same.toSameTables)
    · exact .cons start enters (ih (ledger.registered hp enters) others) rfl
    · exact (ih (ledger.ignored hp enters) others).after start (start.lasting enters)

theorem live_eq (ledger : Ledger nests note hears I) {images : List ImageRecord} (hp : I w p)
    (h : live t batch p = .ok images q) : images = remaining batch p ∧ Untouched p q := by
  obtain ⟨rfl, same⟩ := live_eq_filter h
  refine ⟨?_, same⟩
  rw [remaining]
  exact List.filter_congr fun r _ => (ledger.balanced hp).contains r.addr

theorem askEach_leads (ledger : Ledger nests note hears I) (faithful : Faithful note I client)
    {s : StateRegistration} {images : List ImageRecord} {a : List Rejection} (hp : I w p)
    (here : ∀ r ∈ images, r ∈ p.registry.value.toList) (h : askEach client s images p = .ok a q) :
    I w q ∧ Lasting p q := by
  induction images generalizing p a with
  | nil =>
    cases h
    exact ⟨hp, .refl _⟩
  | cons r rest ih =>
    obtain ⟨answer, p₁, called, h⟩ := bind_eq_ok.1 h
    obtain ⟨others, q', rested, h⟩ := bind_eq_ok.1 h
    cases h
    have ⟨here, hrest⟩ := List.forall_mem_cons.1 here
    obtain ⟨h₁, first⟩ := faithful hp (fun p' lasting hp' => ledger.asked hp' fun i hi => by
      rw [List.mem_singleton.1 hi]
      exact lasting.records _ here) called
    obtain ⟨hq, second⟩ := ih h₁ (fun i hi => first.records i (hrest i hi)) rested
    exact ⟨hq, first.trans second⟩

theorem ask_leads (ledger : Ledger nests note hears I) (faithful : Faithful note I client)
    {s : StateRegistration} {images : List ImageRecord} {a : List Rejection} (hp : I w p)
    (here : ∀ r ∈ images, r ∈ p.registry.value.toList) (h : ask client s images p = .ok a q) :
    I w q ∧ Lasting p q := by
  unfold ask at h
  split at h
  · obtain ⟨answer, p₁, called, h⟩ := bind_eq_ok.1 h
    have led := faithful hp
      (fun p' lasting hp' => ledger.asked hp' fun i hi => lasting.records i (here i hi)) called
    cases answer <;> cases h <;> exact led
  · exact askEach_leads ledger faithful hp here h

theorem Underway.reject (ledger : Ledger nests note hears I) {rejections : List Rejection} {a : Unit}
    (u : Underway I outer base batch p) (distinct : (rejections.map (·.addr)).Nodup)
    (mine : ∀ r ∈ rejections, r.addr ∈ (remaining batch p).map (·.addr))
    (h : reject t rejections p = .ok a q) : Underway I outer base batch q := by
  induction rejections generalizing p with
  | nil =>
    cases h
    exact u
  | cons r rest ih =>
    rw [reject_cons] at h
    obtain ⟨_, p₁, said, h⟩ := bind_eq_ok.1 h
    obtain ⟨_, p₂, taken, h⟩ := bind_eq_ok.1 h
    have said := say_untouched _ _ _ said
    have quiet := Lasting.of_same said.toSameTables
    have u₁ := u.step quiet (ledger.same u.ledger said.sameNotes)
    rw [← u.remaining_eq quiet] at mine
    obtain ⟨first, others⟩ := List.forall_mem_cons.1 mine
    obtain ⟨apart, distinct⟩ := List.nodup_cons.1 distinct
    have out := takenOut_of_takeOut taken
    refine ih (u₁.takenOut ledger first out) distinct (fun i hi => ?_) h
    rw [u₁.remaining_takenOut out, List.mem_erase_of_ne fun e => apart (List.mem_map.2 ⟨i, hi, e⟩)]
    exact others i hi

theorem Underway.runBound (ledger : Ledger nests note hears I) (faithful : Faithful note I client)
    {handlers : List StateRegistration} {refused a : Option Rejection}
    (u : Underway I outer base batch p) (h : runBound client t batch handlers refused p = .ok a q) :
    Underway I outer base batch q := by
  induction handlers generalizing p refused with
  | nil =>
    cases h
    exact u
  | cons s rest ih =>
    obtain ⟨images, p₁, looked, h⟩ := bind_eq_ok.1 h
    obtain ⟨rfl, same⟩ := live_eq ledger u.ledger looked
    have quiet := Lasting.of_same same.toSameTables
    have u₁ := u.step quiet (ledger.same u.ledger same.sameNotes)
    split at h
    · cases h
      exact u₁
    · obtain ⟨rejections, p₂, asked, h⟩ := bind_eq_ok.1 h
      obtain ⟨_, p₃, rejected, h⟩ := bind_eq_ok.1 h
      rw [← u.remaining_eq quiet] at asked
      have sub := ask_sublist asked
      obtain ⟨h₂, lasting⟩ := ask_leads ledger faithful u₁.ledger (fun r => u₁.mem_remaining) asked
      have u₂ := u₁.step lasting h₂
      refine ih (u₂.reject ledger (u₁.distinct_remaining.sublist sub) (fun r hr => ?_) rejected) h
      rw [u₁.remaining_eq lasting]
      exact sub.subset (List.mem_map_of_mem hr)

theorem callAdd_unheard (ledger : Ledger nests note hears I) (faithful : Faithful note I client)
    {r : ImageRecord} {callbacks : List HandlerId} {a : Unit} (deaf : callbacks.countP hears = 0)
    (hp : I w p) (here : r ∈ p.registry.value.toList)
    (h : callAdd client r.image callbacks p = .ok a q) : I w q ∧ Lasting p q := by
  induction callbacks generalizing p with
  | nil =>
    cases h
    exact ⟨hp, .refl _⟩
  | cons c rest ih =>
    obtain ⟨_, p₁, called, h⟩ := bind_eq_ok.1 h
    obtain ⟨_, called⟩ := discard_eq_ok.1 called
    rw [List.countP_eq_zero, List.forall_mem_cons, ← List.countP_eq_zero] at deaf
    obtain ⟨h₁, first⟩ := faithful hp (fun p' lasting hp' =>
      ledger.unheard hp' (by simpa using deaf.1) (lasting.records _ here)) called
    obtain ⟨hq, second⟩ := ih deaf.2 h₁ (first.records _ here) h
    exact ⟨hq, first.trans second⟩

theorem callAdd_heard (ledger : Ledger nests note hears I) (faithful : Faithful note I client)
    (heeds : Heeds nests note hears I) {r : ImageRecord} {rest : List UInt64}
    {callbacks : List HandlerId} {a : Unit} (one : callbacks.countP hears = 1)
    (alone : nests = false → outer = []) (hp : I (outer ++ r.addr :: rest) p)
    (here : r ∈ p.registry.value.toList)
    (h : callAdd client r.image callbacks p = .ok a q) : I (outer ++ rest) q ∧ Lasting p q := by
  induction callbacks generalizing p with
  | nil => cases one
  | cons c others ih =>
    obtain ⟨_, p₁, called, h⟩ := bind_eq_ok.1 h
    obtain ⟨_, called⟩ := discard_eq_ok.1 called
    cases hc : hears c
    · rw [List.countP_cons_of_neg (by simp [hc])] at one
      obtain ⟨h₁, first⟩ := faithful hp (fun p' lasting hp' =>
        ledger.unheard hp' hc (lasting.records _ here)) called
      obtain ⟨hq, second⟩ := ih one h₁ (first.records _ here) h
      exact ⟨hq, first.trans second⟩
    · rw [List.countP_cons_of_pos hc] at one
      obtain ⟨h₁, first⟩ := faithful hp (fun p' lasting hp' =>
        heeds hp' alone hc (lasting.records _ here)) called
      obtain ⟨hq, second⟩ :=
        callAdd_unheard ledger faithful (Nat.succ.inj one) h₁ (first.records _ here) h
      exact ⟨hq, first.trans second⟩

theorem callAddEach_leads {J : List ImageRecord → Process (κ × τ) → Prop} {callbacks : List HandlerId}
    {a : Unit} (told : ∀ {r rest p q a}, J (r :: rest) p → r ∈ p.registry.value.toList →
      callAdd client r.image callbacks p = .ok a q → J rest q ∧ Lasting p q)
    (hp : J batch p) (here : ∀ r ∈ batch, r ∈ p.registry.value.toList)
    (h : callAddEach client callbacks batch p = .ok a q) : J [] q ∧ Lasting p q := by
  induction batch generalizing p with
  | nil =>
    cases h
    exact ⟨hp, .refl _⟩
  | cons r rest ih =>
    obtain ⟨_, p₁, called, h⟩ := bind_eq_ok.1 h
    have ⟨here, hrest⟩ := List.forall_mem_cons.1 here
    obtain ⟨h₁, first⟩ := told hp here called
    obtain ⟨hq, second⟩ := ih h₁ (fun i hi => first.records i (hrest i hi)) h
    exact ⟨hq, first.trans second⟩

theorem callAddEach_unheard (ledger : Ledger nests note hears I) (faithful : Faithful note I client)
    {callbacks : List HandlerId} {a : Unit} (deaf : callbacks.countP hears = 0) (hp : I w p)
    (here : ∀ r ∈ batch, r ∈ p.registry.value.toList)
    (h : callAddEach client callbacks batch p = .ok a q) : I w q ∧ Lasting p q :=
  callAddEach_leads (J := fun _ p => I w p)
    (fun hp here called => callAdd_unheard ledger faithful deaf hp here called) hp here h

theorem callAddEach_heard (ledger : Ledger nests note hears I) (faithful : Faithful note I client)
    (heeds : Heeds nests note hears I) {callbacks : List HandlerId} {a : Unit}
    (one : callbacks.countP hears = 1) (alone : nests = false → outer = [])
    (hp : I (outer ++ batch.map (·.addr)) p) (here : ∀ r ∈ batch, r ∈ p.registry.value.toList)
    (h : callAddEach client callbacks batch p = .ok a q) : I outer q ∧ Lasting p q := by
  have led := callAddEach_leads (J := fun waiting p => I (outer ++ waiting.map (·.addr)) p)
    (fun hp here called => callAdd_heard ledger faithful heeds one alone hp here called) hp here h
  rwa [List.map_nil, List.append_nil] at led

theorem runDependents_leads (ledger : Ledger nests note hears I) (faithful : Faithful note I client)
    {handlers : List StateRegistration} {a : Unit} (hp : I w p)
    (here : ∀ r ∈ batch, r ∈ p.registry.value.toList)
    (h : runDependents client batch handlers p = .ok a q) : I w q ∧ Lasting p q := by
  induction handlers generalizing p with
  | nil =>
    cases h
    exact ⟨hp, .refl _⟩
  | cons s rest ih =>
    obtain ⟨late, p₁, asked, h⟩ := bind_eq_ok.1 h
    obtain ⟨_, p₂, said, h⟩ := bind_eq_ok.1 h
    obtain ⟨h₁, first⟩ := ask_leads ledger faithful hp here asked
    have quiet := (warnings_untouched (f := sayLate) rfl (fun _ _ => rfl) said).sameNotes
    have first := first.trans (.of_same quiet.toSameTables)
    obtain ⟨hq, second⟩ := ih (ledger.same h₁ quiet) (fun r hr => first.records r (here r hr)) h
    exact ⟨hq, first.trans second⟩

/-- Once a batch has been announced none of it waits. -/
theorem Underway.announce (ledger : Ledger nests note hears I) (faithful : Faithful note I client)
    {a : Option Rejection} (alone : nests = false → outer = []) (u : Underway I outer base batch p)
    (h : announce client t batch p = .ok a q) : I outer q ∧ Lasting base q := by
  obtain ⟨_, _, e, h⟩ := bind_eq_ok.1 h
  cases e
  obtain ⟨refused, p₁, bound, h⟩ := bind_eq_ok.1 h
  have u₁ := u.runBound ledger faithful bound
  obtain ⟨left, p₂, looked, h⟩ := bind_eq_ok.1 h
  obtain ⟨rfl, same⟩ := live_eq ledger u₁.ledger looked
  have quiet := Lasting.of_same same.toSameTables
  have u₂ := u₁.step quiet (ledger.same u₁.ledger same.sameNotes)
  rw [← u₁.remaining_eq quiet] at h
  obtain ⟨_, _, e, h⟩ := bind_eq_ok.1 h
  cases e
  obtain ⟨_, p₃, told, h⟩ := bind_eq_ok.1 h
  have here := fun r => u₂.mem_remaining (r := r)
  have ⟨h₃, second⟩ : I outer p₃ ∧ Lasting p₂ p₃ := by
    rcases ledger.attended u₂.ledger with ⟨one, heeds⟩ | ⟨deaf, any⟩
    · exact callAddEach_heard ledger faithful heeds one alone u₂.ledger here told
    · exact callAddEach_unheard ledger faithful deaf (any _ _ _ u₂.ledger) here told
  split at h
  · cases h
    exact ⟨h₃, u₂.lasting.trans second⟩
  · obtain ⟨_, _, e, h⟩ := bind_eq_ok.1 h
    cases e
    obtain ⟨_, p₄, asked, h⟩ := bind_eq_ok.1 h
    cases h
    obtain ⟨hq, third⟩ :=
      runDependents_leads ledger faithful h₃ (fun r hr => second.records r (here r hr)) asked
    exact ⟨hq, (u₂.lasting.trans second).trans third⟩

theorem mapImages_leads (ledger : Ledger nests note hears I) (faithful : Faithful note I client)
    {images : List Image} {a : Except LoaderError (List MapOutcome)}
    (alone : nests = false → w = []) (hp : I w p)
    (h : mapImages client t images p = .ok a q) : I w q ∧ Lasting p q := by
  obtain ⟨outcomes, batch, p₁, enrolled, h⟩ := mapImages_cases h
  have u := enrolAll_leads ledger hp enrolled
  rcases h with ⟨empty, rfl, -⟩ | ⟨refused, announced, -⟩
  · dsimp only at u
    rw [empty] at u
    refine ⟨?_, u.lasting⟩
    simpa [remaining] using u.ledger
  · exact u.announce ledger faithful alone announced

theorem mapImage_leads (ledger : Ledger nests note hears I) (faithful : Faithful note I client)
    {image : Image} {a : Except LoaderError MapOutcome} (alone : nests = false → w = [])
    (hp : I w p) (h : mapImage client t image p = .ok a q) : I w q ∧ Lasting p q :=
  have ⟨_, mapped, _⟩ := mapImage_cases h
  mapImages_leads ledger faithful alone hp mapped

/-- What a handler maps waits on its own; the images that waited when it was called still do after it. -/
theorem faithful_reentrant (ledger : Ledger nests note hears I) {first last : Call → Deed (κ × τ)}
    (orderly : Orderly nests first last) (depth : Nat) :
    Faithful note I (reentrant (noting note first last) t depth) := by
  -- on the depth: the requests of a call are served by a client that nests one call less
  induction depth with
  | zero =>
    intro call w w' p a q _ _ h
    cases h
  | succ depth ih =>
    intro call w w' p a q hp told h
    have maps : ∀ w r, Request.nestable nests r → ∀ p a q, I w p →
        serve (reentrant (noting note first last) t depth) t r p = .ok a q → I w q ∧ Lasting p q := by
      intro w r nestable p a q hp h
      obtain ⟨nested, isMap⟩ := Bool.and_eq_true_iff.1 nestable
      have alone : nests = false → w = [] := fun e => absurd nested (by simp [e])
      cases r with
      | map images => exact mapImages_leads ledger ih alone hp h
      | mapOne image => exact mapImage_leads ledger ih alone hp h
      | _ => cases isMap
    change ((first call).followedBy _).run _ p = _ at h
    rw [Deed.run_followedBy] at h
    obtain ⟨_, p₁, before, h⟩ := bind_eq_ok.1 h
    obtain ⟨h₁, l₁⟩ :=
      Deed.leads_run ledger.same (maps w) _ (orderly.only call).1
        (orderly.spares call).1 p _ p₁ hp before
    obtain ⟨hq, l₂⟩ := Deed.leads_run ledger.same (maps w') _ (orderly.only call).2
      (orderly.spares call).2
      (noted note call p₁) a q (told p₁ l₁ h₁) h
    have quiet : Lasting p₁ (noted note call p₁) := .of_same ⟨rfl, rfl⟩
    exact ⟨hq, l₁.trans (quiet.trans l₂)⟩

theorem registerState_leads (ledger : Ledger nests note hears I) (faithful : Faithful note I client)
    {s : StateRegistration} {a : Unit} (hp : I w p) (h : registerState client t s p = .ok a q) :
    I w q := by
  obtain ⟨_, p₁, subscribed, h⟩ := bind_eq_ok.1 h
  obtain ⟨existing, p₂, looked, h⟩ := bind_eq_ok.1 h
  have same := inspect_untouched _ _ looked
  obtain rfl : existing = _ := (Registry.access_ok looked).1
  have h₁ : I w p₁ := modify_eq_ok.1 subscribed ▸ ledger.handlers _ hp
  have h₂ := ledger.same h₁ same.sameNotes
  split at h
  · cases h
    exact h₂
  · obtain ⟨late, p₃, asked, h⟩ := bind_eq_ok.1 h
    obtain ⟨h₃, -⟩ := ask_leads ledger faithful h₂ (fun r hr => by rwa [same.images]) asked
    exact ledger.same h₃ (warnings_untouched rfl (fun _ _ => rfl) h).sameNotes

def withAdd (c : HandlerId) (p : Process (κ × τ)) : Process (κ × τ) :=
  { p with loader := { p.loader with addCallbacks := p.loader.addCallbacks ++ [c] } }

theorem registerAdd_parts {c : HandlerId} {a : Unit} (h : registerAdd client t c p = .ok a q) :
    ∃ p₁, SameNotes (withAdd c p) p₁ ∧
      callAddEach client [c] p₁.registry.value.toList p₁ = .ok a q := by
  obtain ⟨_, p₁, subscribed, h⟩ := bind_eq_ok.1 h
  obtain rfl : p₁ = withAdd c p := modify_eq_ok.1 subscribed
  obtain ⟨existing, p₂, looked, h⟩ := bind_eq_ok.1 h
  have same := inspect_untouched _ _ looked
  obtain rfl : existing = _ := (Registry.access_ok looked).1
  rw [← same.images] at h
  exact ⟨p₂, same.sameNotes, h⟩

theorem registerAdd_unheard (ledger : Ledger nests note hears I) (faithful : Faithful note I client)
    {c : HandlerId} {a : Unit} (deaf : hears c = false) (hp : I w (withAdd c p))
    (h : registerAdd client t c p = .ok a q) : I w q := by
  obtain ⟨p₁, same, called⟩ := registerAdd_parts h
  exact (callAddEach_unheard ledger faithful (by simp [deaf]) (ledger.same hp same) (fun r hr => hr)
    called).1

end

end ImageLoader.Loader
