import ImageLoader.Proofs.ImageList.Records
import ImageLoader.Proofs.Registry.Access
import ImageLoader.Proofs.Loader.Compose
/-! What the parts of a request do to the registry and to the loader's tables, each told once as equations
between the states before it and after it, and what they answer. -/

namespace ImageLoader.Loader

open Act

variable {σ : Type} {t : ThreadId} {client : Client σ} {p q : Process σ}

structure Untouched (p q : Process σ) : Prop extends SameTables p q where
  client : q.client = p.client

theorem Untouched.refl (p : Process σ) : Untouched p p := ⟨⟨rfl, rfl⟩, rfl⟩

theorem Untouched.trans {r : Process σ} (h : Untouched p q) (h' : Untouched q r) : Untouched p r :=
  ⟨⟨h'.images.trans h.images, h'.loader.trans h.loader⟩, h'.client.trans h.client⟩

theorem say_untouched (level : LogLevel) (text : String) (a : Unit)
    (h : (Process.say level text : ProcessAct σ Unit) p = .ok a q) : Untouched p q := by
  rw [modify_eq_ok.1 h]
  exact ⟨⟨rfl, rfl⟩, rfl⟩

theorem warnings_untouched {f : List Rejection → ProcessAct σ Unit} {text : Rejection → String}
    (nil : f [] = pure ()) (cons : ∀ r rest,
      f (r :: rest) = Process.say .warn (text r) >>= fun _ => f rest)
    {rejections : List Rejection} {a : Unit} (h : f rejections p = .ok a q) : Untouched p q := by
  induction rejections generalizing p with
  | nil =>
    rw [nil] at h
    cases h
    exact .refl _
  | cons r rest ih =>
    rw [cons] at h
    obtain ⟨_, p₁, said, h⟩ := bind_eq_ok.1 h
    exact (say_untouched _ _ _ said).trans (ih h)

theorem inspect_untouched {β : Type} (f : ImageList → β) (b : β)
    (h : Registry.inspect t f p = .ok b q) : Untouched p q :=
  have ⟨_, images, frame⟩ := Registry.access_ok h
  ⟨⟨images, frame.loader⟩, frame.client⟩

theorem sayIfPrinting_untouched (text : String) (a : Unit)
    (h : (sayIfPrinting text : ProcessAct σ Unit) p = .ok a q) : Untouched p q := by
  obtain ⟨p', _, hp, h⟩ := bind_eq_ok.1 h
  cases hp
  split at h
  · exact say_untouched _ _ _ h
  · cases h
    exact ⟨⟨rfl, rfl⟩, rfl⟩

theorem tells_keeps {I : Process σ → Prop} (same : ∀ {p q}, I p → SameTables p q → I q)
    (subscribed : ∀ f, Keeps I (subscribe f)) (t : ThreadId) : Tells (fun act => Keeps I act) t where
  closed := closed_keeps _
  reads := reads_of_get (closed_keeps _) (keeps_get _)
  say level text := fun _ hp a _ h => same hp (say_untouched level text a h).toSameTables
  inspect _ := fun _ hp b _ h => same hp (inspect_untouched _ b h).toSameTables
  subscribe := subscribed

/-- A new image becomes known; it is appended where it is registered. -/
structure Enters (image : Image) (registered : Bool) (p q : Process σ) : Prop where
  new : p.loader.known.get? image.addr = none
  loader : q.loader = { p.loader with known := p.loader.known.insert image.addr registered }
  images : q.registry.value =
    if registered then p.registry.value.append (.new image) else p.registry.value
  client : q.client = p.client

/-- An image whose address is known is passed over. Of the others those with metadata are registered. -/
theorem enrol_spec {image : Image} {a : MapOutcome × List ImageRecord}
    (h : enrol t image p = .ok a q) :
    (p.loader.known.get? image.addr ≠ none ∧ Untouched p q ∧ a.1 ≠ .mapped ∧ a.2 = []) ∨
      (image.hasMetadata = true ∧ Enters image true p q ∧ a.1 = .mapped ∧ a.2 = [.new image]) ∨
      (image.hasMetadata = false ∧ Enters image false p q ∧ a.1 = .noMetadata ∧ a.2 = []) := by
  obtain ⟨p', _, hp, h⟩ := bind_eq_ok.1 h
  cases hp
  rcases new : p.loader.known.get? image.addr with _ | registered
  · simp only [new] at h
    split at h
    · next metadata =>
      obtain ⟨_, p₁, said, h⟩ := bind_eq_ok.1 h
      obtain ⟨_, p₂, known, h⟩ := bind_eq_ok.1 h
      obtain ⟨_, p₃, appended, h⟩ := bind_eq_ok.1 h
      cases h
      have said := sayIfPrinting_untouched _ _ said
      obtain ⟨-, images, frame⟩ := Registry.access_ok appended
      have loader := frame.loader
      have client := frame.client
      rw [modify_eq_ok.1 known] at images loader client
      refine .inr (.inl ⟨metadata, ⟨new, ?_, ?_, client.trans said.client⟩, rfl, rfl⟩)
      · rw [loader, said.loader]
      · rw [images, said.images]
        rfl
    · next plain =>
      obtain ⟨_, p₁, known, h⟩ := bind_eq_ok.1 h
      cases h
      rw [modify_eq_ok.1 known]
      exact .inr (.inr ⟨by simpa using plain, ⟨new, rfl, rfl, rfl⟩, rfl, rfl⟩)
  · simp only [new] at h
    have old := Option.some_ne_none registered
    cases registered <;> cases h <;> exact .inl ⟨old, ⟨⟨rfl, rfl⟩, rfl⟩, by decide, rfl⟩

theorem enrol_cases {image : Image} {a : MapOutcome × List ImageRecord}
    (h : enrol t image p = .ok a q) :
    (Untouched p q ∧ a.1 ≠ .mapped ∧ a.2 = []) ∨
      (Enters image true p q ∧ a.1 = .mapped ∧ a.2 = [.new image]) ∨
      (Enters image false p q ∧ a.1 = .noMetadata ∧ a.2 = []) :=
  (enrol_spec h).imp And.right (Or.imp And.right And.right)

theorem Enters.known {image : Image} {registered : Bool} (h : Enters image registered p q) (a : UInt64) :
    q.loader.known.get? a = if image.addr = a then some registered else p.loader.known.get? a := by
  rw [h.loader]
  exact Table.get?_insert _ _ _ _

/-- A record leaves the registry, and its address stays known. -/
structure TakenOut (addr : UInt64) (p q : Process σ) : Prop where
  loader : q.loader = { p.loader with known := p.loader.known.insert addr false }
  images : q.registry.value = (p.registry.value.remove addr).2
  client : q.client = p.client

theorem takenOut_of_takeOut {addr : UInt64} {a : Unit} (h : takeOut t addr p = .ok a q) :
    TakenOut addr p q := by
  obtain ⟨_, p₁, removed, h⟩ := bind_eq_ok.1 h
  obtain ⟨_, removed⟩ := discard_eq_ok.1 removed
  have ⟨_, images, frame⟩ := Registry.access_ok removed
  rw [modify_eq_ok.1 h]
  refine ⟨?_, images, frame.client⟩
  rw [frame.loader]

/-- What a new image and a refused one keep, all parts of a mapping keep. -/
theorem parts_of_steps {I : Process σ → Prop} (same : ∀ {p q}, I p → SameTables p q → I q)
    (subscribed : ∀ f, Keeps I (subscribe f))
    (enters : ∀ {image registered p q}, I p → Enters image registered p q → I q)
    (takenOut : ∀ {addr p q}, I p → TakenOut addr p q → I q) (t : ThreadId) :
    Parts (fun act => Keeps I act) t where
  toTells := tells_keeps same subscribed t
  enrol image := by
    intro p hp a q h
    rcases enrol_cases h with ⟨unchanged, -, -⟩ | ⟨entered, -, -⟩ | ⟨entered, -, -⟩
    · exact same hp unchanged.toSameTables
    · exact enters hp entered
    · exact enters hp entered
  takeOut _ := fun _ hp _ _ h => takenOut hp (takenOut_of_takeOut h)

theorem TakenOut.known {addr : UInt64} (h : TakenOut addr p q) (a : UInt64) :
    q.loader.known.get? a = if addr = a then some false else p.loader.known.get? a := by
  rw [h.loader]
  exact Table.get?_insert _ _ _ _

theorem TakenOut.kept {addr : UInt64} (h : TakenOut addr p q) (chained : p.registry.value.Chained)
    {r : ImageRecord} (other : r.addr ≠ addr) (mem : r ∈ p.registry.value.toList) :
    r ∈ q.registry.value.toList := by
  rw [h.images, (ImageList.remove_spec chained addr).2.2]
  exact (List.mem_eraseP_of_neg (by simpa using other)).2 mem

/-- The address is known no more; its record, if it has one, is still there. -/
structure Forgets (addr : UInt64) (p q : Process σ) : Prop where
  loader : q.loader = { p.loader with known := p.loader.known.erase addr }
  images : q.registry.value = p.registry.value
  client : q.client = p.client

theorem Forgets.known {addr : UInt64} (h : Forgets addr p q) (a : UInt64) :
    q.loader.known.get? a = if addr = a then none else p.loader.known.get? a := by
  rw [h.loader]
  exact Table.get?_erase _ _ _

structure Departs (addr : UInt64) (p q : Process σ) : Prop where
  loader : q.loader = p.loader
  images : q.registry.value = (p.registry.value.remove addr).2
  client : q.client = p.client

/-- An image is only forgotten, unless it is registered and has a record. Then its callbacks run between
the forgetting and the removal of the record, which is the answer. -/
theorem unmapImage_spec {addr : UInt64} {a : Option ImageRecord}
    (h : unmapImage client t addr p = .ok a q) :
    (Forgets addr p q ∧ a = none ∧
        (p.loader.known.get? addr = some true → p.registry.value.find? addr = none)) ∨
      (p.loader.known.get? addr = some true ∧ ∃ r, p.registry.value.find? addr = some r ∧
        ∃ p₁ p₂, Forgets addr p p₁ ∧
          callRemove client r.image p₁.loader.removeCallbacks p₁ = .ok () p₂ ∧ Departs addr p₂ q ∧
          a = (p₂.registry.value.remove addr).1) := by
  obtain ⟨_, _, e, h⟩ := bind_eq_ok.1 h
  cases e
  obtain ⟨_, p₁, forgot, h⟩ := bind_eq_ok.1 h
  have forgets : Forgets addr p p₁ := by
    rw [modify_eq_ok.1 forgot]
    exact ⟨rfl, rfl, rfl⟩
  by_cases registered : p.loader.known.get? addr = some true
  · rw [if_pos registered] at h
    obtain ⟨found, p₂, looked, h⟩ := bind_eq_ok.1 h
    have same := inspect_untouched _ _ looked
    have found_eq : found = p.registry.value.find? addr :=
      forgets.images ▸ (Registry.access_ok looked).1
    have forgets : Forgets addr p p₂ := ⟨same.loader.trans forgets.loader,
      same.images.trans forgets.images, same.client.trans forgets.client⟩
    cases found with
    | none =>
      cases h
      exact .inl ⟨forgets, rfl, fun _ => found_eq.symm⟩
    | some r =>
      obtain ⟨_, _, e, h⟩ := bind_eq_ok.1 h
      cases e
      obtain ⟨_, p₃, called, h⟩ := bind_eq_ok.1 h
      obtain ⟨_, p₄, said, h⟩ := bind_eq_ok.1 h
      have said := sayIfPrinting_untouched _ _ said
      obtain ⟨answer, images, frame⟩ := Registry.access_ok h
      rw [said.images] at answer images
      exact .inr ⟨registered, r, found_eq.symm, p₂, p₃, forgets, called,
        ⟨frame.loader.trans said.loader, images, frame.client.trans said.client⟩, answer⟩
  · rw [if_neg registered] at h
    cases h
    exact .inl ⟨forgets, rfl, fun e => absurd e registered⟩

theorem unmapImage_cases {addr : UInt64} {a : Option ImageRecord}
    (h : unmapImage client t addr p = .ok a q) :
    (Forgets addr p q ∧
        (p.loader.known.get? addr = some true → p.registry.value.find? addr = none)) ∨
      (p.loader.known.get? addr = some true ∧ ∃ r ∈ p.registry.value.toList, r.addr = addr ∧
        ∃ p₁ p₂, Forgets addr p p₁ ∧
          callRemove client r.image p₁.loader.removeCallbacks p₁ = .ok () p₂ ∧ Departs addr p₂ q) := by
  rcases unmapImage_spec h with
    ⟨forgets, -, absent⟩ | ⟨registered, r, found, p₁, p₂, forgets, called, departs, -⟩
  · exact .inl ⟨forgets, absent⟩
  · exact .inr ⟨registered, r, List.mem_of_find?_eq_some found, by simpa using List.find?_some found,
      p₁, p₂, forgets, called, departs⟩

/-- A mapping enrols its images and announces those that are new; it reports a refusal if there was one. -/
theorem mapImages_cases {images : List Image} {a : Except LoaderError (List MapOutcome)}
    (h : mapImages client t images p = .ok a q) :
    ∃ outcomes batch p₁, enrolAll t images p = .ok (outcomes, batch) p₁ ∧
      ((batch = [] ∧ q = p₁ ∧ a = .ok outcomes) ∨
        ∃ refused, announce client t batch p₁ = .ok refused q ∧
          a = match refused with
            | none => .ok outcomes
            | some r => .error r.error) := by
  obtain ⟨⟨outcomes, batch⟩, p₁, enrolled, h⟩ := bind_eq_ok.1 h
  refine ⟨outcomes, batch, p₁, enrolled, ?_⟩
  dsimp only at h
  split at h
  · next empty =>
    cases h
    exact .inl ⟨List.isEmpty_iff.1 empty, rfl, rfl⟩
  · obtain ⟨refused, p₂, announced, h⟩ := bind_eq_ok.1 h
    cases refused <;> cases h <;> exact .inr ⟨_, announced, rfl⟩

theorem mapImage_cases {image : Image} {a : Except LoaderError MapOutcome}
    (h : mapImage client t image p = .ok a q) :
    ∃ outcomes, mapImages client t [image] p = .ok outcomes q ∧
      a = outcomes.map (·.headD .alreadyMapped) := by
  obtain ⟨outcomes, p₁, mapped, h⟩ := bind_eq_ok.1 h
  cases outcomes <;> cases h <;> exact ⟨_, mapped, rfl⟩

theorem live_eq_filter {batch images : List ImageRecord} (h : live t batch p = .ok images q) :
    images = batch.filter (p.registry.value.contains ·.addr) ∧ Untouched p q := by
  induction batch generalizing p images with
  | nil =>
    cases h
    exact ⟨rfl, ⟨rfl, rfl⟩, rfl⟩
  | cons r rest ih =>
    obtain ⟨here, p₁, looked, h⟩ := bind_eq_ok.1 h
    obtain ⟨others, p₂, rested, h⟩ := bind_eq_ok.1 h
    cases h
    have same := inspect_untouched _ _ looked
    obtain ⟨rfl, same'⟩ := ih rested
    refine ⟨?_, same.trans same'⟩
    rw [List.filter_cons, (Registry.access_ok looked).1, same.images]

theorem live_sublist {batch images : List ImageRecord} (h : live t batch p = .ok images q) :
    images.Sublist batch :=
  (live_eq_filter h).1 ▸ List.filter_sublist

theorem askEach_sublist {s : StateRegistration} {images : List ImageRecord} {a : List Rejection}
    (h : askEach client s images p = .ok a q) : (a.map (·.addr)).Sublist (images.map (·.addr)) := by
  induction images generalizing p a with
  | nil =>
    cases h
    exact .slnil
  | cons r rest ih =>
    obtain ⟨answer, p₁, called, h⟩ := bind_eq_ok.1 h
    obtain ⟨others, p₂, rested, h⟩ := bind_eq_ok.1 h
    cases h
    cases answer with
    | none => exact (ih rested).cons _
    | some reason => exact (ih rested).cons_cons _

theorem ask_sublist {s : StateRegistration} {images : List ImageRecord} {a : List Rejection}
    (h : ask client s images p = .ok a q) : (a.map (·.addr)).Sublist (images.map (·.addr)) := by
  unfold ask at h
  split at h
  · obtain ⟨answer, p₁, called, h⟩ := bind_eq_ok.1 h
    cases answer with
    | none =>
      cases h
      exact List.nil_sublist _
    | some reason =>
      cases h
      rw [List.map_map]
      exact .refl _
  · exact askEach_sublist h

end ImageLoader.Loader
