import ImageLoader.Proofs.Loader.Steps
/-! Handlers that do not ask the loader for anything. A notice is kept of each call to them, with the
images that were registered when it was made. Each stage at which a mapping tells of images makes its calls
one after the other, and since the handlers are inert all of them are made in front of the same images. -/

namespace ImageLoader

def Call.images : Call → List Image
  | .state _ _ records => records.map (·.image)
  | .add _ image => [image]
  | .remove _ image => [image]

namespace Loader

open Act

variable {σ τ : Type}

def imagesOf (p : Process σ) : List Image := p.registry.value.toList.map (·.image)

structure Notice where
  call : Call
  registered : List Image
  answer : Option String
  deriving DecidableEq, Repr

def Notice.Present (n : Notice) : Prop := ∀ i ∈ n.call.images, i ∈ n.registered

/-- The client that does `behave` and keeps a notice of every call. -/
def noticing (behave : Client (List Notice × τ)) : Client (List Notice × τ) := fun call => do
  let registered := imagesOf (← get)
  let answer ← behave call
  modify fun p => { p with client := (p.client.1 ++ [⟨call, registered, answer⟩], p.client.2) }
  pure answer

/-- The calls by which a state handler is asked about images. -/
def asks (h : StateRegistration) (images : List Image) : List Call :=
  if h.batch then [.state h.handler h.state (images.map ImageRecord.new)]
  else images.map fun i => .state h.handler h.state [.new i]

/-- The images that are not refused where each has its own answer. -/
def unrefused (images : List Image) (answers : List (Option String)) : List Image :=
  ((images.zip answers).filter (·.2.isNone)).map (·.1)

/-- The images that are not refused by the answers to `asks`. -/
def survivors (h : StateRegistration) (images : List Image) (answers : List (Option String)) :
    List Image :=
  if h.batch then if answers.head?.join.isSome then [] else images
  else unrefused images answers

theorem mem_images_of_asks {s : StateRegistration} {images : List Image} {c : Call}
    (hc : c ∈ asks s images) {i : Image} (hi : i ∈ c.images) : i ∈ images := by
  unfold asks at hc
  split at hc
  · rw [List.mem_singleton.1 hc] at hi
    simpa [Call.images] using hi
  · obtain ⟨j, hj, rfl⟩ := List.mem_map.1 hc
    obtain rfl : i = j := by simpa [Call.images] using hi
    exact hj

theorem mem_images_of_adds {left : List Image} {callbacks : List HandlerId} {c : Call}
    (hc : c ∈ left.flatMap fun i => callbacks.map (.add · i)) {i : Image} (hi : i ∈ c.images) :
    i ∈ left := by
  obtain ⟨j, hj, mem⟩ := List.mem_flatMap.1 hc
  obtain ⟨callback, -, rfl⟩ := List.mem_map.1 mem
  exact List.mem_singleton.1 hi ▸ hj

/-- The loader's tables are as they were, and so are the images at these addresses. Flags of records may
be set, and records be put elsewhere or taken away. -/
structure Steady (addrs : List UInt64) (p q : Process σ) : Prop where
  loader : q.loader = p.loader
  images : ∀ a ∈ addrs, q.registry.value.imagesAt a = p.registry.value.imagesAt a
  chained : p.registry.value.Chained → q.registry.value.Chained

/-- Calls that finish leave the loader's tables, the images at these addresses and the notices alone. -/
def Inert (addrs : List UInt64) (behave : Client (List Notice × τ)) : Prop :=
  ∀ call p a q, behave call p = .ok a q → Steady addrs p q ∧ q.client.1 = p.client.1

theorem Inert.mono {addrs addrs' : List UInt64} {behave : Client (List Notice × τ)}
    (inert : Inert addrs behave) (fewer : addrs' ⊆ addrs) : Inert addrs' behave := fun call p a q h =>
  have ⟨steady, notes⟩ := inert call p a q h
  ⟨⟨steady.loader, fun a ha => steady.images a (fewer ha), steady.chained⟩, notes⟩

/-- The notices from `p` on are those of the calls, and the images at these addresses stay. -/
structure Noticed (addrs : List UInt64) (calls : List Call) (notices : List Notice)
    (p q : Process (List Notice × τ)) : Prop extends Steady addrs p q where
  notes : q.client.1 = p.client.1 ++ notices
  calls : notices.map (·.call) = calls
  registered : ∀ n ∈ notices, ∀ a ∈ addrs,
    n.registered.filter (·.addr = a) = p.registry.value.imagesAt a

theorem imagesAt_eq (p : Process σ) (addr : UInt64) :
    p.registry.value.imagesAt addr = (imagesOf p).filter (·.addr = addr) := by
  rw [imagesOf, List.filter_map]
  rfl

theorem SameTables.steady {p q : Process σ} (h : SameTables p q) (addrs : List UInt64) :
    Steady addrs p q := by
  refine ⟨h.loader, fun a _ => ?_, fun chained => ?_⟩
  · rw [h.images]
  · rwa [h.images]

theorem Untouched.steady {p q : Process σ} (h : Untouched p q) (addrs : List UInt64) :
    Steady addrs p q := h.toSameTables.steady addrs

namespace Noticed

variable {addrs : List UInt64} {calls calls' : List Call} {notices notices' : List Notice}
  {p q r : Process (List Notice × τ)}

theorem nothing (h : Untouched p q) : Noticed addrs [] [] p q where
  toSteady := h.steady addrs
  notes := by rw [h.client, List.append_nil]
  calls := rfl
  registered := nofun

theorem trans (h : Noticed addrs calls notices p q) (h' : Noticed addrs calls' notices' q r) :
    Noticed addrs (calls ++ calls') (notices ++ notices') p r where
  loader := h'.loader.trans h.loader
  images a ha := (h'.images a ha).trans (h.images a ha)
  chained chained := h'.chained (h.chained chained)
  notes := by rw [h'.notes, h.notes, List.append_assoc]
  calls := by rw [List.map_append, h.calls, h'.calls]
  registered := List.forall_mem_append.2 ⟨h.registered, fun n hn a ha =>
    (h'.registered n hn a ha).trans (h.images a ha)⟩

theorem length (h : Noticed addrs calls notices p q) : notices.length = calls.length := by
  rw [← h.calls, List.length_map]

end Noticed

section

variable {addrs : List UInt64} {behave : Client (List Notice × τ)} {p q : Process (List Notice × τ)}
  {t : ThreadId}

theorem Inert.noticed (inert : Inert addrs behave) {call : Call} {a : Option String}
    (h : noticing behave call p = .ok a q) : Noticed addrs [call] [⟨call, imagesOf p, a⟩] p q := by
  obtain ⟨_, _, e, h⟩ := bind_eq_ok.1 h
  cases e
  obtain ⟨answer, p₁, called, h⟩ := bind_eq_ok.1 h
  obtain ⟨_, p₂, noticed, h⟩ := bind_eq_ok.1 h
  cases h
  obtain ⟨steady, notes⟩ := inert call p a p₁ called
  rw [modify_eq_ok.1 noticed]
  exact ⟨⟨steady.loader, steady.images, steady.chained⟩, congrArg (· ++ _) notes, rfl,
    by simp [imagesAt_eq]⟩

theorem filter_notMem_cons {i : Image} {rest : List Image} (apart : i.addr ∉ rest.map (·.addr))
    (refused : List UInt64) :
    (i :: rest).filter (·.addr ∉ i.addr :: refused) = rest.filter (·.addr ∉ refused) := by
  rw [List.filter_cons_of_neg (by simp)]
  refine List.filter_congr fun j hj => ?_
  have away : j.addr ≠ i.addr := fun e => apart (List.mem_map.2 ⟨j, hj, e⟩)
  simp [away]

theorem askEach_noticed (inert : Inert addrs behave) {s : StateRegistration} {images : List Image}
    (distinct : (images.map (·.addr)).Nodup) {a : List Rejection}
    (h : askEach (noticing behave) s (images.map ImageRecord.new) p = .ok a q) :
    ∃ notices, Noticed addrs (images.map fun i => .state s.handler s.state [.new i]) notices p q ∧
      ∀ more, unrefused images (notices.map (·.answer) ++ more) =
        images.filter (·.addr ∉ a.map (·.addr)) := by
  induction images generalizing p a with
  | nil =>
    cases h
    exact ⟨[], .nothing (.refl _), fun _ => rfl⟩
  | cons i rest ih =>
    obtain ⟨answer, p₁, called, h⟩ := bind_eq_ok.1 h
    obtain ⟨others, q', rested, h⟩ := bind_eq_ok.1 h
    cases h
    obtain ⟨apart, distinct⟩ := List.nodup_cons.1 distinct
    obtain ⟨notices, after, refused⟩ := ih distinct rested
    refine ⟨_, (inert.noticed called).trans after, fun more => ?_⟩
    have alone : i.addr ∉ others.map (·.addr) := fun mem => apart (by
      simpa [Function.comp_def] using (askEach_sublist rested).subset mem)
    cases answer with
    | none =>
      change _ = (i :: rest).filter (·.addr ∉ others.map (·.addr))
      rw [List.filter_cons_of_pos (by simpa using alone), ← refused more]
      rfl
    | some reason =>
      change _ = (i :: rest).filter (·.addr ∉ i.addr :: others.map (·.addr))
      rw [filter_notMem_cons apart, ← refused more]
      rfl

theorem ask_noticed (inert : Inert addrs behave) {s : StateRegistration} {images : List Image}
    (distinct : (images.map (·.addr)).Nodup) {a : List Rejection}
    (h : ask (noticing behave) s (images.map ImageRecord.new) p = .ok a q) :
    ∃ notices, Noticed addrs (asks s images) notices p q ∧
      ∀ more, survivors s images (notices.map (·.answer) ++ more) =
        images.filter (·.addr ∉ a.map (·.addr)) := by
  unfold ask at h
  by_cases batch : s.batch
  · rw [if_pos batch] at h
    obtain ⟨answer, p₁, called, h⟩ := bind_eq_ok.1 h
    have noticed := inert.noticed called
    simp only [asks, survivors, if_pos batch]
    cases answer with
    | none =>
      cases h
      exact ⟨_, noticed, fun more => by simp⟩
    | some reason =>
      cases h
      refine ⟨_, noticed, fun more => (List.filter_eq_nil_iff.2 fun i hi => ?_).symm⟩
      simpa [Rejection.of] using ⟨i, hi, rfl⟩
  · rw [if_neg batch] at h
    simp only [asks, survivors, if_neg batch]
    exact askEach_noticed inert distinct h

theorem callAdd_noticed (inert : Inert addrs behave) {image : Image} {callbacks : List HandlerId} {a : Unit}
    (h : callAdd (noticing behave) image callbacks p = .ok a q) :
    ∃ notices, Noticed addrs (callbacks.map (.add · image)) notices p q := by
  induction callbacks generalizing p with
  | nil =>
    cases h
    exact ⟨[], .nothing (.refl _)⟩
  | cons c rest ih =>
    obtain ⟨_, p₁, called, h⟩ := bind_eq_ok.1 h
    obtain ⟨answer, called⟩ := discard_eq_ok.1 called
    obtain ⟨notices, after⟩ := ih h
    exact ⟨_, (inert.noticed called).trans after⟩

theorem callAddEach_noticed (inert : Inert addrs behave) {images : List Image} {callbacks : List HandlerId}
    {a : Unit} (h : callAddEach (noticing behave) callbacks (images.map ImageRecord.new) p = .ok a q) :
    ∃ notices, Noticed addrs (images.flatMap fun i => callbacks.map (.add · i)) notices p q := by
  induction images generalizing p with
  | nil =>
    cases h
    exact ⟨[], .nothing (.refl _)⟩
  | cons i rest ih =>
    obtain ⟨_, p₁, called, h⟩ := bind_eq_ok.1 h
    obtain ⟨first, before⟩ := callAdd_noticed inert called
    obtain ⟨others, after⟩ := ih h
    exact ⟨_, before.trans after⟩

theorem runDependents_noticed (inert : Inert addrs behave) {images : List Image}
    (distinct : (images.map (·.addr)).Nodup) {handlers : List StateRegistration} {a : Unit}
    (h : runDependents (noticing behave) (images.map ImageRecord.new) handlers p = .ok a q) :
    ∃ notices, Noticed addrs (handlers.flatMap (asks · images)) notices p q := by
  induction handlers generalizing p with
  | nil =>
    cases h
    exact ⟨[], .nothing (.refl _)⟩
  | cons s rest ih =>
    obtain ⟨late, p₁, asked, h⟩ := bind_eq_ok.1 h
    obtain ⟨_, p₂, said, h⟩ := bind_eq_ok.1 h
    have said := warnings_untouched (f := sayLate) rfl (fun _ _ => rfl) said
    obtain ⟨first, before, -⟩ := ask_noticed inert distinct asked
    obtain ⟨others, after⟩ := ih h
    exact ⟨_, before.trans ((Noticed.nothing said).trans after)⟩

end

end Loader

end ImageLoader
