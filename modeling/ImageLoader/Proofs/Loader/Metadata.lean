import ImageLoader.Proofs.Image.Metadata
import ImageLoader.Proofs.Loader.Rejection
/-! What a mapping answers for an image of an ELF file of which the loader knows nothing. If no handler refuses
it, the names of its sections decide; what the sections contain does not matter, as an info record that cannot
be read is passed over. -/

namespace ImageLoader.Loader

open Act

variable {σ : Type} {t : ThreadId} {client : Client σ} {image : Image} {p q : Process σ}

/-- The handler does not refuse the image when it is asked about it alone. -/
def Accepts (client : Client σ) (image : Image) (s : StateRegistration) : Prop :=
  ∀ p a q, client (.state s.handler s.state [.new image]) p = .ok a q → a = none

theorem ask_of_accepts {s : StateRegistration} {rejections : List Rejection} (accepts : Accepts client image s)
    (asked : ask client s [.new image] p = .ok rejections q) : rejections = [] := by
  unfold ask at asked
  split at asked
  · obtain ⟨answer, p₁, called, told⟩ := bind_eq_ok.1 asked
    obtain rfl := accepts _ _ _ called
    cases told
    rfl
  · obtain ⟨answer, p₁, called, told⟩ := bind_eq_ok.1 asked
    obtain rfl := accepts _ _ _ called
    cases told
    rfl

/-- Handlers that accept the image give no refusal, whatever they do to the registry meanwhile. -/
theorem runBound_of_accepts {handlers : List StateRegistration} {batch : List ImageRecord}
    {refused a : Option Rejection} (alone : batch.Sublist [.new image])
    (accepts : ∀ s ∈ handlers, Accepts client image s)
    (run : runBound client t batch handlers refused p = .ok a q) : a = refused := by
  induction handlers generalizing p refused with
  | nil =>
    cases run
    rfl
  | cons s rest ih =>
    obtain ⟨here, others⟩ := List.forall_mem_cons.1 accepts
    obtain ⟨images, p₁, looked, run⟩ := bind_eq_ok.1 run
    split at run
    · cases run
      rfl
    · next left =>
      obtain ⟨rejections, p₂, asked, run⟩ := bind_eq_ok.1 run
      obtain ⟨_, p₃, rejected, run⟩ := bind_eq_ok.1 run
      -- something of the batch is still registered, so the image is
      have whole : images = [.new image] := by
        rcases List.sublist_singleton.1 ((live_sublist looked).trans alone) with e | e
        · exact absurd (List.isEmpty_iff.2 e) left
        · exact e
      rw [whole] at asked
      rw [ask_of_accepts here asked] at run
      simpa using ih others run

theorem announce_of_accepts {batch : List ImageRecord} {a : Option Rejection}
    (alone : batch.Sublist [.new image])
    (accepts : ∀ s ∈ p.loader.handlersOf .bound, Accepts client image s)
    (run : announce client t batch p = .ok a q) : a = none := by
  rw [announce_eq] at run
  obtain ⟨_, _, e, run⟩ := bind_eq_ok.1 run
  cases e
  obtain ⟨refused, p₁, bound, run⟩ := bind_eq_ok.1 run
  obtain ⟨_, p₂, introduced, run⟩ := bind_eq_ok.1 run
  cases run
  exact runBound_of_accepts alone accepts bound

theorem enrol_handlersOf {a : MapOutcome × List ImageRecord} (run : enrol t image p = .ok a q)
    (state : ImageState) : q.loader.handlersOf state = p.loader.handlersOf state := by
  rcases enrol_cases run with ⟨same, -, -⟩ | ⟨enters, -, -⟩ | ⟨enters, -, -⟩
  · rw [same.loader]
  · rw [enters.loader]
    rfl
  · rw [enters.loader]
    rfl

theorem enrol_sublist {a : MapOutcome × List ImageRecord} (run : enrol t image p = .ok a q) :
    a.2.Sublist [.new image] := by
  rcases enrol_cases run with ⟨-, -, new⟩ | ⟨-, -, new⟩ | ⟨-, -, new⟩
  · rw [new]
    exact List.nil_sublist _
  · rw [new]
  · rw [new]
    exact List.nil_sublist _

/-- The outcome for an image mapped alone depends on what was known of it and on its metadata, unless one of
the handlers refuses it. -/
theorem mapImage_answer {a : Except LoaderError MapOutcome} (run : mapImage client t image p = .ok a q) :
    a = .ok (outcome (p.loader.known.get? image.addr) image) ∨
      (∃ r : Rejection, a = .error r.error) ∧ ∃ s ∈ p.loader.handlersOf .bound, ¬ Accepts client image s := by
  obtain ⟨answer, mapped, rfl⟩ := mapImage_cases run
  obtain ⟨outcomes, batch, p₁, enrolled, concluded⟩ := mapImages_cases mapped
  obtain ⟨⟨o, new⟩, _, first, last⟩ := bind_eq_ok.1 enrolled
  cases last
  have settled : o = outcome (p.loader.known.get? image.addr) image := enrol_outcome first
  rcases concluded with ⟨-, -, rfl⟩ | ⟨refused, announced, rfl⟩
  · exact .inl (congrArg _ settled)
  · cases refused with
    | none => exact .inl (congrArg _ settled)
    | some r =>
      refine .inr ⟨⟨r, rfl⟩, ?_⟩
      by_contra accepted
      have accepts : ∀ s ∈ p₁.loader.handlersOf .bound, Accepts client image s := by
        rw [enrol_handlersOf first]
        simpa using accepted
      rw [List.append_nil] at announced
      cases announce_of_accepts (enrol_sublist first) accepts announced

/-- The names of the sections decide what a mapping answers for the image of an ELF file. Its info record is
that of the first section in table order that is named for one, has its contents in the file and is large
enough, and none if there is no such section. There is metadata exactly where a section name, parted at its
first comma, is one of metadata. Where the loader does not know the address, the answer is then that the image
is mapped, and otherwise that it has no metadata, unless a handler refuses it. -/
theorem mapImage_of_names {bytes : Bytes} {f : Elf.File} (parsed : Elf.File.parse bytes = .ok f) (addr : UInt64)
    (slide : Int64) (path : String) (kind : ImageKind) :
    f.data = bytes ∧ ∃ i, Image.ofElf bytes addr slide path kind = .ok i ∧
      i.info = (f.sections.find? fun s => f.HoldsInfo s).map f.infoAt ∧
      (i.hasMetadata ↔ f.NamesMetadata) ∧
      ∀ (σ : Type) (client : Client σ) (t : ThreadId) (p : Process σ), p.loader.known.get? addr = none →
        (∀ o q, mapImage client t i p = .ok (.ok o) q →
          (f.NamesMetadata → o = .mapped) ∧ (¬ f.NamesMetadata → o = .noMetadata)) ∧
        ((∀ s ∈ p.loader.handlersOf .bound, Accepts client i s) →
          ∀ a q, mapImage client t i p = .ok a q → ∃ o, a = .ok o) ∧
        (Registry.available p → (∀ call, Returns (client call)) → ∃ a q, mapImage client t i p = .ok a q) := by
  have data : f.data = bytes := by
    rw [Elf.parse_eq_answer, Elf.answer_eq_ok_iff] at parsed
    obtain ⟨-, rfl⟩ := parsed
    rfl
  have named := Image.hasMetadata_ofFile f addr slide path kind
  refine ⟨data, _, Image.ofElf_eq_ok_iff.2 ⟨f, parsed, rfl⟩, Image.info_ofFile .., named, ?_⟩
  intro σ client t p unknown
  have settled : outcome (p.loader.known.get? (Image.ofFile f addr slide path kind).addr)
      (Image.ofFile f addr slide path kind) =
        if (Image.ofFile f addr slide path kind).hasMetadata then .mapped else .noMetadata := by
    rw [Image.ofFile_addr, unknown, outcome]
  refine ⟨?_, ?_, ?_⟩
  · intro o q run
    rcases mapImage_answer run with e | ⟨⟨r, e⟩, -⟩
    · rw [Except.ok.inj e, settled]
      constructor
      · intro names
        rw [if_pos (named.2 names)]
      · intro none
        rw [if_neg (mt named.1 none)]
    · cases e
  · intro accepts a q run
    rcases mapImage_answer run with e | ⟨-, s, mem, refuses⟩
    · exact ⟨_, e⟩
    · exact absurd (accepts s mem) refuses
  · intro available returns
    have parts := (pieces_returns (σ := σ) t).parts
    obtain ⟨a, q, run, -⟩ := parts.mapImage returns _ p available
    exact ⟨a, q, run⟩

/-- A library whose first two sections named for an info record have none: one takes no bytes of the file, one
has too few. In the third there is one with unknown flags, and in the last there is another. -/
def passedOver : Elf.Draft :=
  ⟨.dyn, .x86_64, [(0, 0x1000)],
    [.zeroed "__DATA,__objc_imageinfo" 0x100 8, .data "__OBJC,__image_info" 0x200 [1, 0, 0, 0],
      .data "__DATA,__objc_imageinfo" 0x300 [2, 0, 0, 0, 0x40, 0, 0, 0x80, 9],
      .data "__OBJC,__image_info" 0x400 [3, 0, 0, 0, 1, 0, 0, 0]]⟩

/-- A library with names that are not those of metadata: one begins so behind its second comma only, one has
no comma. -/
def nameless : Elf.Draft :=
  ⟨.dyn, .x86_64, [(0, 0x1000)],
    [.data "__DATA,__const,__objc_const" 0x100 [1], .data "__objc_imageinfo" 0x200 [2, 0, 0, 0, 1, 0, 0, 0]]⟩

theorem fits_passedOver : passedOver.Fits := by decide +kernel

theorem fits_nameless : nameless.Fits := by decide +kernel

def wary : Process (List Notice × Unit) :=
  { Process.unmanaged {} ([], ()) with
    loader := { stateHandlers := [⟨.bound, false, 0⟩, ⟨.bound, true, 1⟩] } }

theorem accepts_wary {i : Image} (other : i.addr = 0x10000) :
    ∀ s ∈ wary.loader.handlersOf .bound, Accepts (judging divided (.named "a")) i s := by
  have accepts (batch : Bool) (h : HandlerId) : Accepts (judging divided (.named "a")) i ⟨.bound, batch, h⟩ := by
    intro p a q answered
    rw [decides_judging divided (.named "a") _ _ _ _ _ answered]
    rcases h with _ | _ | h <;> simp [divided, other]
  simp [wary, Loader.handlersOf, accepts]

theorem mapImage_of_names_passedOver :
    (∃ f i, Elf.File.parse passedOver.toBytes = .ok f ∧
      Image.ofElf passedOver.toBytes 0x10000 0 "libpassed.so" .dylib = .ok i ∧
      i.info = some ⟨2, 0x80000040⟩ ∧ f.NamesMetadata ∧ wary.loader.known.get? 0x10000 = none ∧
      (∀ s ∈ wary.loader.handlersOf .bound, Accepts (judging divided (.named "a")) i s) ∧
      ∃ q, mapImage (judging divided (.named "a")) (.named "a") i wary = .ok (.ok .mapped) q) ∧
    ∃ f i, Elf.File.parse nameless.toBytes = .ok f ∧
      Image.ofElf nameless.toBytes 0x10000 0 "libnameless.so" .bundle = .ok i ∧
      i.info = none ∧ ¬ f.NamesMetadata ∧
      ∃ q, mapImage (judging divided (.named "a")) (.named "a") i wary = .ok (.ok .noMetadata) q := by
  have unknown : wary.loader.known.get? 0x10000 = none := by decide +kernel
  have available : Registry.available wary := by decide +kernel
  have returns := returns_judging divided (.named "a")
  have maps {d : Elf.Draft} (fits : d.Fits) (path : String) (kind : ImageKind) :
      ∃ i, Image.ofFile (Elf.contents d.toBytes) 0x10000 0 path kind = i ∧
        Image.ofElf d.toBytes 0x10000 0 path kind = .ok i ∧
        (i.hasMetadata ↔ (Elf.contents d.toBytes).NamesMetadata) ∧
        (∀ s ∈ wary.loader.handlersOf .bound, Accepts (judging divided (.named "a")) i s) ∧
        ∃ o q, mapImage (judging divided (.named "a")) (.named "a") i wary = .ok (.ok o) q ∧
          ((Elf.contents d.toBytes).NamesMetadata → o = .mapped) ∧
          (¬ (Elf.contents d.toBytes).NamesMetadata → o = .noMetadata) := by
    obtain ⟨-, i, made, -, named, outcomes⟩ := mapImage_of_names fits.parse_eq 0x10000 0 path kind
    obtain ⟨f, parsed, same⟩ := Image.ofElf_eq_ok_iff.1 made
    obtain rfl := Except.ok.inj (fits.parse_eq.symm.trans parsed)
    have accepts := accepts_wary (same ▸ Image.ofFile_addr _ 0x10000 0 path kind)
    obtain ⟨byNames, answered, finishes⟩ := outcomes _ (judging divided (.named "a")) (.named "a") wary unknown
    obtain ⟨a, q, run⟩ := finishes available returns
    obtain ⟨o, rfl⟩ := answered accepts a q run
    exact ⟨i, same, made, named, accepts, o, q, run, byNames o q run⟩
  constructor
  · obtain ⟨i, rfl, made, named, accepts, o, q, run, mapped, -⟩ := maps fits_passedOver "libpassed.so" .dylib
    have names := named.1 (by decide +kernel)
    obtain rfl := mapped names
    exact ⟨_, _, fits_passedOver.parse_eq, made, by decide +kernel, names, unknown, accepts, q, run⟩
  · obtain ⟨i, rfl, made, named, -, o, q, run, -, ignored⟩ := maps fits_nameless "libnameless.so" .bundle
    have none : ¬ (Elf.contents nameless.toBytes).NamesMetadata := mt named.2 (by decide +kernel)
    obtain rfl := ignored none
    exact ⟨_, _, fits_nameless.parse_eq, made, by decide +kernel, none, q, run⟩

end ImageLoader.Loader
