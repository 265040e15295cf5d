import ImageLoader.Proofs.Elf.RoundTrip
import ImageLoader.Proofs.Image.Sections
import ImageLoader.Proofs.Loader.History
/-! Sections looked up through the loader. The lookup asks the first record at an address. Once an image is
registered at an address that had no record, its record stays the first there, with the same image, until
that address is unmapped: a mapping takes out only what it enrolled itself, and an address that is known
is not enrolled. -/

namespace ImageLoader.Loader

open Act

variable {σ : Type} {addr : UInt64} {image : Image} {p q : Process σ} {t : ThreadId} {client : Client σ}

/-- The request does not unmap what is at `addr`. -/
def Request.spares (addr : UInt64) : Request → Bool
  | .unmap a => a ≠ addr
  | _ => true

theorem spares_of_isMap {r : Request} (h : r.isMap) : r.spares addr := by
  cases r
  case unmap => cases h
  all_goals rfl

/-- The image is registered at `addr`, and is what a lookup there finds. -/
structure Settled (addr : UInt64) (image : Image) (p : Process σ) : Prop where
  chained : p.registry.value.Chained
  known : p.loader.known.get? addr = some true
  found : (p.registry.value.imagesAt addr).head? = some image

namespace Settled

theorem of_same (h : Settled addr image p) (same : SameTables p q) : Settled addr image q := by
  refine ⟨?_, ?_, ?_⟩
  · rw [same.images]
    exact h.chained
  · rw [same.loader]
    exact h.known
  · rw [same.images]
    exact h.found

theorem registry {β : Type} {r : Registry.Request β} {answer : Registry.Answer β}
    (h : Settled addr image p) (avoids : r.Avoids addr) (served : Registry.serve t r p = .ok answer q) :
    Settled addr image q := by
  obtain ⟨chained, images, loader⟩ := Registry.serve_avoids avoids h.chained served
  exact ⟨chained, loader ▸ h.known, images ▸ h.found⟩

theorem apart {other : Image} {registered : Bool} (h : Settled addr image p)
    (enters : Enters other registered p q) : other.addr ≠ addr := by
  intro e
  have new := enters.new
  rw [e, h.known] at new
  cases new

theorem enters {other : Image} {registered : Bool} (h : Settled addr image p)
    (enters : Enters other registered p q) : Settled addr image q := by
  refine ⟨enters.chained h.chained, ?_, ?_⟩
  · rw [enters.known, if_neg (h.apart enters)]
    exact h.known
  · rw [enters.images]
    split
    · rw [ImageList.imagesAt_append h.chained, List.head?_append, h.found]
      rfl
    · exact h.found

theorem lost {a : UInt64} (h : Settled addr image p) (other : a ≠ addr)
    (images : q.registry.value = (p.registry.value.remove a).2)
    (known : q.loader.known.get? addr = p.loader.known.get? addr) : Settled addr image q := by
  refine ⟨images ▸ (ImageList.remove_spec h.chained a).1, known.trans h.known, ?_⟩
  rw [images, ImageList.imagesAt_remove h.chained other]
  exact h.found

end Settled

theorem tells_settled (addr : UInt64) (image : Image) (t : ThreadId) :
    Tells (fun act => Keeps (Settled (σ := σ) addr image) act) t :=
  tells_keeps Settled.of_same (fun _ => keeps_modify fun _ hp => ⟨hp.chained, hp.known, hp.found⟩) t

theorem runBound_refused {batch : List ImageRecord} {handlers : List StateRegistration}
    {refused : Option Rejection} (h : runBound client t batch handlers refused p = .ok none q) :
    refused = none := by
  induction handlers generalizing p refused with
  | nil =>
    cases h
    rfl
  | cons s rest ih =>
    obtain ⟨images, p₁, looked, h⟩ := bind_eq_ok.1 h
    split at h
    · cases h
      rfl
    · obtain ⟨rejections, p₂, asked, h⟩ := bind_eq_ok.1 h
      obtain ⟨_, p₃, rejected, h⟩ := bind_eq_ok.1 h
      exact ((Option.orElse_eq_none _ _).1 (ih h)).1

namespace Settled

variable (hc : ∀ call, Keeps (Settled addr image) (client call))

theorem reject {rejections : List Rejection} {a : Unit} (h : Settled addr image p)
    (others : ∀ r ∈ rejections, r.addr ≠ addr) (run : reject t rejections p = .ok a q) :
    Settled addr image q := by
  induction rejections generalizing p with
  | nil =>
    cases run
    exact h
  | cons r rest ih =>
    rw [reject_cons] at run
    obtain ⟨_, p₁, said, run⟩ := bind_eq_ok.1 run
    obtain ⟨_, p₂, taken, run⟩ := bind_eq_ok.1 run
    have h₁ := h.of_same (say_untouched _ _ _ said).toSameTables
    have out := takenOut_of_takeOut taken
    obtain ⟨other, others⟩ := List.forall_mem_cons.1 others
    apply ih _ others run
    apply h₁.lost other out.images
    rw [out.known, if_neg other]

include hc

/-- A batch of others is refused without it, and so is a batch of which nothing is refused. -/
theorem runBound {batch : List ImageRecord} {handlers : List StateRegistration}
    {refused a : Option Rejection} (h : Settled addr image p)
    (others : a = none ∨ ∀ r ∈ batch, r.addr ≠ addr)
    (run : runBound client t batch handlers refused p = .ok a q) : Settled addr image q := by
  have tells := tells_settled (σ := σ) addr image t
  induction handlers generalizing p refused with
  | nil =>
    cases run
    exact h
  | cons s rest ih =>
    obtain ⟨images, p₁, looked, run⟩ := bind_eq_ok.1 run
    have h₁ := tells.live batch p h images p₁ looked
    split at run
    · cases run
      exact h₁
    · obtain ⟨rejections, p₂, asked, run⟩ := bind_eq_ok.1 run
      obtain ⟨_, p₃, rejected, run⟩ := bind_eq_ok.1 run
      have h₂ := tells.ask hc s images p₁ h₁ rejections p₂ asked
      refine ih (h₂.reject (fun r hr => ?_) rejected) run
      rcases others with rfl | others
      · have none := ((Option.orElse_eq_none _ _).1 (runBound_refused run)).2
        rw [List.head?_eq_none_iff.1 none] at hr
        cases hr
      · have mem := (ask_sublist asked).subset (List.mem_map_of_mem hr)
        obtain ⟨i, hi, e⟩ := List.mem_map.1 mem
        exact e ▸ others i ((live_sublist looked).subset hi)

theorem announce {batch : List ImageRecord} {a : Option Rejection} (h : Settled addr image p)
    (others : a = none ∨ ∀ r ∈ batch, r.addr ≠ addr) (run : announce client t batch p = .ok a q) :
    Settled addr image q := by
  rw [announce_eq] at run
  obtain ⟨_, _, e, run⟩ := bind_eq_ok.1 run
  cases e
  obtain ⟨refused, p₁, bound, run⟩ := bind_eq_ok.1 run
  obtain ⟨_, p₂, introduced, run⟩ := bind_eq_ok.1 run
  cases run
  exact (tells_settled addr image t).introduce hc batch p₁ (h.runBound hc others bound) _ _ introduced

omit hc in
theorem enrolAll {images : List Image} {a : List MapOutcome × List ImageRecord}
    (h : Settled addr image p) (run : enrolAll t images p = .ok a q) :
    Settled addr image q ∧ ∀ r ∈ a.2, r.addr ≠ addr := by
  induction images generalizing p a with
  | nil =>
    cases run
    exact ⟨h, nofun⟩
  | cons i rest ih =>
    obtain ⟨⟨outcome, new⟩, p₁, enrolled, run⟩ := bind_eq_ok.1 run
    obtain ⟨⟨outcomes, batch⟩, p₂, others, run⟩ := bind_eq_ok.1 run
    cases run
    rcases enrol_cases enrolled with ⟨same, -, rfl⟩ | ⟨enters, -, rfl⟩ | ⟨enters, -, rfl⟩
    · exact (ih (h.of_same same.toSameTables) others :)
    · obtain ⟨settled, apart⟩ := ih (h.enters enters) others
      exact ⟨settled, List.forall_mem_cons.2 ⟨h.apart enters, apart⟩⟩
    · exact (ih (h.enters enters) others :)

theorem mapImages {images : List Image} {a : Except LoaderError (List MapOutcome)}
    (h : Settled addr image p) (run : mapImages client t images p = .ok a q) : Settled addr image q := by
  obtain ⟨outcomes, batch, p₁, enrolled, run⟩ := mapImages_cases run
  obtain ⟨h₁, apart⟩ := h.enrolAll enrolled
  rcases run with ⟨-, rfl, -⟩ | ⟨refused, announced, -⟩
  · exact h₁
  · exact h₁.announce hc (.inr apart) announced

theorem unmapImage {a : UInt64} {record : Option ImageRecord} (h : Settled addr image p) (other : a ≠ addr)
    (run : unmapImage client t a p = .ok record q) : Settled addr image q := by
  have forgotten {p₁ : Process σ} (forgets : Forgets a p p₁) : Settled addr image p₁ := by
    refine ⟨forgets.images ▸ h.chained, ?_, forgets.images ▸ h.found⟩
    rw [forgets.known, if_neg other]
    exact h.known
  rcases unmapImage_cases run with ⟨forgets, -⟩ | ⟨-, r, -, -, p₁, p₂, forgets, called, departs⟩
  · exact forgotten forgets
  · have told := (tells_settled addr image t).callRemove r.image (fun _ => hc _) _ p₁ (forgotten forgets) _ _ called
    apply told.lost other departs.images
    rw [departs.loader]

theorem serve (r : Request) (ok : r.spares addr) : Keeps (Settled addr image) (serve client t r) := by
  intro p h a q run
  have tells := tells_settled (σ := σ) addr image t
  cases r with
  | map images => exact h.mapImages hc run
  | mapOne i =>
    obtain ⟨outcomes, mapped, -⟩ := mapImage_cases run
    exact h.mapImages hc mapped
  | unmap a => exact h.unmapImage hc (by simpa [Request.spares] using ok) run
  | onState s => exact tells.registerState hc s p h a q run
  | onAdd c => exact tells.registerAdd hc c p h a q run
  | onRemove c => exact tells.registerRemove c p h a q run

end Settled

theorem settled_reentrant {body : Call → Deed σ} (only : ∀ call, (body call).Only (Request.spares addr))
    (image : Image) (t : ThreadId) (depth : Nat) (call : Call) :
    Keeps (Settled addr image) (reentrant body t depth call) := by
  apply keeps_reentrant (I := fun _ : Unit => Settled addr image) only _ t _ depth () call
  · intro _ p q h same
    exact h.of_same same
  · intro client hc _ r ok
    exact Settled.serve (hc ()) r ok

theorem History.settled (history : History addr (Request.spares addr) p q) (h : Settled addr image p) :
    Settled addr image q := by
  apply history.keeps (I := Settled addr image) _ _ _ h
  · intro p q h same
    exact h.of_same same
  · intro β t r avoids p h answer q served
    exact h.registry avoids served
  · intro body only t depth r ok
    exact Settled.serve (settled_reentrant only image t depth) r ok

theorem Enters.settled (enters : Enters image true p q) (here : image.addr = addr)
    (chained : p.registry.value.Chained) (absent : p.registry.value.find? addr = none) :
    Settled addr image q := by
  refine ⟨enters.chained chained, ?_, ?_⟩
  · rw [enters.known, if_pos here]
  · have none := p.registry.value.head?_imagesAt addr
    rw [absent, Option.map_none] at none
    rw [enters.images, if_pos rfl, ImageList.imagesAt_append chained, List.head?_append, none]
    simp [here]

theorem enters_of_mapped {new : List ImageRecord} (h : enrol t image p = .ok (.mapped, new) q) :
    Enters image true p q := by
  rcases enrol_cases h with ⟨-, other, -⟩ | ⟨enters, -, -⟩ | ⟨-, ignored, -⟩
  · exact absurd rfl other
  · exact enters
  · cases ignored

theorem settled_of_mapped (hc : ∀ call, Keeps (Settled addr image) (client call)) (here : image.addr = addr)
    (chained : p.registry.value.Chained) (absent : p.registry.value.find? addr = none)
    (run : mapImage client t image p = .ok (.ok .mapped) q) : Settled addr image q := by
  obtain ⟨answer, run, mapped⟩ := mapImage_cases run
  obtain ⟨outcomes, batch, p₁, enrolled, run⟩ := mapImages_cases run
  obtain ⟨⟨outcome, new⟩, _, first, rest⟩ := bind_eq_ok.1 enrolled
  cases rest
  rcases run with ⟨-, rfl, rfl⟩ | ⟨refused, announced, rfl⟩
  · cases mapped
    exact (enters_of_mapped first).settled here chained absent
  · cases refused with
    | none =>
      cases mapped
      exact ((enters_of_mapped first).settled here chained absent).announce hc (.inl rfl) announced
    | some r => cases mapped

/-- If it finishes the action answers `a`, and it finishes where the registry is available. -/
structure Answers {α : Type} (x : ProcessAct σ α) (p : Process σ) (a : α) : Prop where
  told : ∀ {b q}, x p = .ok b q → b = a
  answered : Registry.available p → ∃ q, x p = .ok a q

theorem answers_inspect {β : Type} (p : Process σ) (t : ThreadId) (f : ImageList → β) :
    Answers (Registry.inspect t f) p (f p.registry.value) := by
  refine ⟨fun looked => (Registry.access_ok looked).1, fun free => ?_⟩
  obtain ⟨q, looked, -⟩ := Registry.access_of_available free t fun l => (f l, l)
  exact ⟨q, looked⟩

theorem answers_nameOf? (p : Process σ) (t : ThreadId) (addr : UInt64) :
    Answers (nameOf? t addr) p ((p.registry.value.find? addr).map (·.name)) := by
  rw [← Registry.findSome?_addr]
  exact answers_inspect p t _

theorem answers_sectionData? (p : Process σ) (t : ThreadId) (addr : UInt64) (segname sectname : String) :
    Answers (sectionData? t addr segname sectname) p
      ((p.registry.value.find? addr).bind (·.image.sectionData? segname sectname)) := by
  have read : (sectionData? t addr segname sectname : ProcessAct σ _) = Registry.inspect t fun l =>
      (l.findSome? fun r => if r.addr = addr then some (r.image.sectionData? segname sectname) else none).join :=
    (map_eq_bind Option.join _).symm.trans (Registry.map_access t _ _)
  have first (l : ImageList) : (l.findSome? fun r =>
      if r.addr = addr then some (r.image.sectionData? segname sectname) else none).join =
        (l.find? addr).bind (·.image.sectionData? segname sectname) := by
    rw [Registry.findSome?_addr]
    cases l.find? addr <;> rfl
  rw [read, ← first]
  exact answers_inspect p t _

theorem Settled.sectionData? (h : Settled addr image p) (t : ThreadId) (segname sectname : String) :
    Answers (sectionData? t addr segname sectname) p (image.sectionData? segname sectname) := by
  have found := h.found
  rw [ImageList.head?_imagesAt, Option.map_eq_some_iff] at found
  obtain ⟨r, here, rfl⟩ := found
  have answers := answers_sectionData? p t addr segname sectname
  rwa [here] at answers

/-- The loader and the file agree on sections. Take a file that parses, and map its image at an address that
the loader does not know and that has no record: either none now, or none once, and since then only the
loader put records there or took them away. Under two names the loader then finds the
first section in table order whose name is the two with a comma between them, moved by the slide, or none
if there is none; and so it does until that address is unmapped. -/
theorem sectionData?_of_mapped {bytes : Bytes} {f : Elf.File} (parsed : Elf.File.parse bytes = .ok f)
    {addr : UInt64} {start p : Process σ} (chained : start.registry.value.Chained)
    (absent : start.registry.value.find? addr = none) (history : History addr (fun _ => true) start p)
    (unknown : p.loader.known.get? addr = none) (slide : Int64) (path : String) (kind : ImageKind) :
    ∃ image, Image.ofElf bytes addr slide path kind = .ok image ∧
      ∀ body : Call → Deed σ, (∀ call, (body call).Only (Request.spares addr)) → ∀ t depth q,
        mapImage (reentrant body t depth) t image p = .ok (.ok .mapped) q →
        ∀ r, History addr (Request.spares addr) q r → ∀ segname sectname, ',' ∉ segname.toList →
          (∀ t, Answers (sectionData? t addr segname sectname) r
            (f.extent? slide (segname ++ "," ++ sectname))) ∧
          f.sectionByName? (segname ++ "," ++ sectname) =
            (f.sections.find? fun s =>
              (Elf.readString f.names s.name).toOption = some (segname ++ "," ++ sectname)).map
                (⟨segname ++ "," ++ sectname, ·⟩) := by
  refine ⟨Image.ofFile f addr slide path kind, by rw [Image.ofElf, parsed], ?_⟩
  intro body only t depth q run r later segname sectname plain
  obtain ⟨chained, absent⟩ := history.absent chained absent unknown
  have settled := settled_of_mapped (settled_reentrant only _ t depth)
    (Image.ofFile_addr f addr slide path kind) chained absent run
  constructor
  · intro t
    rw [← Image.sectionData?_ofFile plain]
    exact (later.settled settled).sectionData? t segname sectname
  · apply f.sectionByName?_eq
    intro empty
    have letters := congrArg String.toList empty
    simp at letters

/-- A library with a section name used twice, one with two commas and one that begins with a comma. -/
def groupedDraft : Elf.Draft :=
  ⟨.dyn, .x86_64, [(0, 0x6000)],
    [.data "__DATA,__objc_classlist" 0x1000 [1, 2, 3, 4, 5, 6, 7, 8],
      .data "__TEXT,__text,regular" 0x2000 [0x90], .zeroed "__DATA,__bss" 0x3000 0x40,
      .data "__DATA,__objc_classlist" 0x4000 [9], .data ",__orphan" 0x200 [7]]⟩

theorem fits_groupedDraft : groupedDraft.Fits := by decide +kernel

def grouped : Image where
  addr := 0x10000
  kind := .dylib
  path := "libgrouped.so"
  slide := -0x800
  mapped := ⟨0xfffffffffffff800, 0x5800⟩
  segments :=
    [⟨"__DATA", 0x1000, 0x3001, [⟨"__DATA", "__objc_classlist", 0x1000, 8, 120⟩,
        ⟨"__DATA", "__bss", 0x3000, 0x40, 136⟩, ⟨"__DATA", "__objc_classlist", 0x4000, 1, 136⟩]⟩,
      ⟨"__TEXT", 0x2000, 1, [⟨"__TEXT", "__text,regular", 0x2000, 1, 128⟩]⟩,
      ⟨"", 0x200, 1, [⟨"", "__orphan", 0x200, 1, 144⟩]⟩]

theorem ofFile_groupedDraft :
    Image.ofFile (Elf.contents groupedDraft.toBytes) 0x10000 (-0x800) "libgrouped.so" .dylib = grouped := by
  decide +kernel

def asked (r : Request) (p : Process Unit) : Process Unit :=
  endState (serve (reentrant contrary (.named "a") 2) (.named "a") r) p

theorem History.asked {allowed : Request → Bool} {start p : Process Unit}
    (history : History addr allowed start p) (maps : ∀ r : Request, r.isMap → allowed r) (r : Request)
    (ok : allowed r) (h : finishes (serve (reentrant contrary (.named "a") 2) (.named "a") r) p) :
    History addr allowed start (asked r p) :=
  history.next contrary (fun call => (only_contrary call).mono maps) _ 2 r ok h

def peopled : Process Unit :=
  asked (.map [imageAt 1, imageAt 2]) (asked (.onRemove 1) (asked (.onState ⟨.bound, false, 0⟩)
    (Process.unmanaged {} ())))

theorem history_peopled : History 0x10000 (fun _ => true) (Process.unmanaged {} ()) peopled := by
  have history : History 0x10000 (fun _ => true) (Process.unmanaged {} ()) (Process.unmanaged {} ()) := .start
  have history := history.asked (fun _ _ => rfl) (.onState ⟨.bound, false, 0⟩) rfl (by decide +kernel)
  have history := history.asked (fun _ _ => rfl) (.onRemove 1) rfl (by decide +kernel)
  exact history.asked (fun _ _ => rfl) (.map [imageAt 1, imageAt 2]) rfl (by decide +kernel)

/-- The library is mapped between others; then its flag is set, and the image at 1 unmapped and mapped
again. -/
theorem sectionData?_of_mapped_grouped :
    History 0x10000 (fun _ => true) (Process.unmanaged {} ()) peopled ∧
      peopled.loader.known.get? 0x10000 = none ∧
      ∃ q r, mapImage (reentrant contrary (.named "a") 2) (.named "a") grouped peopled = .ok (.ok .mapped) q ∧
        History 0x10000 (Request.spares 0x10000) q r ∧
        r.registry.value.toList.map (fun i => (i.addr, i.realized)) = [(0x10000, true), (1, false)] ∧
        Answers (sectionData? (.named "b") 0x10000 "__DATA" "__objc_classlist") r (some ⟨0x800, 8⟩) ∧
        Answers (sectionData? (.named "b") 0x10000 "__TEXT" "__text,regular") r (some ⟨0x1800, 1⟩) ∧
        Answers (sectionData? (.named "b") 0x10000 "" "__orphan") r (some ⟨0xfffffffffffffa00, 1⟩) ∧
        Answers (sectionData? (.named "b") 0x10000 "__DATA" "__orphan") r none := by
  have unknown : peopled.loader.known.get? 0x10000 = none := by decide +kernel
  obtain ⟨image, made, agrees⟩ := sectionData?_of_mapped fits_groupedDraft.parse_eq ImageList.chained_empty
    rfl history_peopled unknown (-0x800) "libgrouped.so" .dylib
  have described : Image.ofElf groupedDraft.toBytes 0x10000 (-0x800) "libgrouped.so" .dylib = .ok grouped := by
    rw [Image.ofElf, fits_groupedDraft.parse_eq, ← ofFile_groupedDraft]
  have same := Except.ok.inj (described.symm.trans made)
  subst same
  have only (call : Call) : (contrary call).Only (Request.spares 0x10000) :=
    (only_contrary call).mono fun _ => spares_of_isMap
  have mapped := ok_of_answer? (show answer? (mapImage (reentrant contrary (.named "a") 2) (.named "a")
    grouped) peopled = some (.ok .mapped) by decide +kernel)
  obtain ⟨r, later, left⟩ : ∃ r, History 0x10000 (Request.spares 0x10000) (asked (.mapOne grouped) peopled) r ∧
      r.registry.value.toList.map (fun i => (i.addr, i.realized)) = [(0x10000, true), (1, false)] := by
    obtain ⟨answer, set⟩ := exists_ok (show finishes (Registry.serve (.named "b")
      (.setRealized 0x10000 true : Registry.Request Unit)) (asked (.mapOne grouped) peopled) by decide +kernel)
    have later : History 0x10000 (Request.spares 0x10000) (asked (.mapOne grouped) peopled) _ := .start
    have later := later.registry (.named "b") (.setRealized 0x10000 true) answer trivial set
    have later := later.asked (fun _ => spares_of_isMap) (.unmap 1) rfl (by decide +kernel)
    exact ⟨_, later, by decide +kernel⟩
  have told {segname sectname : String} {found : Option Extent} (plain : ',' ∉ segname.toList)
      (e : grouped.sectionData? segname sectname = found) :
      Answers (sectionData? (.named "b") 0x10000 segname sectname) r found := by
    rw [← e, ← ofFile_groupedDraft, Image.sectionData?_ofFile plain]
    exact (agrees contrary only (.named "a") 2 _ mapped r later segname sectname plain).1 _
  refine ⟨history_peopled, unknown, _, r, mapped, later, left, ?_, ?_, ?_, ?_⟩
  · exact told (by decide) (by decide)
  · exact told (by decide) (by decide)
  · exact told (by decide) (by decide)
  · exact told (by decide) (by decide)

/-- A process in which another image was put into the registry at 0x10000, past the loader. -/
def intruded : Process Unit :=
  endState (Registry.append (.named "b") (.new (imageAt 0x10000))) (Process.unmanaged {} ())

/-- That the loader does not know an address is not enough: a record that it did not put there is found
before the one that it does. -/
theorem sectionData?_intruded :
    Elf.File.parse groupedDraft.toBytes = .ok (Elf.contents groupedDraft.toBytes) ∧
      Image.ofElf groupedDraft.toBytes 0x10000 (-0x800) "libgrouped.so" .dylib = .ok grouped ∧
      (Elf.contents groupedDraft.toBytes).extent? (-0x800) "__DATA,__bss" = some ⟨0x2800, 0x40⟩ ∧
      Registry.append (.named "b") (.new (imageAt 0x10000)) (Process.unmanaged {} ()) = .ok () intruded ∧
      intruded.loader.known.get? 0x10000 = none ∧
      ∃ q, mapImage (reentrant contrary (.named "a") 0) (.named "a") grouped intruded = .ok (.ok .mapped) q ∧
        answer? (sectionData? (.named "a") 0x10000 "__DATA" "__bss") q = some none := by
  refine ⟨fits_groupedDraft.parse_eq, ?_, ?_, ?_, by decide +kernel, ?_⟩
  · rw [Image.ofElf, fits_groupedDraft.parse_eq, ← ofFile_groupedDraft]
  · have read : grouped.sectionData? "__DATA" "__bss" =
        (Elf.contents groupedDraft.toBytes).extent? (-0x800) "__DATA,__bss" := by
      rw [← ofFile_groupedDraft]
      exact Image.sectionData?_ofFile (show ',' ∉ "__DATA".toList by decide) "__bss" _ _ _ _ _
    rw [← read]
    decide
  · exact ok_of_answer? (by decide +kernel)
  · exact ⟨_, ok_of_answer? (by decide +kernel), by decide +kernel⟩

end ImageLoader.Loader
