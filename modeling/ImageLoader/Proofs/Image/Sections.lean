import Mathlib.Algebra.Group.Int.Defs
import Mathlib.Data.List.TakeDrop
import ImageLoader.Image.Elf
/-! Sections looked up by name. An image groups its sections by segment; the first of a name in the first
segment of a name is what a search through the sections in the order in which they came finds first. For
the image of an ELF file that is the order of the section table, and the pair of names is the full name
there, parted at its first comma. -/

namespace ImageLoader

namespace Word

theorem toInt_emod (slide : Int64) : slide.toInt % 2 ^ 64 = slide.toUInt64.toNat := by
  have bound := slide.toUInt64.toNat_lt
  rw [← Int64.toInt_toBitVec, BitVec.toInt_eq_toNat_bmod]
  exact Int.bmod_emod.trans (Int.emod_eq_of_lt (by omega) (by exact_mod_cast bound))

/-- A moved address is the sum, modulo the size of the address space. -/
theorem relocate_eq (a : UInt64) (slide : Int64) :
    relocate a slide = UInt64.ofInt (a.toNat + slide.toInt) := by
  apply UInt64.toNat_inj.1
  have moved := toInt_emod slide
  rw [relocate, UInt64.toNat_add, UInt64.ofInt, UInt64.toNat_ofNat']
  omega

end Word

theorem Segment.section?_push (g : Segment) (s : Section) (sectname : String) :
    (g.push s).section? sectname =
      (g.section? sectname).or (if s.sectname = sectname then some s else none) := by
  simp [section?, push, List.find?_append, List.find?_singleton]

/-- The first section of a name in the first segment of a name. -/
def sectionIn? (segments : List Segment) (segname sectname : String) : Option Section :=
  (segments.find? (·.name = segname)).bind (·.section? sectname)

theorem sectionIn?_cons (g : Segment) (rest : List Segment) (segname sectname : String) :
    sectionIn? (g :: rest) segname sectname =
      if g.name = segname then g.section? sectname else sectionIn? rest segname sectname := by
  by_cases h : g.name = segname <;> simp [sectionIn?, h]

/-- A section that is pushed is found under its names, unless one was found before. -/
theorem sectionIn?_pushSection (segments : List Segment) (s : Section) (segname sectname : String) :
    sectionIn? (pushSection segments s) segname sectname =
      (sectionIn? segments segname sectname).or
        (if s.segname = segname ∧ s.sectname = sectname then some s else none) := by
  induction segments with
  | nil =>
    rw [pushSection, sectionIn?_cons]
    by_cases e : s.segname = segname <;>
      simp [sectionIn?, Segment.single, Segment.section?, e, List.find?_singleton]
  | cons g rest ih =>
    rw [pushSection, sectionIn?_cons]
    split
    · next mine =>
      rw [sectionIn?_cons, Segment.section?_push]
      change (if g.name = segname then _ else _) = _
      split
      · next e => simp [← mine, e]
      · next e => simp [← mine, e]
    · next other =>
      rw [sectionIn?_cons, ih]
      split
      · next e => simp [← e, Ne.symm other]
      · rfl

namespace Elf

def NamedSection.under (s : NamedSection) (segname sectname : String) : Section :=
  ⟨segname, sectname, s.header.addr, s.header.size, s.header.offset⟩

namespace File

/-- Where the section of that name lies when the file is moved by `slide`. -/
def extent? (f : File) (slide : Int64) (name : String) : Option Extent :=
  (f.sectionByName? name).map fun s =>
    ⟨UInt64.ofInt (s.header.addr.toNat + slide.toInt), s.header.size⟩

theorem named?_eq (f : File) (s : SectionHeader) :
    f.named? s = (readString f.names s.name).toOption.bind fun name =>
      if name = "" then none else some ⟨name, s⟩ := by
  unfold named?
  cases readString f.names s.name <;> simp [Except.toOption]

theorem sectionByName?_eq (f : File) {name : String} (h : name ≠ "") :
    f.sectionByName? name =
      (f.sections.find? fun s => (readString f.names s.name).toOption = some name).map
        (⟨name, ·⟩) := by
  unfold sectionByName? namedSections
  induction f.sections with
  | nil => rfl
  | cons s rest ih =>
    rw [List.filterMap_cons, named?_eq, List.find?_cons]
    cases (readString f.names s.name).toOption with
    | none => exact ih
    | some found =>
      rw [Option.bind_some]
      by_cases e : found = name
      · simp [e, h]
      · by_cases empty : found = ""
        · simp only [empty, if_true, Ne.symm h, Option.some.injEq, decide_false]
          exact ih
        · simp only [empty, if_false, e, Option.some.injEq, decide_false, List.find?_cons]
          exact ih

end File

end Elf

namespace Image

theorem sectionData?_eq (i : Image) (segname sectname : String) :
    i.sectionData? segname sectname =
      (sectionIn? i.segments segname sectname).map fun s => ⟨Word.relocate s.addr i.slide, s.size⟩ := by
  unfold sectionData? sectionIn? segment?
  cases i.segments.find? (·.name = segname) with
  | none => rfl
  | some g => cases h : g.section? sectname <;> simp [h]

theorem splitName?_eq_some {name segname sectname : String} :
    splitName? name = some (segname, sectname) ↔
      name = segname ++ "," ++ sectname ∧ ',' ∉ segname.toList := by
  have whole : name = segname ++ "," ++ sectname ↔
      name.toList = segname.toList ++ ',' :: sectname.toList := by
    rw [← String.toList_inj]
    simp
  rw [splitName?, List.span_eq_takeWhile_dropWhile, whole]
  constructor
  · intro h
    have parts := List.takeWhile_append_dropWhile (p := (· ≠ ',')) (l := name.toList)
    have plain : ',' ∉ name.toList.takeWhile (· ≠ ',') := fun mem => by
      simpa using List.all_eq_true.1 (List.all_takeWhile (p := (· ≠ ','))) _ mem
    have stopped := List.head?_dropWhile_not (· ≠ ',') name.toList
    rcases rest : name.toList.dropWhile (· ≠ ',') with _ | ⟨c, tail⟩
    · rw [rest] at h
      cases h
    · rw [rest] at h parts stopped
      simp only [Option.some.injEq, Prod.mk.injEq] at h
      obtain ⟨rfl, rfl⟩ := h
      have comma : c = ',' := by simpa using stopped
      rw [comma] at parts
      rw [String.toList_ofList, String.toList_ofList]
      exact ⟨parts.symm, plain⟩
  · rintro ⟨e, plain⟩
    have stays : ∀ c ∈ segname.toList, decide (c ≠ ',') := fun c mem =>
      decide_eq_true fun comma => plain (comma ▸ mem)
    rw [e, List.takeWhile_append_of_pos stays, List.dropWhile_append_of_pos stays]
    simp

theorem addNamed_of_none (f : Elf.File) (i : Image) {s : Elf.NamedSection}
    (h : splitName? s.name = none) : addNamed f i s = i := by
  rw [addNamed, h]

/-- Whether or not the section tells of the image, it is pushed under the parts of its name. -/
theorem addNamed_of_some (f : Elf.File) (i : Image) {s : Elf.NamedSection} {segname sectname : String}
    (h : splitName? s.name = some (segname, sectname)) :
    (addNamed f i s).segments = ImageLoader.pushSection i.segments (s.under segname sectname) ∧
      (addNamed f i s).addr = i.addr ∧ (addNamed f i s).slide = i.slide := by
  rw [addNamed, h]
  dsimp only
  split <;> exact ⟨rfl, rfl, rfl⟩

theorem foldl_addNamed_place (f : Elf.File) (named : List Elf.NamedSection) (i : Image) :
    (named.foldl (addNamed f) i).addr = i.addr ∧ (named.foldl (addNamed f) i).slide = i.slide := by
  induction named generalizing i with
  | nil => exact ⟨rfl, rfl⟩
  | cons s rest ih =>
    obtain ⟨addr, slide⟩ := ih (addNamed f i s)
    rw [List.foldl_cons, addr, slide]
    rcases h : splitName? s.name with _ | ⟨segname, sectname⟩
    · rw [addNamed_of_none f i h]
      exact ⟨rfl, rfl⟩
    · exact (addNamed_of_some f i h).2

theorem ofFile_addr (f : Elf.File) (addr : UInt64) (slide : Int64) (path : String) (kind : ImageKind) :
    (ofFile f addr slide path kind).addr = addr := (foldl_addNamed_place f _ _).1

theorem ofElf_eq_ok_iff {bytes : Bytes} {addr : UInt64} {slide : Int64} {path : String} {kind : ImageKind}
    {i : Image} : ofElf bytes addr slide path kind = .ok i ↔
      ∃ f, Elf.File.parse bytes = .ok f ∧ ofFile f addr slide path kind = i := by
  rw [ofElf]
  cases Elf.File.parse bytes <;> simp

variable {segname : String} (plain : ',' ∉ segname.toList) (sectname : String)
include plain

theorem sectionIn?_addNamed (f : Elf.File) (i : Image) (s : Elf.NamedSection) :
    sectionIn? (addNamed f i s).segments segname sectname =
      (sectionIn? i.segments segname sectname).or
        (if s.name = segname ++ "," ++ sectname then some (s.under segname sectname) else none) := by
  have full : s.name = segname ++ "," ++ sectname ↔ splitName? s.name = some (segname, sectname) :=
    ⟨fun e => splitName?_eq_some.2 ⟨e, plain⟩, fun e => (splitName?_eq_some.1 e).1⟩
  rcases h : splitName? s.name with _ | ⟨segname', sectname'⟩
  · rw [addNamed_of_none f i h, if_neg (by simp [full, h]), Option.or_none]
  · rw [(addNamed_of_some f i h).1, sectionIn?_pushSection]
    rw [h, Option.some.injEq, Prod.mk.injEq] at full
    congr 1
    by_cases e : segname' = segname ∧ sectname' = sectname
    · rw [if_pos (full.2 e), e.1, e.2, if_pos ⟨rfl, rfl⟩]
    · rw [if_neg (mt full.1 e)]
      exact if_neg e

theorem sectionIn?_foldl_addNamed (f : Elf.File) (named : List Elf.NamedSection) (i : Image) :
    sectionIn? (named.foldl (addNamed f) i).segments segname sectname =
      (sectionIn? i.segments segname sectname).or
        ((named.find? (·.name = segname ++ "," ++ sectname)).map (·.under segname sectname)) := by
  induction named generalizing i with
  | nil => simp
  | cons s rest ih =>
    rw [List.foldl_cons, ih, sectionIn?_addNamed plain, Option.or_assoc]
    by_cases e : s.name = segname ++ "," ++ sectname <;> simp [e]

theorem sectionData?_ofFile (f : Elf.File) (addr : UInt64) (slide : Int64) (path : String)
    (kind : ImageKind) :
    (ofFile f addr slide path kind).sectionData? segname sectname =
      f.extent? slide (segname ++ "," ++ sectname) := by
  rw [sectionData?_eq, ofFile, sectionIn?_foldl_addNamed plain, (foldl_addNamed_place f _ _).2]
  change Option.map _ (Option.map _ (f.sectionByName? (segname ++ "," ++ sectname))) = _
  rw [Option.map_map, Elf.File.extent?]
  congr 1
  funext s
  exact congrArg (Extent.mk · _) (Word.relocate_eq _ _)

end Image

end ImageLoader
