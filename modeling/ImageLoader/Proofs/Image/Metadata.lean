import ImageLoader.Proofs.Image.Grouping
/-! Metadata of the image of an ELF file. The info record comes from the first section in table order that is
named for it and has one; others of these names are passed over. Whether there is metadata at all is told by
the names of the sections and by nothing else, as a section that an info record can come from is named like
metadata. -/

namespace ImageLoader

namespace Elf

/-- A section of these names is metadata, whatever it contains. -/
def MetadataNames (segname sectname : String) : Prop :=
  segname = "__OBJC" ∨ segname = "SEG_DATA" ∨ "__objc_".toList <+: sectname.toList

def infoNames : List String := ["__DATA,__objc_imageinfo", "__OBJC,__image_info"]

namespace File

variable {f : File} {s : SectionHeader}

structure HoldsInfo (f : File) (s : SectionHeader) : Prop where
  named : ∃ name ∈ infoNames, (readString f.names s.name).toOption = some name
  stored : s.type ≠ .nobits
  inside : s.offset.toNat + s.size.toNat ≤ f.data.length
  large : 8 ≤ s.size.toNat

instance (f : File) (s : SectionHeader) : Decidable (f.HoldsInfo s) :=
  decidable_of_iff (_ ∧ _ ∧ _ ∧ _) ⟨fun ⟨a, b, c, d⟩ => ⟨a, b, c, d⟩, fun ⟨a, b, c, d⟩ => ⟨a, b, c, d⟩⟩

def infoAt (f : File) (s : SectionHeader) : ImageInfo :=
  ⟨.ofNat (number f.data s.offset.toNat 4), .ofNat (number f.data (s.offset.toNat + 4) 4)⟩

/-- The name of some section, parted at its first comma, is one of metadata. -/
def NamesMetadata (f : File) : Prop :=
  ∃ n ∈ f.namedSections, ∃ segname sectname, n.name = segname ++ "," ++ sectname ∧ ',' ∉ segname.toList ∧
    MetadataNames segname sectname

end File

end Elf

namespace Image

theorem isInfoSection_iff {name segname sectname : String} (h : splitName? name = some (segname, sectname)) :
    isInfoSection segname sectname ↔ name ∈ Elf.infoNames := by
  have modern : splitName? "__DATA,__objc_imageinfo" = some ("__DATA", "__objc_imageinfo") :=
    splitName?_eq_some.2 ⟨rfl, by decide⟩
  have legacy : splitName? "__OBJC,__image_info" = some ("__OBJC", "__image_info") :=
    splitName?_eq_some.2 ⟨rfl, by decide⟩
  simp only [isInfoSection, Bool.or_eq_true, Bool.and_eq_true, decide_eq_true_eq, Elf.infoNames, List.mem_cons,
    List.not_mem_nil, or_false]
  constructor
  · obtain ⟨whole, -⟩ := splitName?_eq_some.1 h
    rintro (⟨rfl, rfl⟩ | ⟨rfl, rfl⟩)
    · exact .inl whole
    · exact .inr whole
  · rintro (rfl | rfl)
    · obtain ⟨rfl, rfl⟩ := Prod.mk.inj (Option.some.inj (modern.symm.trans h))
      exact .inl ⟨rfl, rfl⟩
    · obtain ⟨rfl, rfl⟩ := Prod.mk.inj (Option.some.inj (legacy.symm.trans h))
      exact .inr ⟨rfl, rfl⟩

/-- The record is there where the contents of the section are, and there are enough of them. -/
theorem readInfo?_eq (f : Elf.File) (s : Elf.SectionHeader) :
    readInfo? f s =
      if s.type ≠ .nobits ∧ s.offset.toNat + s.size.toNat ≤ f.data.length ∧ 8 ≤ s.size.toNat then
        some (f.infoAt s)
      else none := by
  rw [readInfo?, Elf.File.sectionData, Elf.window, Bytes.window?]
  by_cases stored : s.type = .nobits
  · rw [if_pos stored, if_neg fun h => h.1 stored]
    rfl
  by_cases inside : s.offset.toNat + s.size.toNat ≤ f.data.length
  · have length := Elf.length_entry inside
    simp only [if_neg stored, if_pos inside, ImageInfo.parse?, ImageInfo.size, length]
    by_cases large : 8 ≤ s.size.toNat
    · have version := Elf.liesAt_u32 inside (i := 0) (by omega)
      have flags := Elf.liesAt_u32 inside (i := 4) (by omega)
      rw [Elf.LiesAt] at version flags
      rw [if_pos large, if_pos ⟨stored, inside, large⟩, Elf.File.infoAt, Elf.number, Elf.number, flags]
      rw [Nat.add_zero] at version
      rw [version]
      simp
    · rw [if_neg large, if_neg fun h => large h.2.2]
  · rw [if_neg stored, if_neg inside, if_neg fun h => inside h.2.1]

def infoOf? (f : Elf.File) (n : Elf.NamedSection) : Option ImageInfo :=
  if n.name ∈ Elf.infoNames then readInfo? f n.header else none

/-- A record that is read counts as long as the image has none. -/
theorem info_addNamed (f : Elf.File) (i : Image) (n : Elf.NamedSection) :
    (addNamed f i n).info = i.info.or (infoOf? f n) := by
  rw [infoOf?]
  rcases h : splitName? n.name with _ | ⟨segname, sectname⟩
  · -- the names of info sections have a comma
    have plain : n.name ∉ Elf.infoNames := by
      intro mem
      have comma := splitName?_eq_none.1 h
      simp only [Elf.infoNames, List.mem_cons, List.not_mem_nil, or_false] at mem
      rcases mem with e | e <;> exact absurd (by rw [e]; decide) comma
    rw [addNamed_of_none f i h, if_neg plain, Option.or_none]
  · have told := isInfoSection_iff h
    rw [addNamed, h]
    dsimp only
    rcases old : i.info with _ | info
    · by_cases named : n.name ∈ Elf.infoNames
      · simp [told.2 named, named, pushSection, old]
      · simp [mt told.1 named, named, pushSection, old]
    · simp [pushSection, old]

theorem info_foldl_addNamed (f : Elf.File) (named : List Elf.NamedSection) (i : Image) :
    (named.foldl (addNamed f) i).info = i.info.or (named.findSome? (infoOf? f)) := by
  induction named generalizing i with
  | nil => simp
  | cons n rest ih =>
    rw [List.foldl_cons, ih, info_addNamed, Option.or_assoc, List.findSome?_cons]
    cases infoOf? f n <;> rfl

theorem bind_infoOf? (f : Elf.File) (s : Elf.SectionHeader) :
    (f.named? s).bind (infoOf? f) = if f.HoldsInfo s then some (f.infoAt s) else none := by
  have holds : f.HoldsInfo s ↔ (∃ name ∈ Elf.infoNames, (Elf.readString f.names s.name).toOption = some name) ∧
      s.type ≠ .nobits ∧ s.offset.toNat + s.size.toNat ≤ f.data.length ∧ 8 ≤ s.size.toNat :=
    ⟨fun h => ⟨h.named, h.stored, h.inside, h.large⟩, fun h => ⟨h.1, h.2.1, h.2.2.1, h.2.2.2⟩⟩
  rw [Elf.File.named?_eq]
  cases read : (Elf.readString f.names s.name).toOption with
  | none => simp [holds, read]
  | some name =>
    by_cases empty : name = ""
    · have unnamed : "" ∉ Elf.infoNames := by decide
      simp [holds, read, empty, unnamed]
    · simp only [Option.bind_some, if_neg empty, infoOf?, readInfo?_eq, holds, read, Option.some.injEq,
        exists_eq_right']
      by_cases named : name ∈ Elf.infoNames <;> simp [named]

theorem info_ofFile (f : Elf.File) (addr : UInt64) (slide : Int64) (path : String) (kind : ImageKind) :
    (ofFile f addr slide path kind).info = (f.sections.find? fun s => f.HoldsInfo s).map f.infoAt := by
  rw [ofFile, info_foldl_addNamed]
  change Option.or none _ = _
  rw [Option.none_or, Elf.File.namedSections, ← List.head?_filterMap, List.filterMap_filterMap,
    List.head?_filterMap, List.find?_eq_findSome?_guard, List.map_findSome?]
  congr 1
  funext s
  rw [bind_infoOf?, Function.comp_apply, Option.guard]
  by_cases holds : f.HoldsInfo s <;> simp [holds]

/-- The record is one kind of metadata; the sections of metadata names are the other. -/
theorem hasMetadata_iff {i : Image} {pushed : List Section} (grouped : Grouped pushed i.segments) :
    i.hasMetadata ↔ i.info.isSome ∨ ∃ s ∈ pushed, Elf.MetadataNames s.segname s.sectname := by
  have named (s : Section) : isMetadataSection s ↔ "__objc_".toList <+: s.sectname.toList :=
    List.isPrefixOf_iff_prefix
  have objc : (i.segment? Name.objcSegment).isSome ↔ ∃ s ∈ pushed, s.segname = "__OBJC" :=
    grouped.isSome_find? _
  have data : (i.segment? Name.dataSegment).isSome ↔ ∃ s ∈ pushed, s.segname = "SEG_DATA" :=
    grouped.isSome_find? _
  have sections := grouped.exists_section fun s => "__objc_".toList <+: s.sectname.toList
  simp only [hasMetadata, Bool.or_eq_true, objc, data, List.any_eq_true, named, sections, Elf.MetadataNames,
    and_or_left, exists_or, or_assoc]

theorem namesMetadata_iff (f : Elf.File) :
    f.NamesMetadata ↔ ∃ s ∈ parted f.namedSections, Elf.MetadataNames s.segname s.sectname := by
  constructor
  · rintro ⟨n, mem, segname, sectname, whole, first, names⟩
    refine ⟨n.under segname sectname, List.mem_filterMap.2 ⟨n, mem, ?_⟩, names⟩
    rw [splitName?_eq_some.2 ⟨whole, first⟩]
    rfl
  · rintro ⟨s, mem, names⟩
    obtain ⟨n, listed, made⟩ := List.mem_filterMap.1 mem
    obtain ⟨⟨segname, sectname⟩, split, rfl⟩ := Option.map_eq_some_iff.1 made
    obtain ⟨whole, first⟩ := splitName?_eq_some.1 split
    exact ⟨n, listed, segname, sectname, whole, first, names⟩

theorem namesMetadata_of_holdsInfo {f : Elf.File} {s : Elf.SectionHeader} (mem : s ∈ f.sections)
    (holds : f.HoldsInfo s) : f.NamesMetadata := by
  obtain ⟨name, listed, read⟩ := holds.named
  -- neither of the names is empty, so the section is among the named ones
  have found : (⟨name, s⟩ : Elf.NamedSection) ∈ f.namedSections := by
    refine List.mem_filterMap.2 ⟨s, mem, ?_⟩
    rw [Elf.File.named?_eq, read, Option.bind_some, if_neg]
    rintro rfl
    exact absurd listed (by decide)
  simp only [Elf.infoNames, List.mem_cons, List.not_mem_nil, or_false] at listed
  rcases listed with rfl | rfl
  · exact ⟨_, found, "__DATA", "__objc_imageinfo", rfl, by decide, .inr (.inr (by decide))⟩
  · exact ⟨_, found, "__OBJC", "__image_info", rfl, by decide, .inl rfl⟩

theorem hasMetadata_ofFile (f : Elf.File) (addr : UInt64) (slide : Int64) (path : String) (kind : ImageKind) :
    (ofFile f addr slide path kind).hasMetadata ↔ f.NamesMetadata := by
  have grouped : Grouped (parted f.namedSections) (ofFile f addr slide path kind).segments := by
    rw [segments_ofFile]
    exact grouped_nil.foldl _
  -- the record adds nothing: a section that has one is named like metadata itself
  rw [hasMetadata_iff grouped, ← namesMetadata_iff, or_iff_right_of_imp]
  rw [info_ofFile, Option.isSome_map, List.find?_isSome]
  rintro ⟨s, mem, holds⟩
  exact namesMetadata_of_holdsInfo mem (of_decide_eq_true holds)

end Image

end ImageLoader
