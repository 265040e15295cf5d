import ImageLoader.Proofs.Elf.Layout
/-! Reading undoes writing: the reader accepts what is written from a draft that its numbers can say, and
finds the loads, the names and the contents that were put there. -/

namespace ImageLoader.Elf

open Bytes

/-- A section that was made in one of the two ways there are. -/
inductive DraftSection.Built : DraftSection → Prop
  | data (name : String) (addr : UInt64) (bytes : Bytes) : Built (.data name addr bytes)
  | zeroed (name : String) (addr size : UInt64) : Built (.zeroed name addr size)

theorem DraftSection.built_iff {s : DraftSection} :
    s.Built ↔ s = .data s.name s.addr s.bytes ∨ s = .zeroed s.name s.addr s.size := by
  constructor
  · intro built
    induction built with
    | data => exact .inl rfl
    | zeroed => exact .inr rfl
  · rintro (e | e)
    · exact e ▸ .data _ _ _
    · exact e ▸ .zeroed _ _ _

instance (s : DraftSection) : Decidable s.Built := decidable_of_iff' _ DraftSection.built_iff

/-- What the numbers of the format can say. The last bound is met by all that a machine can hold. -/
structure Draft.Fits (d : Draft) : Prop where
  machine : d.machine.toRaw = 62 ∨ d.machine.toRaw = 183
  loads : d.loads.length ≤ 65535
  sections : d.sections.length ≤ 65533
  built : ∀ s ∈ d.sections, s.Built
  named : ∀ s ∈ d.sections, s.name ≠ "" ∧ '\x00' ∉ s.name.toList
  names : d.nameTable.length < 2 ^ 32
  size : d.toBytes.length < 2 ^ 64

instance (d : Draft) : Decidable d.Fits :=
  decidable_of_iff (_ ∧ _ ∧ _ ∧ _ ∧ _ ∧ _ ∧ _)
    ⟨fun ⟨machine, loads, sections, built, named, names, size⟩ =>
      ⟨machine, loads, sections, built, named, names, size⟩,
    fun h => ⟨h.machine, h.loads, h.sections, h.built, h.named, h.names, h.size⟩⟩

theorem HeaderTable.entries_eq_pieces (t : HeaderTable) (d : Bytes) :
    t.entries d = pieces t.entsize t.count (d.drop t.offset) := by
  rw [pieces_eq, entries]
  refine List.map_congr_left fun k _ => ?_
  rw [List.drop_drop, place]

/-- A text that holds no NUL is read back to its end. -/
theorem readString_of_hasAt {table : Bytes} {i : Nat} {s : String} (h : HasAt table i (ofText s ++ [0]))
    (small : i < 2 ^ 32) (whole : '\x00' ∉ s.toList) : readString table (UInt32.ofNat i) = .ok s := by
  obtain ⟨after, there⟩ := h.drop_eq
  have index : (UInt32.ofNat i).toNat = i := UInt32.toNat_ofNat_of_lt' small
  have text : (ofText s ++ 0 :: after).takeWhile (· ≠ 0) = ofText s := by
    have clean : ∀ x ∈ ofText s, decide (x ≠ 0) := by
      intro x hx
      simp only [decide_eq_true_eq]
      rintro rfl
      exact zero_notMem_ofText whole hx
    rw [List.takeWhile_append_of_pos clean, List.takeWhile_cons_of_neg (by simp), List.append_nil]
  have shape : table.drop i = ofText s ++ 0 :: after := by
    rw [there, List.append_assoc, List.singleton_append]
  simp only [readString, index, shape, text, text?_ofText]
  rw [if_pos (by simp)]

namespace Draft.Fits

variable {d : Draft} (h : d.Fits)
include h

theorem tableAt_lt : d.tableAt < 2 ^ 64 := by
  have inside := d.hasAt_sectionTable.le_length
  have := h.size
  omega

theorem count_lt : d.sections.length + 2 < 2 ^ 16 := by
  have := h.sections
  omega

theorem ofPrograms_eq :
    HeaderTable.ofPrograms d.toBytes = ⟨.programTable, 56, 64, d.loads.length, 56⟩ := by
  have count := UInt16.toNat_ofNat_of_lt' (n := d.loads.length) (Nat.lt_succ_of_le h.loads)
  rw [HeaderTable.ofPrograms_eq d.length_toBytes_ge, ofBytes_toBytes]
  simp [count, ProgramHeader.size]

theorem ofSections_eq :
    HeaderTable.ofSections d.toBytes = ⟨.sectionTable, 64, d.tableAt, d.sections.length + 2, 64⟩ := by
  have count := UInt16.toNat_ofNat_of_lt' h.count_lt
  have place := UInt64.toNat_ofNat_of_lt' h.tableAt_lt
  rw [HeaderTable.ofSections_eq d.length_toBytes_ge, ofBytes_toBytes]
  simp only [count, place, SectionHeader.entrySize]
  rfl

theorem programs_eq :
    (Elf.contents d.toBytes).programs = d.loads.map fun l =>
      ⟨.load, 6, l.1, l.1, l.1, l.2, l.2, 0x1000⟩ := by
  obtain ⟨after, there⟩ := d.hasAt_programTable.drop_eq
  have cut : (HeaderTable.ofPrograms d.toBytes).entries d.toBytes =
      d.loads.map fun l => loadEntry l.1 l.2 := by
    rw [HeaderTable.entries_eq_pieces, h.ofPrograms_eq, there]
    exact pieces_flatMap (fun l _ => length_loadEntry l.1 l.2) after
  simp only [Elf.contents, cut, List.map_map]
  exact List.map_congr_left fun l _ => ofBytes_loadEntry l.1 l.2

theorem ofRaw_toRaw_type {s : SectionHeader} (hs : s ∈ d.sectionTable) : .ofRaw s.type.toRaw = s.type := by
  simp only [sectionTable, List.cons_append, List.mem_cons, List.mem_append, List.mem_map,
    List.not_mem_nil, or_false] at hs
  obtain rfl | ⟨x, hx, rfl⟩ | rfl := hs
  · rfl
  · have listed : x.1 ∈ d.sections := (List.of_mem_zip hx).1
    have built := h.built _ listed
    simp only [sectionEntry]
    generalize x.1 = s at built
    induction built with
    | data => rfl
    | zeroed => rfl
  · rfl

/-- The section table is read back as it was written, as its types are known ones. -/
theorem sections_eq : (Elf.contents d.toBytes).sections = d.sectionTable := by
  obtain ⟨after, there⟩ := d.hasAt_sectionTable.drop_eq
  have cut : (HeaderTable.ofSections d.toBytes).entries d.toBytes =
      d.sectionTable.map SectionHeader.toBytes := by
    rw [HeaderTable.entries_eq_pieces, h.ofSections_eq, there, ← d.length_sectionTable]
    exact pieces_flatMap (fun s _ => s.length_toBytes) after
  simp only [Elf.contents, cut, List.map_map]
  rw [List.map_congr_left (g := id), List.map_id]
  intro s hs
  rw [Function.comp, SectionHeader.ofBytes_toBytes, h.ofRaw_toRaw_type hs]
  rfl

theorem nameIndex_eq : nameIndex? d.toBytes = some (d.sections.length + 1) := by
  have long := d.length_toBytes_ge
  have count : number d.toBytes 60 2 = d.sections.length + 2 := by
    have table := h.ofSections_eq
    rw [HeaderTable.ofSections, HeaderTable.mk.injEq] at table
    exact table.2.2.2.1
  have index : number d.toBytes 62 2 = d.sections.length + 1 := by
    have field := congrArg Header.shstrndx d.ofBytes_toBytes
    have one : UInt16.ofNat (d.sections.length + 2) - 1 = UInt16.ofNat (d.sections.length + 1) := by
      rw [Nat.add_succ, Nat.succ_eq_add_one, UInt16.ofNat_add]
      exact UInt16.add_sub_cancel _ 1
    simp only [Header.ofBytes] at field
    rw [number_u16 (by omega), field, one, UInt16.toNat_ofNat_of_lt' (Nat.lt_of_succ_lt h.count_lt)]
  rw [nameIndex?, count, index, if_neg (by omega)]

theorem headerConditions_hold : ∀ c ∈ headerConditions d.toBytes, c.holds := by
  have long := d.length_toBytes_ge
  have machine : number d.toBytes 18 2 = d.machine.toRaw.toNat := by
    have field := congrArg Header.machine d.ofBytes_toBytes
    simp only [Header.ofBytes] at field
    rw [number_u16 (by omega), ← Machine.toRaw_ofRaw (d.toBytes.u16 18), field, Machine.toRaw_ofRaw]
  have ident := congrArg Header.ident d.ofBytes_toBytes
  simp only [Header.ofBytes] at ident
  have shape : d.toBytes = Draft.ident ++ d.toBytes.drop 16 := by rw [← ident, List.take_append_drop]
  simp only [headerConditions, List.forall_mem_cons]
  refine ⟨decide_eq_true long, ?_, ?_, ?_, ?_, by simp⟩
  · rw [shape]
    rfl
  · rw [shape]
    rfl
  · rw [shape]
    rfl
  · rw [machine]
    obtain raw | raw := h.machine <;> simp [raw]

theorem ofPrograms_holds :
    ∀ c ∈ (HeaderTable.ofPrograms d.toBytes).conditions d.toBytes.length, c.holds := by
  have inside := d.hasAt_programTable.le_length
  have size : d.programTable.length = 56 * d.loads.length := by
    simp [programTable, List.length_flatMap, length_loadEntry, Nat.mul_comm]
  rw [size] at inside
  simp [HeaderTable.conditions, h.ofPrograms_eq, inside]

theorem ofSections_holds :
    ∀ c ∈ (HeaderTable.ofSections d.toBytes).conditions d.toBytes.length, c.holds := by
  have inside := d.hasAt_sectionTable.le_length
  have size : (d.sectionTable.flatMap SectionHeader.toBytes).length = 64 * (d.sections.length + 2) := by
    simp [List.length_flatMap, SectionHeader.length_toBytes, d.length_sectionTable, Nat.mul_comm]
  rw [size] at inside
  simp [HeaderTable.conditions, h.ofSections_eq, inside]

/-- What the header table says of the names is what was written of them. -/
theorem names_place :
    number d.toBytes ((HeaderTable.ofSections d.toBytes).place (d.sections.length + 1) + 24) 8 =
        d.namesAt ∧
      number d.toBytes ((HeaderTable.ofSections d.toBytes).place (d.sections.length + 1) + 32) 8 =
        d.nameTable.length := by
  have inside := d.hasAt_nameTable.le_length
  have size := h.size
  obtain ⟨s, entry, offset, length⟩ := nameIndex?_eq_some h.ofSections_holds h.nameIndex_eq
  have last : s = d.lastEntry := by
    have before : (nullEntry :: d.placed.map fun x => sectionEntry x.1 x.2.1 x.2.2).length =
        d.sections.length + 1 := by
      have same := congrArg List.length d.map_fst_placed
      simpa using same
    rw [h.sections_eq, sectionTable, ← before, List.getElem?_concat_length] at entry
    exact (Option.some.inj entry).symm
  rw [offset, length, last]
  exact ⟨UInt64.toNat_ofNat_of_lt' (Nat.lt_of_le_of_lt (by omega) size),
    UInt64.toNat_ofNat_of_lt' (Nat.lt_of_le_of_lt (by omega) size)⟩

theorem nameConditions_hold : ∀ c ∈ nameConditions d.toBytes, c.holds := by
  obtain ⟨offset, length⟩ := h.names_place
  have inside := d.hasAt_nameTable.le_length
  simp only [nameConditions, h.nameIndex_eq, offset, length, List.forall_mem_singleton]
  exact decide_eq_true inside

theorem nameBytes_eq : nameBytes d.toBytes = d.nameTable := by
  obtain ⟨offset, length⟩ := h.names_place
  simp only [nameBytes, h.nameIndex_eq, offset, length]
  exact d.hasAt_nameTable.take_drop

theorem parse_eq : File.parse d.toBytes = .ok (Elf.contents d.toBytes) := by
  rw [parse_eq_answer, answer_eq_ok_iff]
  refine ⟨?_, rfl⟩
  simp only [conditions, List.forall_mem_append]
  exact ⟨⟨⟨h.headerConditions_hold, h.ofPrograms_holds⟩, h.ofSections_holds⟩, h.nameConditions_hold⟩

/-- An index is read as the name that stands there; the empty name names nothing. -/
theorem named?_of_hasAt {s : SectionHeader} {i : Nat} {name : String} (index : s.name = UInt32.ofNat i)
    (there : HasAt d.nameTable i (ofText name ++ [0])) (whole : '\x00' ∉ name.toList) :
    (Elf.contents d.toBytes).named? s = if name = "" then none else some ⟨name, s⟩ := by
  have inside := there.le_length
  rw [List.length_append, List.length_singleton] at inside
  have small : i < 2 ^ 32 := by
    have := h.names
    omega
  have names : (Elf.contents d.toBytes).names = d.nameTable := by rw [Elf.contents, h.nameBytes_eq]
  rw [File.named?, names, index, readString_of_hasAt there small whole]
  simp

theorem namedSections_eq :
    (Elf.contents d.toBytes).namedSections =
      d.placed.map (fun x => ⟨x.1.name, sectionEntry x.1 x.2.1 x.2.2⟩) ++ [⟨".shstrtab", d.lastEntry⟩] := by
  have first : (Elf.contents d.toBytes).named? nullEntry = none :=
    (h.named?_of_hasAt rfl d.hasAt_noName (by decide)).trans (if_pos rfl)
  have last : (Elf.contents d.toBytes).named? d.lastEntry = some ⟨".shstrtab", d.lastEntry⟩ :=
    (h.named?_of_hasAt rfl d.hasAt_lastName (by decide)).trans (if_neg (by decide))
  have others : ∀ x ∈ d.placed, (Elf.contents d.toBytes).named? (sectionEntry x.1 x.2.1 x.2.2) =
      some ⟨x.1.name, sectionEntry x.1 x.2.1 x.2.2⟩ := by
    intro x hx
    obtain ⟨some_name, whole⟩ := h.named _ (List.of_mem_zip hx).1
    rw [h.named?_of_hasAt rfl (hasAt_of_mem_placed hx).2 whole, if_neg some_name]
  have listed : (d.placed.map fun x => sectionEntry x.1 x.2.1 x.2.2).filterMap
      (Elf.contents d.toBytes).named? = d.placed.map fun x =>
        ⟨x.1.name, sectionEntry x.1 x.2.1 x.2.2⟩ := by
    rw [List.filterMap_map, ← List.filterMap_eq_map]
    exact List.filterMap_congr others
  rw [File.namedSections, h.sections_eq, sectionTable, List.filterMap_append, List.filterMap_cons, first,
    listed, List.filterMap_cons, last, List.filterMap_nil]

theorem sectionData_of_hasAt {s : SectionHeader} {i : Nat} {bytes : Bytes}
    (there : HasAt d.toBytes i bytes) (offset : s.offset = UInt64.ofNat i)
    (size : s.size = UInt64.ofNat bytes.length) (stored : s.type ≠ .nobits) :
    (Elf.contents d.toBytes).sectionData s = .ok bytes := by
  have inside := there.le_length
  have bound := h.size
  have place : s.offset.toNat = i := by
    rw [offset]
    exact UInt64.toNat_ofNat_of_lt' (Nat.lt_of_le_of_lt (by omega) bound)
  have length : s.size.toNat = bytes.length := by
    rw [size]
    exact UInt64.toNat_ofNat_of_lt' (Nat.lt_of_le_of_lt (by omega) bound)
  have found : window? d.toBytes i bytes.length = some bytes := by
    rw [window?, if_pos inside, there.take_drop]
  rw [File.sectionData, if_neg stored, window, place, length, Elf.contents]
  simp only [found]

theorem sectionData_placed {x : DraftSection × Nat × Nat} (hx : x ∈ d.placed) :
    (Elf.contents d.toBytes).sectionData (sectionEntry x.1 x.2.1 x.2.2) = .ok x.1.bytes := by
  have there := (hasAt_of_mem_placed hx).1
  have built := h.built _ (List.of_mem_zip hx).1
  obtain ⟨s, offset, name⟩ := x
  dsimp only at there built ⊢
  induction built with
  | data => exact h.sectionData_of_hasAt there rfl rfl (by simp [sectionEntry, DraftSection.data])
  | zeroed => rfl

end Draft.Fits

/-- Reading a written file gives the draft back: its type and machine, a loadable entry for each load, and
each section with its name and its bytes, the name table last. -/
theorem parse_toBytes (d : Draft) (h : d.Fits) :
    ∃ f, File.parse d.toBytes = .ok f ∧
      f.header.type.toRaw = d.type.toRaw ∧ f.header.machine.toRaw = d.machine.toRaw ∧
      f.programs = d.loads.map (fun l => ⟨.load, 6, l.1, l.1, l.1, l.2, l.2, 0x1000⟩) ∧
      f.namedSections.map (fun n =>
          (n.name, n.header.type, n.header.addr, n.header.size, f.sectionData n.header)) =
        d.sections.map (fun s => (s.name, s.type, s.addr, s.size, .ok s.bytes)) ++
          [(".shstrtab", .strtab, 0, UInt64.ofNat d.nameTable.length, .ok d.nameTable)] := by
  refine ⟨contents d.toBytes, h.parse_eq, ?_, ?_, h.programs_eq, ?_⟩
  · have field := congrArg Header.type d.ofBytes_toBytes
    rw [contents, field, FileType.toRaw_ofRaw]
  · have field := congrArg Header.machine d.ofBytes_toBytes
    rw [contents, field, Machine.toRaw_ofRaw]
  · have named : ∀ x ∈ d.placed,
        (x.1.name, (Draft.sectionEntry x.1 x.2.1 x.2.2).type, (Draft.sectionEntry x.1 x.2.1 x.2.2).addr,
          (Draft.sectionEntry x.1 x.2.1 x.2.2).size,
          (contents d.toBytes).sectionData (Draft.sectionEntry x.1 x.2.1 x.2.2)) =
        (x.1.name, x.1.type, x.1.addr, x.1.size, .ok x.1.bytes) := by
      intro x hx
      rw [h.sectionData_placed hx]
      rfl
    have table : (contents d.toBytes).sectionData d.lastEntry = .ok d.nameTable :=
      h.sectionData_of_hasAt d.hasAt_nameTable rfl rfl (by simp [Draft.lastEntry, Draft.nameTableEntry])
    rw [h.namedSections_eq, List.map_append, List.map_map]
    rw [← d.map_fst_placed, List.map_map]
    refine congrArg₂ _ (List.map_congr_left named) ?_
    rw [List.map_singleton, table]
    rfl

/-- An executable with two loads, a section whose name takes more bytes than characters and a section
without bytes. -/
def mixedDraft : Draft :=
  ⟨.exec, .aarch64, [(0x1000, 0x200), (0x8000, 0)],
    [.data "données,été" 0x1000 [1, 2, 3], .zeroed ".bss" 0x8000 0x40]⟩

theorem fits_mixedDraft : mixedDraft.Fits := by decide +kernel

theorem parse_toBytes_mixedDraft :
    mixedDraft.Fits ∧ ∃ f, File.parse mixedDraft.toBytes = .ok f ∧
      f.programs.map (fun p => (p.vaddr, p.memsz)) = [(0x1000, 0x200), (0x8000, 0)] ∧
      f.namedSections.map (fun n => (n.name, f.sectionData n.header)) =
        [("données,été", .ok [1, 2, 3]), (".bss", .ok []), (".shstrtab", .ok mixedDraft.nameTable)] := by
  obtain ⟨f, accepted, -, -, programs, sections⟩ := parse_toBytes mixedDraft fits_mixedDraft
  refine ⟨fits_mixedDraft, f, accepted, ?_, ?_⟩
  · rw [programs]
    rfl
  · have shown := congrArg (List.map fun x : String × SectionType × UInt64 × UInt64 × Except Error Bytes =>
      (x.1, x.2.2.2.2)) sections
    rw [List.map_map] at shown
    exact shown

end ImageLoader.Elf
