import ImageLoader.Proofs.Elf.Parse
/-! Where the parts of a written file lie: the header and the program table at its start, then the
contents of the sections, the names and the section table. Each part is found again at the offset that
the header or the section table gives for it. -/

namespace ImageLoader.Elf

open Bytes

theorem SectionHeader.length_toBytes (h : SectionHeader) : h.toBytes.length = 64 := by
  simp [toBytes, of32, of64]

/-- An entry is read back as it was written, up to the ways to write its type. -/
theorem SectionHeader.ofBytes_toBytes (h : SectionHeader) :
    ofBytes h.toBytes = { h with type := .ofRaw h.type.toRaw } := by
  simp [ofBytes, toBytes, of32, of64, u32, u64, field_append_right, field_ofNat_append, field_ofNat]

namespace Draft

theorem length_loadEntry (vaddr memsz : UInt64) : (loadEntry vaddr memsz).length = 56 := by
  simp [loadEntry, of32, of64]

theorem ofBytes_loadEntry (vaddr memsz : UInt64) :
    ProgramHeader.ofBytes (loadEntry vaddr memsz) =
      ⟨.load, 6, vaddr, vaddr, vaddr, memsz, memsz, 0x1000⟩ := by
  simp [ProgramHeader.ofBytes, loadEntry, of32, of64, u32, u64, field_append_right, field_ofNat_append,
    field_ofNat]
  decide

variable (d : Draft)

/-- Where the contents of the sections begin. -/
def start : Nat := Header.size + d.programTable.length

def contentBytes : Bytes := (contents d.start d.sections).1

def offsets : List Nat := (contents d.start d.sections).2

def indices : List Nat := (names 1 (d.sections.map (·.name))).2

/-- The names of the sections, that of the name table last. -/
def nameTable : Bytes := 0 :: (names 1 (d.sections.map (·.name))).1 ++ ofText ".shstrtab" ++ [0]

def namesAt : Nat := d.start + d.contentBytes.length

def tableAt : Nat :=
  d.namesAt + d.nameTable.length + (padding (d.namesAt + d.nameTable.length)).length

def nullEntry : SectionHeader := ⟨0, .null, 0, 0, 0, 0, 0, 0, 0, 0⟩

/-- A section with its offset and the index of its name. -/
def placed : List (DraftSection × Nat × Nat) := d.sections.zip (d.offsets.zip d.indices)

def lastEntry : SectionHeader :=
  nameTableEntry (1 + (names 1 (d.sections.map (·.name))).1.length) d.namesAt d.nameTable.length

def sectionTable : List SectionHeader :=
  nullEntry :: (d.placed.map fun x => sectionEntry x.1 x.2.1 x.2.2) ++ [d.lastEntry]

/-- The file in the order in which it is laid out. -/
def regions : List Bytes :=
  [d.header d.tableAt, d.programTable, d.contentBytes, d.nameTable,
    padding (d.namesAt + d.nameTable.length), d.sectionTable.flatMap SectionHeader.toBytes]

theorem toBytes_eq : d.toBytes = d.regions.flatten := by
  have null : nullEntry.toBytes = List.replicate SectionHeader.entrySize 0 := by decide
  simp only [regions, sectionTable, List.flatten_cons, List.flatten_nil, List.append_nil,
    List.cons_append, List.flatMap_cons, null, ← List.append_assoc]
  rfl

def ident : Bytes := magic ++ [2, 1, 1] ++ List.replicate 9 0

theorem length_ident : ident.length = 16 := by decide

theorem length_header (shoff : Nat) : (d.header shoff).length = 64 := by
  change (ident ++ _ ++ _ ++ _ ++ _ ++ _ ++ _ ++ _ ++ _ ++ _ ++ _ ++ _ ++ _ ++ _).length = 64
  simp [length_ident, of16, of32, of64]

/-- The file header is read back as it was written, up to the ways to write the type and the machine. -/
theorem ofBytes_toBytes :
    Header.ofBytes d.toBytes =
      ⟨ident, .ofRaw d.type.toRaw, .ofRaw d.machine.toRaw, 1, 0, 64, UInt64.ofNat d.tableAt, 0, 64, 56,
        UInt16.ofNat d.loads.length, 64, UInt16.ofNat (d.sections.length + 2),
        UInt16.ofNat (d.sections.length + 2) - 1⟩ := by
  rw [toBytes_eq, regions, List.flatten_cons, header]
  generalize UInt64.ofNat d.tableAt = shoff, UInt16.ofNat d.loads.length = phnum,
    UInt16.ofNat (d.sections.length + 2) = shnum
  change Header.ofBytes (ident ++ _ ++ _ ++ _ ++ _ ++ _ ++ _ ++ _ ++ _ ++ _ ++ _ ++ _ ++ _ ++ _ ++ _) = _
  simp [Header.ofBytes, u16, u32, u64, of16, of32, of64, length_ident, field_append_right,
    field_ofNat_append, List.take_left' length_ident]

theorem hasAt_programTable : HasAt d.toBytes 64 d.programTable := by
  rw [toBytes_eq]
  simpa [regions, length_header] using HasAt.flatten (l := d.regions) (k := 1) rfl

theorem hasAt_contentBytes : HasAt d.toBytes d.start d.contentBytes := by
  rw [toBytes_eq]
  simpa [regions, length_header, start, Header.size] using HasAt.flatten (l := d.regions) (k := 2) rfl

theorem hasAt_nameTable : HasAt d.toBytes d.namesAt d.nameTable := by
  rw [toBytes_eq]
  simpa [regions, length_header, namesAt, start, Header.size, Nat.add_assoc] using
    HasAt.flatten (l := d.regions) (k := 3) rfl

theorem hasAt_sectionTable :
    HasAt d.toBytes d.tableAt (d.sectionTable.flatMap SectionHeader.toBytes) := by
  have there := HasAt.flatten (l := d.regions) (k := 5) rfl
  rw [← toBytes_eq] at there
  simpa [regions, length_header, tableAt, namesAt, start, Header.size, Nat.add_assoc] using there

theorem length_toBytes_ge : 64 ≤ d.toBytes.length := by
  have := d.hasAt_programTable.le_length
  omega

theorem length_contents (start : Nat) (l : List DraftSection) : (contents start l).2.length = l.length := by
  induction l generalizing start with
  | nil => rfl
  | cons s rest ih => simp [contents, ih]

theorem length_names (start : Nat) (l : List String) : (names start l).2.length = l.length := by
  induction l generalizing start with
  | nil => rfl
  | cons n rest ih => simp [names, ih]

theorem contents_hasAt (start : Nat) {k : Nat} {l : List DraftSection} {s : DraftSection} (h : l[k]? = some s) :
    ∃ i, (contents start l).2[k]? = some (start + i) ∧ HasAt (contents start l).1 i s.bytes := by
  induction l generalizing start k with
  | nil => cases h
  | cons first rest ih =>
    cases k with
    | zero =>
      obtain rfl : first = s := by simpa using h
      exact ⟨_, rfl, padding start, _, List.append_assoc .., rfl⟩
    | succ k =>
      obtain ⟨i, offset, there⟩ := ih (start + (padding start).length + first.bytes.length) h
      refine ⟨_, ?_, there.append_left (a := padding start ++ first.bytes)⟩
      rw [contents, List.getElem?_cons_succ, offset, List.length_append]
      simp only [Nat.add_assoc]

theorem names_hasAt (start : Nat) {k : Nat} {l : List String} {n : String} (h : l[k]? = some n) :
    ∃ i, (names start l).2[k]? = some (start + i) ∧ HasAt (names start l).1 i (ofText n ++ [0]) := by
  induction l generalizing start k with
  | nil => cases h
  | cons first rest ih =>
    cases k with
    | zero =>
      obtain rfl : first = n := by simpa using h
      exact ⟨0, rfl, [], _, rfl, rfl⟩
    | succ k =>
      obtain ⟨i, index, there⟩ := ih (start + (ofText first ++ [0]).length) h
      refine ⟨_, ?_, there.append_left (a := ofText first ++ [0])⟩
      rw [names, List.getElem?_cons_succ, index, Nat.add_assoc]

theorem map_fst_placed : d.placed.map (·.1) = d.sections := by
  refine List.map_fst_zip ?_
  simp [offsets, indices, length_contents, length_names]

theorem hasAt_noName : HasAt d.nameTable 0 (ofText "" ++ [0]) := ⟨[], _, rfl, rfl⟩

theorem hasAt_lastName :
    HasAt d.nameTable (1 + (names 1 (d.sections.map (·.name))).1.length) (ofText ".shstrtab" ++ [0]) := by
  refine ⟨0 :: (names 1 (d.sections.map (·.name))).1, [], ?_, ?_⟩
  · rw [nameTable, List.append_nil, List.append_assoc]
  · simp [Nat.add_comm]

theorem length_sectionTable : d.sectionTable.length = d.sections.length + 2 := by
  have same := congrArg List.length d.map_fst_placed
  rw [List.length_map] at same
  simp [sectionTable, same]

variable {d}

/-- The contents and the name of a section stand where its entry says. -/
theorem hasAt_of_mem_placed {x : DraftSection × Nat × Nat} (h : x ∈ d.placed) :
    HasAt d.toBytes x.2.1 x.1.bytes ∧ HasAt d.nameTable x.2.2 (ofText x.1.name ++ [0]) := by
  obtain ⟨k, hk⟩ := List.mem_iff_getElem?.1 h
  obtain ⟨listed, there⟩ := List.getElem?_zip_eq_some.1 hk
  obtain ⟨offset, index⟩ := List.getElem?_zip_eq_some.1 there
  have name : (d.sections.map (·.name))[k]? = some x.1.name := by rw [List.getElem?_map, listed]; rfl
  obtain ⟨i, hi, bytes⟩ := contents_hasAt d.start listed
  obtain ⟨j, hj, text⟩ := names_hasAt 1 name
  have offset : x.2.1 = d.start + i := Option.some.inj (offset.symm.trans hi)
  have index : x.2.2 = 1 + j := Option.some.inj (index.symm.trans hj)
  constructor
  · rw [offset]
    exact d.hasAt_contentBytes.trans bytes
  · rw [index, nameTable]
    exact (text.append_left (a := [0])).append_right.append_right

end Draft

end ImageLoader.Elf
