import ImageLoader.Proofs.Elf.RoundTrip
/-! Files that were cut off. Every length is tested against the bytes that are there, and nothing is read up
to the end of the file; so bytes that are added behind an accepted file change nothing of what was read
from it. A file that was cut off is refused, or it is read as the whole is. -/

namespace ImageLoader

theorem Bytes.window?_append {b part : Bytes} {start len : Nat} (h : b.window? start len = some part)
    (more : Bytes) : (b ++ more).window? start len = some part := by
  rw [window?, Option.ite_none_right_eq_some] at h ⊢
  obtain ⟨inside, e⟩ := h
  refine ⟨?_, ?_⟩
  · rw [List.length_append]
    omega
  · rw [← e, List.drop_append_of_le_length (by omega), List.take_append_of_le_length]
    rw [List.length_drop]
    omega

namespace Elf

section

variable {α β : Type}

theorem bind_eq_ok {x : Except Error α} {f : α → Except Error β} {b : β} :
    (x >>= f) = .ok b ↔ ∃ a, x = .ok a ∧ f a = .ok b := by
  cases x <;> simp [bind, Except.bind]

end

variable {d : Bytes}

theorem window_append {part : Part} {offset : UInt64} {size : Nat} {b : Bytes}
    (h : window d part offset size = .ok b) (x : Bytes) : window (d ++ x) part offset size = .ok b := by
  unfold window at h ⊢
  cases found : d.window? offset.toNat size with
  | none =>
    rw [found] at h
    cases h
  | some part =>
    rw [found] at h
    rw [Bytes.window?_append found x]
    exact h

theorem Header.ofBytes_append (long : 64 ≤ d.length) (x : Bytes) : ofBytes (d ++ x) = ofBytes d := by
  have ident : (d ++ x).take 16 = d.take 16 := List.take_append_of_le_length (by omega)
  simp (disch := omega) only [ofBytes, ident, Bytes.u16, Bytes.u32, Bytes.u64, Bytes.field_append_left]

theorem Header.parse_longer {h : Header} (parsed : Header.parse d = .ok h) (x : Bytes) :
    Header.parse (d ++ x) = .ok h := by
  unfold Header.parse at parsed ⊢
  rw [Header.size] at parsed ⊢
  by_cases short : d.length < 64
  · rw [if_pos short] at parsed
    cases parsed
  · -- the first six bytes, by which the file is known, are those of the shorter string
    have long : 64 ≤ d.length := by omega
    have marked : (d ++ x).take 4 = d.take 4 := List.take_append_of_le_length (by omega)
    have same {i : Nat} (h : i < 64) : (d ++ x).getD i 0 = d.getD i 0 := by
      rw [List.getD_eq_getElem?_getD, List.getElem?_append_left (by omega), List.getD_eq_getElem?_getD]
    rw [if_neg short] at parsed
    rw [if_neg (by rw [List.length_append]; omega), marked, same (by omega), same (by omega),
      ofBytes_append long]
    exact parsed

theorem table_append {part : Part} {entry : Nat} {offset : UInt64} {count entsize : UInt16}
    {bs : List Bytes} (h : table d part entry offset count entsize = .ok bs) (x : Bytes) :
    table (d ++ x) part entry offset count entsize = .ok bs := by
  unfold table at h ⊢
  split
  · next empty => rwa [if_pos empty] at h
  · next some =>
    rw [if_neg some] at h
    split
    · next small => rwa [if_pos small] at h
    · next large =>
      rw [if_neg large] at h
      obtain ⟨bytes, there, h⟩ := bind_eq_ok.1 h
      exact bind_eq_ok.2 ⟨bytes, window_append there x, h⟩

theorem nameTable_append {index : UInt16} {sections : List SectionHeader} {names : Bytes}
    (h : nameTable d index sections = .ok names) (x : Bytes) :
    nameTable (d ++ x) index sections = .ok names := by
  unfold nameTable at h ⊢
  split
  · next unnamed => rwa [if_pos unnamed] at h
  · next named =>
    rw [if_neg named] at h
    cases entry : sections[index.toNat]? with
    | none =>
      rw [entry] at h
      exact h
    | some s =>
      rw [entry] at h
      exact window_append h x

namespace File

theorem sectionData_append {f : File} {s : SectionHeader} {b : Bytes} (h : f.sectionData s = .ok b)
    (x : Bytes) : { f with data := f.data ++ x }.sectionData s = .ok b := by
  unfold sectionData at h ⊢
  split
  · next empty => rwa [if_pos empty] at h
  · next stored =>
    rw [if_neg stored] at h
    exact window_append h x

theorem parse_eq_ok_append {f : File} (parsed : parse d = .ok f) (x : Bytes) :
    parse (d ++ x) = .ok { f with data := f.data ++ x } := by
  obtain ⟨header, read, parsed⟩ := bind_eq_ok.1 parsed
  obtain ⟨_, described, parsed⟩ := bind_eq_ok.1 parsed
  obtain ⟨_, programTable, parsed⟩ := bind_eq_ok.1 parsed
  obtain ⟨programs, programsRead, parsed⟩ := bind_eq_ok.1 parsed
  obtain ⟨_, sectionTable, parsed⟩ := bind_eq_ok.1 parsed
  obtain ⟨sections, sectionsRead, parsed⟩ := bind_eq_ok.1 parsed
  obtain ⟨names, named, parsed⟩ := bind_eq_ok.1 parsed
  cases parsed
  apply bind_eq_ok.2 ⟨header, Header.parse_longer read x, ?_⟩
  apply bind_eq_ok.2 ⟨_, described, ?_⟩
  apply bind_eq_ok.2 ⟨_, table_append programTable x, ?_⟩
  apply bind_eq_ok.2 ⟨programs, programsRead, ?_⟩
  apply bind_eq_ok.2 ⟨_, table_append sectionTable x, ?_⟩
  apply bind_eq_ok.2 ⟨sections, sectionsRead, ?_⟩
  exact bind_eq_ok.2 ⟨names, nameTable_append named x, rfl⟩

/-- All that is read from `f` is read from `g` too; the contents of a section may be there only. -/
structure Agrees (f g : File) : Prop where
  header : g.header = f.header
  programs : g.programs = f.programs
  sections : g.sections = f.sections
  namedSections : g.namedSections = f.namedSections
  loadRange : g.loadRange? = f.loadRange?
  contents : ∀ s b, f.sectionData s = .ok b → g.sectionData s = .ok b

end File

/-- Bytes that are added behind an accepted file leave it accepted and read as before; so a file that is cut
off is refused, or both it and the whole are accepted and agree. -/
theorem parse_append :
    (∀ (d x : Bytes) (f : File), File.parse d = .ok f →
      ∃ g, File.parse (d ++ x) = .ok g ∧ f.Agrees g) ∧
    ∀ start whole : Bytes, start <+: whole → (∃ e, File.parse start = .error e) ∨
      ∃ f g, File.parse start = .ok f ∧ File.parse whole = .ok g ∧ f.Agrees g := by
  have appended (d x : Bytes) (f : File) (parsed : File.parse d = .ok f) :
      ∃ g, File.parse (d ++ x) = .ok g ∧ f.Agrees g := by
    refine ⟨_, File.parse_eq_ok_append parsed x, rfl, rfl, rfl, rfl, rfl, ?_⟩
    intro s b h
    exact File.sectionData_append h x
  refine ⟨appended, ?_⟩
  intro start whole ⟨x, e⟩
  cases parsed : File.parse start with
  | error cause => exact .inl ⟨cause, rfl⟩
  | ok f =>
    obtain ⟨g, parsed', agrees⟩ := appended start x f parsed
    exact .inr ⟨f, g, rfl, e ▸ parsed', agrees⟩

/-- Two more bytes behind the file change nothing; its first 200 bytes end before its section table. -/
theorem parse_append_mixedDraft :
    (∃ f g, File.parse mixedDraft.toBytes = .ok f ∧ File.parse (mixedDraft.toBytes ++ [0x7f, 0x45]) = .ok g ∧
      f.Agrees g ∧ g.namedSections.map (·.name) = ["données,été", ".bss", ".shstrtab"] ∧
      ∃ n, g.namedSections[0]? = some n ∧ g.sectionData n.header = .ok [1, 2, 3]) ∧
    ∃ e, File.parse (mixedDraft.toBytes.take 200) = .error e := by
  obtain ⟨appended, cut⟩ := parse_append
  constructor
  · obtain ⟨g, parsed, agrees⟩ := appended mixedDraft.toBytes [0x7f, 0x45] _ fits_mixedDraft.parse_eq
    refine ⟨_, g, fits_mixedDraft.parse_eq, parsed, agrees, ?_, ?_⟩
    · rw [agrees.namedSections]
      decide +kernel
    · have first : ((contents mixedDraft.toBytes).namedSections.map fun n =>
          (contents mixedDraft.toBytes).sectionData n.header)[0]? = some (.ok [1, 2, 3]) := by decide +kernel
      rw [List.getElem?_map, Option.map_eq_some_iff] at first
      obtain ⟨n, there, data⟩ := first
      refine ⟨n, ?_, agrees.contents _ _ data⟩
      rw [agrees.namedSections]
      exact there
  · rcases cut _ _ (List.take_prefix 200 mixedDraft.toBytes) with refused | ⟨f, g, parsed, -⟩
    · exact refused
    · have fails : (File.parse (mixedDraft.toBytes.take 200)).isOk = false := by decide +kernel
      rw [parsed] at fails
      cases fails

end Elf

end ImageLoader
