import ImageLoader.Elf.File
import ImageLoader.Proofs.Bytes
/-! Which byte strings are ELF files to this reader. The conditions stand in a list, each with its error:
a file is accepted if all of them hold, and otherwise the error is that of the first that does not. What
an accepted file holds is said by numbers that are read where all their bytes are there. -/

namespace ImageLoader.Elf

/-- The number in the `width` bytes from `start` on; 0 where they are not all there. -/
def number (d : Bytes) (start width : Nat) : Nat := (Bytes.number? d start width).getD 0

structure Condition where
  holds : Bool
  error : Error

def firstFault (cs : List Condition) : Option Error := (cs.find? (!·.holds)).map (·.error)

@[simp] theorem firstFault_cons (c : Condition) (rest : List Condition) :
    firstFault (c :: rest) = if c.holds then firstFault rest else some c.error := by
  cases h : c.holds <;> simp [firstFault, h]

theorem firstFault_eq_none_iff (cs : List Condition) :
    firstFault cs = none ↔ ∀ c ∈ cs, c.holds := by
  simp [firstFault]

/-- A header table: where it is said to lie, and the size that its entries have at least. -/
structure HeaderTable where
  part : Part
  entry : Nat
  offset : Nat
  count : Nat
  entsize : Nat

namespace HeaderTable

def ofPrograms (d : Bytes) : HeaderTable :=
  ⟨.programTable, 56, number d 32 8, number d 56 2, number d 54 2⟩

def ofSections (d : Bytes) : HeaderTable :=
  ⟨.sectionTable, 64, number d 40 8, number d 60 2, number d 58 2⟩

def place (t : HeaderTable) (k : Nat) : Nat := t.offset + t.entsize * k

/-- An empty table may be anywhere. -/
def conditions (t : HeaderTable) (length : Nat) : List Condition :=
  [⟨t.count = 0 ∨ t.entry ≤ t.entsize, .bufferTooSmall t.entry t.entsize⟩,
    ⟨t.count = 0 ∨ t.offset + t.entsize * t.count ≤ length,
      .invalidOffset t.part (UInt64.ofNat t.offset)⟩]

def entries (t : HeaderTable) (d : Bytes) : List Bytes :=
  (List.range t.count).map fun k => (d.drop (t.place k)).take t.entsize

end HeaderTable

/-- The index of the section that holds the names, if there is one. -/
def nameIndex? (d : Bytes) : Option Nat :=
  if number d 62 2 = 0 ∨ number d 60 2 ≤ number d 62 2 then none else some (number d 62 2)

def nameConditions (d : Bytes) : List Condition :=
  match nameIndex? d with
  | none => []
  | some k =>
    let place := (HeaderTable.ofSections d).place k
    [⟨number d (place + 24) 8 + number d (place + 32) 8 ≤ d.length,
      .invalidOffset .stringTable (UInt64.ofNat (number d (place + 24) 8))⟩]

def headerConditions (d : Bytes) : List Condition :=
  [⟨64 ≤ d.length, .bufferTooSmall 64 d.length⟩,
    ⟨d.take 4 = [0x7f, 0x45, 0x4c, 0x46], .invalidMagic⟩,
    ⟨d.getD 4 0 = 2, .unsupportedClass (d.getD 4 0)⟩,
    ⟨d.getD 5 0 = 1, .unsupportedEncoding (d.getD 5 0)⟩,
    ⟨number d 18 2 = 62 ∨ number d 18 2 = 183, .unsupportedMachine (UInt16.ofNat (number d 18 2))⟩]

/-- What an ELF file has to meet, in the order in which it is checked. -/
def conditions (d : Bytes) : List Condition :=
  headerConditions d ++ (HeaderTable.ofPrograms d).conditions d.length ++
    (HeaderTable.ofSections d).conditions d.length ++ nameConditions d

/-- Where a field of a header lies: its `width` bytes are all in the file, and are its little-endian
digits. -/
def LiesAt (d : Bytes) (place width : Nat) (value : Nat) : Prop :=
  Bytes.number? d place width = some value

/-- The file header `h` is what stands in the first 64 bytes. -/
structure Header.LiesIn (d : Bytes) (h : Header) : Prop where
  ident : Bytes.window? d 0 16 = some h.ident
  type : ∃ raw, LiesAt d 16 2 raw.toNat ∧ h.type = .ofRaw raw
  machine : ∃ raw, LiesAt d 18 2 raw.toNat ∧ h.machine = .ofRaw raw
  version : LiesAt d 20 4 h.version.toNat
  entry : LiesAt d 24 8 h.entry.toNat
  phoff : LiesAt d 32 8 h.phoff.toNat
  shoff : LiesAt d 40 8 h.shoff.toNat
  flags : LiesAt d 48 4 h.flags.toNat
  ehsize : LiesAt d 52 2 h.ehsize.toNat
  phentsize : LiesAt d 54 2 h.phentsize.toNat
  phnum : LiesAt d 56 2 h.phnum.toNat
  shentsize : LiesAt d 58 2 h.shentsize.toNat
  shnum : LiesAt d 60 2 h.shnum.toNat
  shstrndx : LiesAt d 62 2 h.shstrndx.toNat

structure ProgramHeader.LiesFrom (d : Bytes) (place : Nat) (h : ProgramHeader) : Prop where
  type : ∃ raw, LiesAt d place 4 raw.toNat ∧ h.type = .ofRaw raw
  flags : LiesAt d (place + 4) 4 h.flags.toNat
  offset : LiesAt d (place + 8) 8 h.offset.toNat
  vaddr : LiesAt d (place + 16) 8 h.vaddr.toNat
  paddr : LiesAt d (place + 24) 8 h.paddr.toNat
  filesz : LiesAt d (place + 32) 8 h.filesz.toNat
  memsz : LiesAt d (place + 40) 8 h.memsz.toNat
  align : LiesAt d (place + 48) 8 h.align.toNat

structure SectionHeader.LiesFrom (d : Bytes) (place : Nat) (h : SectionHeader) : Prop where
  name : LiesAt d place 4 h.name.toNat
  type : ∃ raw, LiesAt d (place + 4) 4 raw.toNat ∧ h.type = .ofRaw raw
  flags : LiesAt d (place + 8) 8 h.flags.toNat
  addr : LiesAt d (place + 16) 8 h.addr.toNat
  offset : LiesAt d (place + 24) 8 h.offset.toNat
  size : LiesAt d (place + 32) 8 h.size.toNat
  link : LiesAt d (place + 40) 4 h.link.toNat
  info : LiesAt d (place + 44) 4 h.info.toNat
  addralign : LiesAt d (place + 48) 8 h.addralign.toNat
  entsize : LiesAt d (place + 56) 8 h.entsize.toNat

/-- What the parsed file `f` says of the bytes `d`. -/
structure Contents (d : Bytes) (f : File) : Prop where
  data : f.data = d
  header : f.header.LiesIn d
  programCount : f.programs.length = number d 56 2
  programs : ∀ k (h : ProgramHeader), f.programs[k]? = some h →
    h.LiesFrom d ((HeaderTable.ofPrograms d).place k)
  sectionCount : f.sections.length = number d 60 2
  sections : ∀ k (h : SectionHeader), f.sections[k]? = some h →
    h.LiesFrom d ((HeaderTable.ofSections d).place k)
  names : match nameIndex? d with
    | none => f.names = []
    | some k => ∃ h, f.sections[k]? = some h ∧
        Bytes.window? d h.offset.toNat h.size.toNat = some f.names

end ImageLoader.Elf
