import ImageLoader.Elf.Header
import ImageLoader.Elf.Program
import ImageLoader.Elf.Section
/-! A parsed ELF64 file: the header, both header tables and the table of section names. Named
sections come in table order; the load range is the hull of the loadable entries. -/

namespace ImageLoader.Elf

structure File where
  data : Bytes
  header : Header
  programs : List ProgramHeader
  sections : List SectionHeader
  names : Bytes
  deriving DecidableEq, Repr

structure NamedSection where
  name : String
  header : SectionHeader
  deriving DecidableEq, Repr

/-- The entries of a header table. An empty table has none, wherever it is said to be; the entries of
another may be larger than `entry`, never smaller. -/
def table (data : Bytes) (part : Part) (entry : Nat) (offset : UInt64) (count entsize : UInt16) :
    Except Error (List Bytes) :=
  if count = 0 then .ok []
  else if entsize.toNat < entry then .error (.bufferTooSmall entry entsize.toNat)
  else do
    let bytes ← window data part offset (entsize.toNat * count.toNat)
    .ok (bytes.pieces entsize.toNat count.toNat)

/-- The string table that holds the section names; empty if none is designated. -/
def nameTable (data : Bytes) (index : UInt16) (sections : List SectionHeader) :
    Except Error Bytes :=
  if index = 0 then .ok []
  else match sections[index.toNat]? with
    | some s => window data .stringTable s.offset s.size.toNat
    | none => .ok []

namespace File

def parse (data : Bytes) : Except Error File := do
  let header ← Header.parse data
  header.checkMachine
  let programs ← table data .programTable ProgramHeader.size header.phoff header.phnum header.phentsize
  let programs ← programs.mapM ProgramHeader.parse
  let sections ← table data .sectionTable SectionHeader.entrySize header.shoff header.shnum
    header.shentsize
  let sections ← sections.mapM SectionHeader.parse
  let names ← nameTable data header.shstrndx sections
  .ok ⟨data, header, programs, sections, names⟩

/-- The section under its name, unless the name is empty or unreadable. -/
def named? (f : File) (s : SectionHeader) : Option NamedSection :=
  match readString f.names s.name with
  | .ok name => if name.isEmpty then none else some ⟨name, s⟩
  | .error _ => none

def namedSections (f : File) : List NamedSection := f.sections.filterMap f.named?

def sectionByName? (f : File) (name : String) : Option NamedSection :=
  f.namedSections.find? (·.name = name)

def sectionData (f : File) (s : SectionHeader) : Except Error Bytes :=
  if s.type = .nobits then .ok []
  else window f.data .sectionBytes s.offset s.size.toNat

def loads (f : File) : List ProgramHeader := f.programs.filter (·.isLoad)

/-- The link-time addresses from the least start to the greatest end of the loadable entries. -/
def loadRange? (f : File) : Option AddrRange :=
  match f.loads with
  | [] => none
  | first :: rest =>
    some (rest.foldl (fun r h => ⟨min r.start h.vaddr, max r.stop h.stop⟩)
      ⟨first.vaddr, first.stop⟩)

end File

end ImageLoader.Elf
