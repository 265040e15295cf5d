import ImageLoader.Elf.Header
import ImageLoader.Elf.Program
import ImageLoader.Elf.Section
/-! Writing small ELF64 files: the file header, loadable program headers, the section contents on
8-byte boundaries, the section names and the section table, in this order. -/

namespace ImageLoader.Elf

structure DraftSection where
  name : String
  addr : UInt64
  type : SectionType
  bytes : Bytes
  size : UInt64
  deriving DecidableEq, Repr

namespace DraftSection

def data (name : String) (addr : UInt64) (bytes : Bytes) : DraftSection :=
  ⟨name, addr, .progbits, bytes, UInt64.ofNat bytes.length⟩

/-- A section that takes `size` bytes of memory and none of the file. -/
def zeroed (name : String) (addr size : UInt64) : DraftSection :=
  ⟨name, addr, .nobits, [], size⟩

end DraftSection

structure Draft where
  type : FileType := .dyn
  machine : Machine := .x86_64
  loads : List (UInt64 × UInt64) := []
  sections : List DraftSection := []
  deriving DecidableEq, Repr

namespace Draft

/-- One loadable, writable segment, placed in the file where it is placed in memory. -/
def loadEntry (vaddr memsz : UInt64) : Bytes :=
  .of32 1 ++ .of32 6 ++ .of64 vaddr ++ .of64 vaddr ++ .of64 vaddr ++ .of64 memsz ++ .of64 memsz ++
    .of64 0x1000

def programTable (d : Draft) : Bytes := d.loads.flatMap fun l => loadEntry l.1 l.2

/-- The zeros that bring offset `n` to an 8-byte boundary. -/
def padding (n : Nat) : Bytes := List.replicate ((8 - n % 8) % 8) 0

/-- The section contents from offset `start` on, with the offset of each. -/
def contents : (start : Nat) → List DraftSection → Bytes × List Nat
  | _, [] => ([], [])
  | start, s :: rest =>
    let offset := start + (padding start).length
    let (bytes, offsets) := contents (offset + s.bytes.length) rest
    (padding start ++ s.bytes ++ bytes, offset :: offsets)

/-- The names from index `start` on, each ended by NUL, with the index of each. -/
def names : (start : Nat) → List String → Bytes × List Nat
  | _, [] => ([], [])
  | start, n :: rest =>
    let text := Bytes.ofText n ++ [0]
    let (bytes, indices) := names (start + text.length) rest
    (text ++ bytes, start :: indices)

def sectionEntry (s : DraftSection) (offset name : Nat) : SectionHeader where
  name := UInt32.ofNat name
  type := s.type
  flags := SectionHeader.allocFlag
  addr := s.addr
  offset := UInt64.ofNat offset
  size := s.size
  link := 0
  info := 0
  addralign := 8
  entsize := 0

def nameTableEntry (name offset size : Nat) : SectionHeader where
  name := UInt32.ofNat name
  type := .strtab
  flags := 0
  addr := 0
  offset := UInt64.ofNat offset
  size := UInt64.ofNat size
  link := 0
  info := 0
  addralign := 8
  entsize := 0

def header (d : Draft) (shoff : Nat) : Bytes :=
  let shnum := UInt16.ofNat (d.sections.length + 2)
  magic ++ [2, 1, 1] ++ List.replicate 9 0 ++ .of16 d.type.toRaw ++ .of16 d.machine.toRaw ++
    .of32 1 ++ .of64 0 ++ .of64 64 ++ .of64 (UInt64.ofNat shoff) ++ .of32 0 ++ .of16 64 ++
    .of16 56 ++ .of16 (UInt16.ofNat d.loads.length) ++ .of16 64 ++ .of16 shnum ++ .of16 (shnum - 1)

def toBytes (d : Draft) : Bytes :=
  let programs := d.programTable
  let start := Header.size + programs.length
  let (contents, offsets) := contents start d.sections
  let (listed, indices) := names 1 (d.sections.map (·.name))
  let nameTable := 0 :: listed ++ Bytes.ofText ".shstrtab" ++ [0]
  let namesAt := start + contents.length
  let stop := namesAt + nameTable.length
  let entries := d.sections.zip (offsets.zip indices) |>.map fun (s, o, n) => sectionEntry s o n
  let last := nameTableEntry (1 + listed.length) namesAt nameTable.length
  d.header (stop + (padding stop).length) ++ programs ++ contents ++ nameTable ++ padding stop ++
    List.replicate SectionHeader.entrySize 0 ++
    (entries ++ [last]).flatMap SectionHeader.toBytes

end Draft

end ImageLoader.Elf
