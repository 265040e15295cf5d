import ImageLoader.Elf.Basic
/-! ELF64 section headers. -/

namespace ImageLoader.Elf

inductive SectionType
  | null
  | progbits
  | symtab
  | strtab
  | rela
  | dynamic
  | note
  | nobits
  | dynsym
  | unknown (raw : UInt32)
  deriving DecidableEq, Repr

namespace SectionType

def ofRaw (raw : UInt32) : SectionType :=
  if raw = 0 then .null
  else if raw = 1 then .progbits
  else if raw = 2 then .symtab
  else if raw = 3 then .strtab
  else if raw = 4 then .rela
  else if raw = 6 then .dynamic
  else if raw = 7 then .note
  else if raw = 8 then .nobits
  else if raw = 11 then .dynsym
  else .unknown raw

def toRaw : SectionType → UInt32
  | .null => 0
  | .progbits => 1
  | .symtab => 2
  | .strtab => 3
  | .rela => 4
  | .dynamic => 6
  | .note => 7
  | .nobits => 8
  | .dynsym => 11
  | .unknown raw => raw

def label : SectionType → String
  | .null => "Null"
  | .progbits => "Progbits"
  | .symtab => "Symtab"
  | .strtab => "Strtab"
  | .rela => "Rela"
  | .dynamic => "Dynamic"
  | .note => "Note"
  | .nobits => "Nobits"
  | .dynsym => "Dynsym"
  | .unknown raw => s!"Unknown({raw.toNat})"

end SectionType

structure SectionHeader where
  name : UInt32
  type : SectionType
  flags : UInt64
  addr : UInt64
  offset : UInt64
  size : UInt64
  link : UInt32
  info : UInt32
  addralign : UInt64
  entsize : UInt64
  deriving DecidableEq, Repr

namespace SectionHeader

/-- The size of one table entry. -/
def entrySize : Nat := 64

/-- The flag of a section that occupies memory when the program runs. -/
def allocFlag : UInt64 := 2

def ofBytes (b : Bytes) : SectionHeader where
  name := b.u32 0
  type := .ofRaw (b.u32 4)
  flags := b.u64 8
  addr := b.u64 16
  offset := b.u64 24
  size := b.u64 32
  link := b.u32 40
  info := b.u32 44
  addralign := b.u64 48
  entsize := b.u64 56

def parse (b : Bytes) : Except Error SectionHeader :=
  if b.length < entrySize then .error (.bufferTooSmall entrySize b.length) else .ok (ofBytes b)

def toBytes (h : SectionHeader) : Bytes :=
  .of32 h.name ++ .of32 h.type.toRaw ++ .of64 h.flags ++ .of64 h.addr ++ .of64 h.offset ++
    .of64 h.size ++ .of32 h.link ++ .of32 h.info ++ .of64 h.addralign ++ .of64 h.entsize

def isAlloc (h : SectionHeader) : Bool := h.flags &&& allocFlag ≠ 0

end SectionHeader

end ImageLoader.Elf
