import ImageLoader.Elf.Basic
/-! ELF64 program headers. -/

namespace ImageLoader.Elf

inductive ProgramType
  | null
  | load
  | dynamic
  | interp
  | note
  | phdr
  | tls
  | gnuEhFrame
  | gnuStack
  | gnuRelro
  | unknown (raw : UInt32)
  deriving DecidableEq, Repr

namespace ProgramType

def ofRaw (raw : UInt32) : ProgramType :=
  if raw = 0 then .null
  else if raw = 1 then .load
  else if raw = 2 then .dynamic
  else if raw = 3 then .interp
  else if raw = 4 then .note
  else if raw = 6 then .phdr
  else if raw = 7 then .tls
  else if raw = 0x6474e550 then .gnuEhFrame
  else if raw = 0x6474e551 then .gnuStack
  else if raw = 0x6474e552 then .gnuRelro
  else .unknown raw

def label : ProgramType → String
  | .null => "Null"
  | .load => "Load"
  | .dynamic => "Dynamic"
  | .interp => "Interp"
  | .note => "Note"
  | .phdr => "Phdr"
  | .tls => "Tls"
  | .gnuEhFrame => "GnuEhFrame"
  | .gnuStack => "GnuStack"
  | .gnuRelro => "GnuRelro"
  | .unknown raw => s!"Unknown({raw.toNat})"

end ProgramType

structure ProgramHeader where
  type : ProgramType
  flags : UInt32
  offset : UInt64
  vaddr : UInt64
  paddr : UInt64
  filesz : UInt64
  memsz : UInt64
  align : UInt64
  deriving DecidableEq, Repr

namespace ProgramHeader

def size : Nat := 56

def ofBytes (b : Bytes) : ProgramHeader where
  type := .ofRaw (b.u32 0)
  flags := b.u32 4
  offset := b.u64 8
  vaddr := b.u64 16
  paddr := b.u64 24
  filesz := b.u64 32
  memsz := b.u64 40
  align := b.u64 48

def parse (b : Bytes) : Except Error ProgramHeader :=
  if b.length < size then .error (.bufferTooSmall size b.length) else .ok (ofBytes b)

def isLoad (h : ProgramHeader) : Bool := h.type = .load

/-- Whether this entry maps the start of the file, hence the file header. -/
def mapsHeader (h : ProgramHeader) : Bool := h.isLoad && h.offset = 0

/-- The end of the entry's memory, stopped at the top of the address space. -/
def stop (h : ProgramHeader) : UInt64 := Word.satAdd h.vaddr h.memsz

end ProgramHeader

end ImageLoader.Elf
