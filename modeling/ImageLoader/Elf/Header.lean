import ImageLoader.Elf.Basic
/-! The ELF64 file header. Its conditions are checked in the order size, magic, class, encoding; the
machine is checked apart, because a header of another machine can still be shown. -/

namespace ImageLoader.Elf

def magic : Bytes := [0x7f, 0x45, 0x4c, 0x46]

inductive FileType
  | none
  | rel
  | exec
  | dyn
  | core
  | unknown (raw : UInt16)
  deriving DecidableEq, Repr

namespace FileType

def ofRaw (raw : UInt16) : FileType :=
  if raw = 0 then .none
  else if raw = 1 then .rel
  else if raw = 2 then .exec
  else if raw = 3 then .dyn
  else if raw = 4 then .core
  else .unknown raw

def toRaw : FileType → UInt16
  | .none => 0
  | .rel => 1
  | .exec => 2
  | .dyn => 3
  | .core => 4
  | .unknown raw => raw

def label : FileType → String
  | .none => "None"
  | .rel => "Rel"
  | .exec => "Exec"
  | .dyn => "Dyn"
  | .core => "Core"
  | .unknown raw => s!"Unknown({raw.toNat})"

theorem toRaw_ofRaw (raw : UInt16) : (ofRaw raw).toRaw = raw := by
  unfold ofRaw
  repeat' split
  all_goals simp_all [toRaw]

end FileType

inductive Machine
  | x86_64
  | aarch64
  | unknown (raw : UInt16)
  deriving DecidableEq, Repr

namespace Machine

def ofRaw (raw : UInt16) : Machine :=
  if raw = 62 then .x86_64 else if raw = 183 then .aarch64 else .unknown raw

def toRaw : Machine → UInt16
  | .x86_64 => 62
  | .aarch64 => 183
  | .unknown raw => raw

def label : Machine → String
  | .x86_64 => "X86_64"
  | .aarch64 => "Aarch64"
  | .unknown raw => s!"Unknown({raw.toNat})"

theorem toRaw_ofRaw (raw : UInt16) : (ofRaw raw).toRaw = raw := by
  unfold ofRaw
  repeat' split
  all_goals simp_all [toRaw]

end Machine

structure Header where
  ident : Bytes
  type : FileType
  machine : Machine
  version : UInt32
  entry : UInt64
  phoff : UInt64
  shoff : UInt64
  flags : UInt32
  ehsize : UInt16
  phentsize : UInt16
  phnum : UInt16
  shentsize : UInt16
  shnum : UInt16
  shstrndx : UInt16
  deriving DecidableEq, Repr

namespace Header

def size : Nat := 64

/-- The header fields of a file that has passed the checks. -/
def ofBytes (data : Bytes) : Header where
  ident := data.take 16
  type := .ofRaw (data.u16 16)
  machine := .ofRaw (data.u16 18)
  version := data.u32 20
  entry := data.u64 24
  phoff := data.u64 32
  shoff := data.u64 40
  flags := data.u32 48
  ehsize := data.u16 52
  phentsize := data.u16 54
  phnum := data.u16 56
  shentsize := data.u16 58
  shnum := data.u16 60
  shstrndx := data.u16 62

def parse (data : Bytes) : Except Error Header :=
  if data.length < size then .error (.bufferTooSmall size data.length)
  else if data.take 4 ≠ magic then .error .invalidMagic
  else if data.getD 4 0 ≠ 2 then .error (.unsupportedClass (data.getD 4 0))
  else if data.getD 5 0 ≠ 1 then .error (.unsupportedEncoding (data.getD 5 0))
  else .ok (ofBytes data)

def isSharedObject (h : Header) : Bool := h.type = .dyn

def isExecutable (h : Header) : Bool := h.type = .exec

/-- Refuses machines this reader does not describe. -/
def checkMachine (h : Header) : Except Error Unit :=
  match h.machine with
  | .unknown raw => .error (.unsupportedMachine raw)
  | _ => .ok ()

end Header

end ImageLoader.Elf
