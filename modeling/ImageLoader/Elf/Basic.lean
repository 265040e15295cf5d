import ImageLoader.Word
import ImageLoader.Bytes
/-! What can be wrong with an ELF64 file, and its string tables. -/

namespace ImageLoader.Elf

/-- A part of the file that an offset may point at. -/
inductive Part
  | programTable
  | sectionTable
  | stringTable
  | sectionBytes
  deriving DecidableEq, Repr

def Part.label : Part → String
  | .programTable => "program header"
  | .sectionTable => "section header"
  | .stringTable => "string table"
  | .sectionBytes => "section"

inductive Error
  | invalidMagic
  | unsupportedClass (value : UInt8)
  | unsupportedEncoding (value : UInt8)
  | unsupportedMachine (value : UInt16)
  | invalidOffset (part : Part) (offset : UInt64)
  | bufferTooSmall (needed available : Nat)
  | invalidStringIndex (index : UInt32)
  deriving DecidableEq, Repr

def Error.message : Error → String
  | .invalidMagic => "invalid ELF magic"
  | .unsupportedClass v => s!"unsupported ELF class: {v.toNat}"
  | .unsupportedEncoding v => s!"unsupported data encoding: {v.toNat}"
  | .unsupportedMachine v => s!"unsupported machine type: {v.toNat}"
  | .invalidOffset part offset => s!"invalid {part.label} offset: {Word.hex offset}"
  | .bufferTooSmall needed available => s!"buffer too small: need {needed}, have {available}"
  | .invalidStringIndex index => s!"invalid string index: {index.toNat}"

def window (data : Bytes) (part : Part) (offset : UInt64) (size : Nat) : Except Error Bytes :=
  match data.window? offset.toNat size with
  | some b => .ok b
  | none => .error (.invalidOffset part offset)

/-- The NUL-terminated UTF-8 text that starts at `index`. -/
def readString (table : Bytes) (index : UInt32) : Except Error String :=
  let tail := table.drop index.toNat
  let text := tail.takeWhile (· ≠ 0)
  if text.length < tail.length then
    match Bytes.text? text with
    | some s => .ok s
    | none => .error (.invalidStringIndex index)
  else .error (.invalidStringIndex index)

end ImageLoader.Elf
