import ImageLoader.Report.Json
import ImageLoader.Image.Elf
import ImageLoader.Image.Record
/-! The report on one ELF file: what a runtime would see of it, at link-time addresses. -/

namespace ImageLoader.Report

inductive FileError
  | unreadable (path reason : String)
  | malformed (path : String) (cause : Elf.Error)
  deriving DecidableEq, Repr

def FileError.message : FileError → String
  | .unreadable path reason => s!"cannot read {path}: {reason}"
  | .malformed path cause => s!"{path}: {cause.message}"

structure FileReport where
  file : Elf.File
  image : Image

namespace FileReport

/-- Reads the report off the contents of the file, or why they cannot be read. -/
def read (path : String) (contents : Except String Bytes) : Except FileError FileReport :=
  match contents with
  | .error reason => .error (.unreadable path reason)
  | .ok bytes =>
    match Elf.File.parse bytes with
    | .error e => .error (.malformed path e)
    | .ok f => .ok ⟨f, Image.ofFile f 0 0 path .dylib⟩

def infoJson (i : ImageInfo) : Json :=
  .object
    [("version", .number i.version.toNat), ("flags", .number i.flags.toNat),
      ("replacement", .flag i.isReplacement), ("supports_gc", .flag i.supportsGC),
      ("requires_gc", .flag i.requiresGC)]

def sectionJson (s : Section) : Json :=
  .object
    [("name", .text s.sectname), ("addr", .text (Word.hex s.addr)), ("size", .number s.size.toNat),
      ("offset", .number s.offset.toNat)]

def segmentJson (g : Segment) : Json :=
  .object
    [("name", .text g.name), ("vmaddr", .text (Word.hex g.vmaddr)),
      ("vmsize", .number g.vmsize.toNat), ("sections", .list (g.sections.map sectionJson))]

def rangeJson (r : AddrRange) : Json :=
  .list [.text (Word.hex r.start), .text (Word.hex r.stop)]

def toJson (r : FileReport) : Json :=
  .object
    [("path", .text r.image.path), ("file_type", .text r.file.header.type.label),
      ("machine", .text r.file.header.machine.label),
      ("load_range", .ofOption rangeJson r.file.loadRange?),
      ("has_runtime_metadata", .flag r.image.hasMetadata),
      ("image_info", .ofOption infoJson r.image.info),
      ("module_count", .number r.image.modules.count.toNat),
      ("segments", .list (r.image.segments.map segmentJson))]

end FileReport

end ImageLoader.Report
