import ImageLoader.Image.Basic
import ImageLoader.Elf.File
import ImageLoader.Loader.Error
/-! The image that an ELF file describes: its sections are those named `SEGMENT,SECTION`, and its
info record is the first usable one in table order. -/

namespace ImageLoader.Image

/-- Segment and section name, parted at the first comma. -/
def splitName? (name : String) : Option (String × String) :=
  match name.toList.span (· ≠ ',') with
  | (_, []) => none
  | (segname, _ :: sectname) => some (String.ofList segname, String.ofList sectname)

def isInfoSection (segname sectname : String) : Bool :=
  (segname = Name.modernDataSegment && sectname = Name.imageInfo) ||
    (segname = Name.objcSegment && sectname = Name.legacyImageInfo)

def readInfo? (f : Elf.File) (s : Elf.SectionHeader) : Option ImageInfo :=
  match f.sectionData s with
  | .ok bytes => ImageInfo.parse? bytes
  | .error _ => none

def addNamed (f : Elf.File) (i : Image) (s : Elf.NamedSection) : Image :=
  match splitName? s.name with
  | none => i
  | some (segname, sectname) =>
    let i := i.pushSection ⟨segname, sectname, s.header.addr, s.header.size, s.header.offset⟩
    if isInfoSection segname sectname && i.info.isNone then { i with info := readInfo? f s.header }
    else i

/-- The range covered by the loadable entries, moved by `slide`; empty at `addr` without any. -/
def mappedRange (f : Elf.File) (addr : UInt64) (slide : Int64) : AddrRange :=
  match f.loadRange? with
  | some r => r.relocate slide
  | none => ⟨addr, addr⟩

def ofFile (f : Elf.File) (addr : UInt64) (slide : Int64) (path : String) (kind : ImageKind) :
    Image :=
  f.namedSections.foldl (addNamed f)
    { new addr kind path slide with mapped := mappedRange f addr slide }

def ofElf (bytes : Bytes) (addr : UInt64) (slide : Int64) (path : String) (kind : ImageKind) :
    Except LoaderError Image :=
  match Elf.File.parse bytes with
  | .ok f => .ok (ofFile f addr slide path kind)
  | .error e => .error (.elf path e)

end ImageLoader.Image
