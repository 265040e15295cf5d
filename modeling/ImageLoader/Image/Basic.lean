import ImageLoader.Image.Info
import ImageLoader.Image.Segment
/-! An image: one mapped object with its address, path, slide, mapped range and segments. Its
address is that of its file header, and its identity. -/

namespace ImageLoader

namespace Name

def objcSegment : String := "__OBJC"

/-- The segment that holds module records on this platform. -/
def dataSegment : String := "SEG_DATA"

def modernDataSegment : String := "__DATA"

def modules : String := "SECT_OBJC_MODULES"

def legacyModules : String := "__module_info"

def imageInfo : String := "__objc_imageinfo"

def legacyImageInfo : String := "__image_info"

/-- What the names of metadata sections begin with. -/
def metadataStart : String := "__objc_"

end Name

inductive ImageKind
  | executable
  | dylib
  | bundle
  deriving DecidableEq, Repr

def ImageKind.label : ImageKind → String
  | .executable => "executable"
  | .dylib => "dylib"
  | .bundle => "bundle"

/-- Where something lies in memory. -/
structure Extent where
  addr : UInt64
  size : UInt64
  deriving DecidableEq, Repr

structure Image where
  addr : UInt64
  kind : ImageKind
  path : String
  slide : Int64
  mapped : AddrRange
  segments : List Segment := []
  info : Option ImageInfo := none
  deriving DecidableEq, Repr

namespace Image

/-- An image with no segments that covers no address. -/
def new (addr : UInt64) (kind : ImageKind) (path : String) (slide : Int64) : Image :=
  { addr, kind, path, slide, mapped := ⟨addr, addr⟩ }

def pushSection (i : Image) (s : Section) : Image :=
  { i with segments := ImageLoader.pushSection i.segments s }

/-- The path as C reads it: without its NUL characters. -/
def cPath (i : Image) : String := String.ofList (i.path.toList.filter (· ≠ '\x00'))

def contains (i : Image) (a : UInt64) : Bool := i.mapped.contains a

def segment? (i : Image) (name : String) : Option Segment := i.segments.find? (·.name = name)

def sectionData? (i : Image) (segname sectname : String) : Option Extent := do
  let g ← i.segment? segname
  let s ← g.section? sectname
  some ⟨Word.relocate s.addr i.slide, s.size⟩

def segmentExtent? (i : Image) (name : String) : Option Extent := do
  let g ← i.segment? name
  some ⟨Word.relocate g.vmaddr i.slide, g.vmsize⟩

def isMetadataSection (s : Section) : Bool :=
  Name.metadataStart.toList.isPrefixOf s.sectname.toList

/-- Whether the image is worth registering. -/
def hasMetadata (i : Image) : Bool :=
  i.info.isSome || (i.segment? Name.objcSegment).isSome || (i.segment? Name.dataSegment).isSome ||
    i.segments.any fun g => g.sections.any isMetadataSection

end Image

end ImageLoader
