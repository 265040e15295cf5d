import ImageLoader.Image.Basic
/-! The record that the registry keeps for an image. What it says of the image is read off when the record
is made, and is the record's own from then on. -/

namespace ImageLoader

structure Modules where
  addr : UInt64 := 0
  count : UInt64 := 0
  deriving DecidableEq, Repr

/-- What the platform knows of an image. -/
structure PlatformInfo where
  path : String
  base : UInt64
  objcSegment : Option Extent
  dataSegment : Option Extent
  slide : Int64
  deriving DecidableEq, Repr

namespace Image

/-- The size of one module record: version, size, name and symbol table. -/
def moduleSize : UInt64 := 32

def modules (i : Image) : Modules :=
  match i.sectionData? Name.dataSegment Name.modules <|>
      i.sectionData? Name.objcSegment Name.legacyModules with
  | some e => ⟨e.addr, e.size / moduleSize⟩
  | none => {}

def platform (i : Image) : PlatformInfo where
  path := i.path
  base := i.addr
  objcSegment := i.segmentExtent? Name.objcSegment
  dataSegment := i.segmentExtent? Name.dataSegment <|> i.segmentExtent? Name.modernDataSegment
  slide := i.slide

end Image

/-- An image together with what is read off it. -/
structure ImageDescription where
  image : Image
  modules : Modules := image.modules
  info : Option ImageInfo := image.info
  platform : PlatformInfo := image.platform
  deriving DecidableEq, Repr

instance : Coe Image ImageDescription := ⟨fun image => { image }⟩

structure ImageRecord extends ImageDescription where
  /-- Whether every class of the image has been set up. -/
  realized : Bool := false
  deriving DecidableEq, Repr

namespace ImageRecord

def new (image : Image) : ImageRecord := ⟨image, false⟩

@[simp] theorem image_new (image : Image) : (new image).image = image := rfl

def addr (r : ImageRecord) : UInt64 := r.image.addr

@[simp] theorem addr_new (image : Image) : (new image).addr = image.addr := rfl

def name (r : ImageRecord) : String := r.image.path

def objcSegment? (r : ImageRecord) : Option Extent := r.platform.objcSegment

def dataSegment? (r : ImageRecord) : Option Extent := r.platform.dataSegment

def isBundle (r : ImageRecord) : Bool := r.image.kind = .bundle

def isReplacement (r : ImageRecord) : Bool := r.info.any (·.isReplacement)

def supportsGC (r : ImageRecord) : Bool := r.info.any (·.supportsGC)

def requiresGC (r : ImageRecord) : Bool := r.info.any (·.requiresGC)

def isOptimized (r : ImageRecord) : Bool := r.info.any (·.isOptimized)

end ImageRecord

end ImageLoader
