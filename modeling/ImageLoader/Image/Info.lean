import ImageLoader.Bytes
/-! The info record of an image: a version and flags, of which unknown bits are kept. -/

namespace ImageLoader

structure ImageInfo where
  version : UInt32
  flags : UInt32
  deriving DecidableEq, Repr

namespace ImageInfo

def size : Nat := 8

def parse? (b : Bytes) : Option ImageInfo :=
  if size ≤ b.length then some ⟨b.u32 0, b.u32 4⟩ else none

/-- Fix up references only; load no classes or categories. -/
def isReplacement (i : ImageInfo) : Bool := i.flags &&& 1 ≠ 0

def supportsGC (i : ImageInfo) : Bool := i.flags &&& 2 ≠ 0

def requiresGC (i : ImageInfo) : Bool := i.flags &&& 4 ≠ 0

/-- Metadata prepared by the loader's shared cache. -/
def isOptimized (i : ImageInfo) : Bool := i.flags &&& 8 ≠ 0

end ImageInfo

end ImageLoader
