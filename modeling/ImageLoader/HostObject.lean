import ImageLoader.Image.Elf
/-! An object that the host has loaded, described as an image from its file. The main program has no
recorded name. -/

namespace ImageLoader

structure HostObject where
  name : String
  /-- What was added to link-time addresses. -/
  bias : UInt64
  /-- Where the file header is in memory. -/
  header : UInt64
  mapped : AddrRange
  deriving DecidableEq, Repr

namespace HostObject

def programFile : String := "/proc/self/exe"

def isMain (o : HostObject) : Bool := o.name.isEmpty

def file (o : HostObject) : String := if o.isMain then programFile else o.name

/-- The path to show, given where the program's own file is. -/
def displayPath (program : String) (o : HostObject) : String := if o.isMain then program else o.name

def kind (o : HostObject) : ImageKind := if o.isMain then .executable else .dylib

/-- The image of the object, given the bytes of its file if there is one. -/
def describe (program : String) (o : HostObject) (contents : Option Bytes) :
    Except LoaderError Image :=
  match contents with
  | none => .error (.io o.file missingFile)
  | some bytes => do
    let image ← Image.ofElf bytes o.header o.bias.toInt64 (o.displayPath program) o.kind
    .ok { image with mapped := o.mapped }

end HostObject

end ImageLoader
