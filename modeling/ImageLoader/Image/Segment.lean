import ImageLoader.Word
/-! Sections grouped into segments by name, in link-time addresses. A segment keeps its sections in
the order they came and covers the hull of their ranges. -/

namespace ImageLoader

structure Section where
  segname : String
  sectname : String
  addr : UInt64
  size : UInt64
  offset : UInt64 := 0
  deriving DecidableEq, Repr

/-- The end of the section, stopped at the top of the address space. -/
def Section.stop (s : Section) : UInt64 := Word.satAdd s.addr s.size

structure Segment where
  name : String
  vmaddr : UInt64
  vmsize : UInt64
  sections : List Section
  deriving DecidableEq, Repr

namespace Segment

/-- A segment of one section has its extent, even where that leaves the address space. -/
def single (s : Section) : Segment := ⟨s.segname, s.addr, s.size, [s]⟩

def stop (g : Segment) : UInt64 := Word.satAdd g.vmaddr g.vmsize

def push (g : Segment) (s : Section) : Segment :=
  { g with
    vmaddr := min g.vmaddr s.addr
    vmsize := max g.stop s.stop - min g.vmaddr s.addr
    sections := g.sections ++ [s] }

def section? (g : Segment) (sectname : String) : Option Section :=
  g.sections.find? (·.sectname = sectname)

end Segment

/-- Adds a section to the first segment of its name, or to a new one at the end. -/
def pushSection : List Segment → Section → List Segment
  | [], s => [.single s]
  | g :: rest, s => if g.name = s.segname then g.push s :: rest else g :: pushSection rest s

end ImageLoader
