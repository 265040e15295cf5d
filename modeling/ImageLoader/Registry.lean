import ImageLoader.Process
/-! The image registry of a process. Every operation holds the registry's lock, or finds it held by
the debugger, while it looks at the list. -/

namespace ImageLoader.Registry

variable {σ β : Type}

def access (t : ThreadId) (f : ImageList → β × ImageList) : ProcessAct σ β :=
  Process.onRegistry (Guarded.withValue .headerLock t f)

def inspect (t : ThreadId) (f : ImageList → β) : ProcessAct σ β := access t fun l => (f l, l)

def append (t : ThreadId) (r : ImageRecord) : ProcessAct σ Unit := access t fun l => ((), l.append r)

def remove (t : ThreadId) (addr : UInt64) : ProcessAct σ (Option ImageRecord) :=
  access t (·.remove addr)

def update (t : ThreadId) (addr : UInt64) (f : ImageRecord → ImageRecord) : ProcessAct σ Bool :=
  access t (·.update addr f)

def setRealized (t : ThreadId) (addr : UInt64) (value : Bool) : ProcessAct σ Bool :=
  access t (·.setRealized addr value)

def count (t : ThreadId) : ProcessAct σ Nat := inspect t (·.count)

def isEmpty (t : ThreadId) : ProcessAct σ Bool := inspect t (·.isEmpty)

def contains (t : ThreadId) (addr : UInt64) : ProcessAct σ Bool := inspect t (·.contains addr)

def snapshot (t : ThreadId) : ProcessAct σ (List ImageRecord) := inspect t (·.toList)

def forEach (t : ThreadId) (f : ImageRecord → β → β) (start : β) : ProcessAct σ β :=
  inspect t (·.visit f start)

def find? (t : ThreadId) (addr : UInt64) : ProcessAct σ (Option ImageRecord) :=
  inspect t (·.find? addr)

def findSome? (t : ThreadId) (f : ImageRecord → Option β) : ProcessAct σ (Option β) :=
  inspect t (·.findSome? f)

def pathContaining? (t : ThreadId) (a : UInt64) : ProcessAct σ (Option String) :=
  inspect t (·.pathContaining? a)

def first? (t : ThreadId) : ProcessAct σ (Option ImageRecord) := inspect t (·.first?)

def last? (t : ThreadId) : ProcessAct σ (Option ImageRecord) := inspect t (·.last?)

end ImageLoader.Registry
