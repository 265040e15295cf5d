import ImageLoader.Image.Record
/-! The storage of the image registry: a singly linked list whose nodes live in slots and link by
index. A freed slot is used again before the storage grows. Seen through `toList` the operations are
those of a list in load order. -/

namespace ImageLoader

structure ImageNode where
  record : ImageRecord
  next : Option Nat
  deriving DecidableEq, Repr

structure ImageList where
  slots : Array (Option ImageNode) := #[]
  /-- The empty slots, the one to use next at the head. -/
  free : List Nat := []
  first : Option Nat := none
  last : Option Nat := none
  count : Nat := 0
  deriving DecidableEq, Repr

namespace ImageList

def node? (l : ImageList) (i : Nat) : Option ImageNode := (l.slots[i]?).join

/-- The nodes with their indices from `cursor` on, at most `n` of them. -/
def walk (l : ImageList) : (n : Nat) → (cursor : Option Nat) → List (Nat × ImageNode)
  | 0, _ => []
  | _, none => []
  | n + 1, some i =>
    match l.node? i with
    | some node => (i, node) :: walk l n node.next
    | none => []

/-- The nodes with their indices. There are no more of them than slots. -/
def nodes (l : ImageList) : List (Nat × ImageNode) := l.walk l.slots.size l.first

def toList (l : ImageList) : List ImageRecord := l.nodes.map (·.2.record)

/-- Puts `node` into a free slot, or else into a new one. -/
def place (l : ImageList) (node : ImageNode) : Nat × ImageList :=
  match l.free with
  | i :: rest => (i, { l with slots := l.slots.setIfInBounds i (some node), free := rest })
  | [] => (l.slots.size, { l with slots := l.slots.push (some node) })

def relink (l : ImageList) (i : Nat) (next : Option Nat) : ImageList :=
  match l.node? i with
  | some node => { l with slots := l.slots.setIfInBounds i (some { node with next }) }
  | none => l

def append (l : ImageList) (r : ImageRecord) : ImageList :=
  let (i, l') := l.place ⟨r, none⟩
  let linked := match l.last with
    | some tail => l'.relink tail (some i)
    | none => { l' with first := some i }
  { linked with last := some i, count := l.count + 1 }

/-- The first node for `addr`, with its index and the index before it. -/
def locate? (addr : UInt64) : (before : Option Nat) → List (Nat × ImageNode) →
    Option (Option Nat × Nat × ImageNode)
  | _, [] => none
  | before, (i, node) :: rest =>
    if node.record.addr = addr then some (before, i, node) else locate? addr (some i) rest

/-- Takes the first record for `addr` out. -/
def remove (l : ImageList) (addr : UInt64) : Option ImageRecord × ImageList :=
  match locate? addr none l.nodes with
  | none => (none, l)
  | some (before, i, node) =>
    let emptied := { l with slots := l.slots.setIfInBounds i none }
    let spliced := match before with
      | some b => emptied.relink b node.next
      | none => { emptied with first := node.next }
    (some node.record,
      { spliced with
        last := if l.last = some i then before else l.last
        free := i :: l.free
        count := l.count - 1 })

/-- Changes the first record for `addr`; tells whether there is one. -/
def update (l : ImageList) (addr : UInt64) (f : ImageRecord → ImageRecord) : Bool × ImageList :=
  match locate? addr none l.nodes with
  | none => (false, l)
  | some (_, i, node) =>
    (true, { l with slots := l.slots.setIfInBounds i (some { node with record := f node.record }) })

def setRealized (l : ImageList) (addr : UInt64) (value : Bool) : Bool × ImageList :=
  l.update addr fun r => { r with realized := value }

/-- Shows every record to `f` in load order, with what the visits before it left. -/
def visit {β : Type} (l : ImageList) (f : ImageRecord → β → β) (start : β) : β :=
  l.toList.foldl (fun b r => f r b) start

def isEmpty (l : ImageList) : Bool := l.count = 0

def contains (l : ImageList) (addr : UInt64) : Bool := l.toList.any (·.addr = addr)

def find? (l : ImageList) (addr : UInt64) : Option ImageRecord := l.toList.find? (·.addr = addr)

def findSome? {β : Type} (l : ImageList) (f : ImageRecord → Option β) : Option β :=
  l.toList.findSome? f

def pathContaining? (l : ImageList) (a : UInt64) : Option String :=
  l.findSome? fun r => if r.image.contains a then some r.name else none

def first? (l : ImageList) : Option ImageRecord := (l.first.bind l.node?).map (·.record)

def last? (l : ImageList) : Option ImageRecord := (l.last.bind l.node?).map (·.record)

end ImageList

end ImageLoader
