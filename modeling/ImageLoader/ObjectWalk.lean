import ImageLoader.Bytes
import ImageLoader.Log
/-! Looking a name up on a linked list of shared objects that may loop or be unreadable. A walk looks
at no object twice and at no more than `limit` of them; the bound is tested first. -/

namespace ImageLoader

/-- A list of shared objects, as far as it can be read. -/
structure ObjectList (ν : Type) where
  head : Option ν
  next : ν → Option ν
  name : ν → Option Bytes

inductive WalkEnd
  | exhausted
  | limitReached
  | cycle
  | noHead
  deriving DecidableEq, Repr

def WalkEnd.label : WalkEnd → String
  | .exhausted => "Exhausted"
  | .limitReached => "LimitReached"
  | .cycle => "Cycle"
  | .noHead => "NoHead"

structure Search (ν : Type) where
  found : Option ν
  visited : Nat
  ending : Option WalkEnd
  deriving DecidableEq, Repr

namespace ObjectList

variable {ν : Type} [DecidableEq ν]

/-- Searches from `node` on, with `budget` more objects to look at after those `seen`. -/
def searchFrom (l : ObjectList ν) (name : Bytes) : (budget : Nat) → (seen : List ν) → ν → Search ν
  | 0, seen, _ => ⟨none, seen.length, some .limitReached⟩
  | budget + 1, seen, node =>
    if node ∈ seen then ⟨none, seen.length, some .cycle⟩
    else if l.name node = some name then ⟨some node, seen.length + 1, none⟩
    else match l.next node with
      | none => ⟨none, seen.length + 1, some .exhausted⟩
      | some next => searchFrom l name budget (node :: seen) next

def search (l : ObjectList ν) (name : Bytes) (limit : Nat) : Search ν :=
  match l.head with
  | none => ⟨none, 0, some .noHead⟩
  | some node => l.searchFrom name limit [] node

def findByName? (l : ObjectList ν) (name : Bytes) (limit : Nat) : Option ν :=
  (l.search name limit).found

def namesFrom (l : ObjectList ν) : (budget : Nat) → (seen : List ν) → Option ν → List Bytes
  | 0, _, _ => []
  | _, _, none => []
  | budget + 1, seen, some node =>
    if node ∈ seen then []
    else (l.name node).getD [] :: namesFrom l budget (node :: seen) (l.next node)

/-- The names in list order, empty where unreadable. -/
def names (l : ObjectList ν) (limit : Nat) : List Bytes := l.namesFrom limit [] l.head

end ObjectList

/-- What is logged about a search that was cut short. -/
def Search.warnings {ν : Type} (s : Search ν) : List LogLine :=
  match s.ending with
  | some .limitReached => [⟨.warn, s!"objrt: shared-object walk stopped after {s.visited} nodes"⟩]
  | some .cycle => [⟨.warn, s!"objrt: shared-object list loops after {s.visited} nodes"⟩]
  | _ => []

end ImageLoader
