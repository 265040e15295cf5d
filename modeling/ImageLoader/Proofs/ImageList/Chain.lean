import ImageLoader.ImageList
import Mathlib.Data.List.Nodup
/-! The chain of an image list as a list of cells, each a slot with the record in it. A list that
`Holds` some cells has exactly these on its chain, in this order and once each, and every other slot on
its free stack; so the walk along the links ends after them, and the records seen are theirs. -/

namespace ImageLoader.ImageList

abbrev Cell := Nat × ImageRecord

/-- Where a chain of these cells begins, if it goes on at `stop`. -/
def entry : List Cell → (stop : Option Nat) → Option Nat
  | [], stop => stop
  | c :: _, _ => some c.1

@[simp] theorem entry_nil (stop : Option Nat) : entry [] stop = stop := rfl

@[simp] theorem entry_cons (c : Cell) (rest : List Cell) (stop : Option Nat) :
    entry (c :: rest) stop = some c.1 := rfl

/-- The nodes of these cells, each linked to the next one and the last to `stop`. -/
def linked : List Cell → (stop : Option Nat) → List (Nat × ImageNode)
  | [], _ => []
  | c :: rest, stop => (c.1, ⟨c.2, entry rest stop⟩) :: linked rest stop

structure Holds (l : ImageList) (cells : List Cell) : Prop where
  first : l.first = entry cells none
  last : l.last = cells.getLast?.map (·.1)
  chain : ∀ x ∈ linked cells none, l.node? x.1 = some x.2
  /-- Every slot is on the chain or on the free stack, once. -/
  slots : (l.free ++ cells.map (·.1)).Perm (List.range l.slots.size)
  vacant : ∀ i ∈ l.free, l.node? i = none
  count : l.count = cells.length

theorem linked_append (a b : List Cell) (stop : Option Nat) :
    linked (a ++ b) stop = linked a (entry b stop) ++ linked b stop := by
  induction a with
  | nil => rfl
  | cons c a ih => cases a <;> simp_all [linked]

@[simp] theorem map_fst_linked (cells : List Cell) (stop : Option Nat) :
    (linked cells stop).map (·.1) = cells.map (·.1) := by
  induction cells with
  | nil => rfl
  | cons c rest ih => simp [linked, ih]

@[simp] theorem map_record_linked (cells : List Cell) (stop : Option Nat) :
    (linked cells stop).map (·.2.record) = cells.map (·.2) := by
  induction cells with
  | nil => rfl
  | cons c rest ih => simp [linked, ih]

/-- A walk that is long enough sees the whole chain and stops at its end. -/
theorem walk_eq_linked {l : ImageList} {cells : List Cell}
    (chain : ∀ x ∈ linked cells none, l.node? x.1 = some x.2) {n : Nat} (hn : cells.length ≤ n) :
    l.walk n (entry cells none) = linked cells none := by
  induction cells generalizing n with
  | nil => cases n <;> rfl
  | cons c rest ih =>
    obtain ⟨n, rfl⟩ : ∃ k, n = k + 1 := ⟨n - 1, by simp at hn; omega⟩
    have here := chain (c.1, ⟨c.2, entry rest none⟩) (by simp [linked])
    simp only [entry_cons, walk, here, linked]
    rw [ih (fun x hx => chain x (by simp [linked, hx])) (by simpa using hn)]

namespace Holds

variable {l : ImageList} {cells : List Cell}

theorem empty : Holds {} [] := ⟨rfl, rfl, by simp [linked], by simp, by simp, rfl⟩

theorem length_add (h : l.Holds cells) : l.free.length + cells.length = l.slots.size := by
  simpa using h.slots.length_eq

theorem nodup (h : l.Holds cells) : (l.free ++ cells.map (·.1)).Nodup :=
  h.slots.nodup_iff.2 List.nodup_range

theorem lt_size (h : l.Holds cells) {i : Nat} (hi : i ∈ l.free ∨ i ∈ cells.map (·.1)) :
    i < l.slots.size :=
  List.mem_range.1 (h.slots.subset (List.mem_append.2 hi))

/-- No bound that lets the walk see every slot changes what it sees. -/
theorem walk_eq (h : l.Holds cells) {n : Nat} (hn : l.slots.size ≤ n) :
    l.walk n l.first = linked cells none := by
  rw [h.first]
  exact walk_eq_linked h.chain (by have := h.length_add; omega)

theorem nodes_eq (h : l.Holds cells) : l.nodes = linked cells none := h.walk_eq (Nat.le_refl _)

theorem toList_eq (h : l.Holds cells) : l.toList = cells.map (·.2) := by
  rw [toList, h.nodes_eq, map_record_linked]

end Holds

end ImageLoader.ImageList
