/-! Finite tables with one value per key. The newest entry comes first. -/

namespace ImageLoader

structure Table (α β : Type) where
  entries : List (α × β) := []
  deriving Repr

namespace Table

variable {α β : Type} [DecidableEq α]

def get? (t : Table α β) (k : α) : Option β := (t.entries.find? (·.1 = k)).map (·.2)

def erase (t : Table α β) (k : α) : Table α β := ⟨t.entries.filter (·.1 ≠ k)⟩

def insert (t : Table α β) (k : α) (v : β) : Table α β := ⟨(k, v) :: (t.erase k).entries⟩

def keys (t : Table α β) : List α := t.entries.map (·.1)

def size (t : Table α β) : Nat := t.entries.length

@[simp] theorem get?_insert (t : Table α β) (k j : α) (v : β) :
    (t.insert k v).get? j = if k = j then some v else t.get? j := by
  by_cases h : k = j
  · simp [get?, insert, h]
  · simp only [get?, insert, erase, List.find?_cons, h, decide_false, if_false]
    rw [List.find?_filter]
    congr 2
    funext e
    by_cases he : e.1 = j <;> simp [he, Ne.symm h]

@[simp] theorem get?_erase (t : Table α β) (k j : α) :
    (t.erase k).get? j = if k = j then none else t.get? j := by
  simp only [get?, erase, List.find?_filter]
  by_cases h : k = j
  · simp [h]
  · rw [if_neg h]
    congr 2
    funext e
    by_cases he : e.1 = j <;> simp [he, Ne.symm h]

end Table

end ImageLoader
