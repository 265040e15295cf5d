import Mathlib.Data.Nat.Find
import ImageLoader.ObjectWalk
/-! The walk along a list of objects, to its end or to the first object that comes again. A list need not
end: it may loop, or go on for ever. A walk that has come to the end of its list, or back to an object that
it met before, has met every object that the list leads to. -/

namespace ImageLoader.ObjectList

variable {ν : Type}

/-- The `i`-th object from the head on. A list that loops has one for every `i`. -/
def nth? (l : ObjectList ν) : Nat → Option ν
  | 0 => l.head
  | i + 1 => (l.nth? i).bind l.next

def Reaches (l : ObjectList ν) (x : ν) : Prop := ∃ i, l.nth? i = some x

/-- No object comes twice up to the `i`-th. -/
def Distinct (l : ObjectList ν) (i : Nat) : Prop := ∀ k ≤ i, ∀ j < k, l.nth? j ≠ l.nth? k

theorem nth?_eq_none_of_le {l : ObjectList ν} {i k : Nat} (h : l.nth? i = none) (le : i ≤ k) :
    l.nth? k = none := by
  induction le with
  | refl => exact h
  | step _ ih => rw [nth?, ih, Option.bind_none]

variable [DecidableEq ν]

instance (l : ObjectList ν) (i : Nat) : Decidable (l.Distinct i) :=
  inferInstanceAs (Decidable (∀ k ≤ i, ∀ j < k, l.nth? j ≠ l.nth? k))

/-- The `i`-th object of the walk, which ends before the first object that comes again. -/
def walk? (l : ObjectList ν) (i : Nat) : Option ν := if l.Distinct i then l.nth? i else none

/-- The walk has `n` objects, the last of which is `x`. -/
structure Last (l : ObjectList ν) (n : Nat) (x : ν) : Prop where
  size : ∀ i, (l.walk? i).isSome ↔ i < n
  last : l.walk? (n - 1) = some x

def Ends (l : ObjectList ν) (n : Nat) : Prop := ∃ x, l.Last n x ∧ l.next x = none

/-- The walk has `n` objects, and the successor of the last is one of them. -/
def Loops (l : ObjectList ν) (n : Nat) : Prop :=
  ∃ x y, l.Last n x ∧ l.next x = some y ∧ ∃ i, l.walk? i = some y

variable {l : ObjectList ν} {i j k n m : Nat} {x y : ν}

theorem walk?_eq_some : l.walk? i = some x ↔ l.nth? i = some x ∧ l.Distinct i := by
  unfold walk?
  split <;> simp_all

theorem walk?_eq_none_of_nth? (beyond : l.nth? i = none) (le : i ≤ k) : l.walk? k = none := by
  rw [Option.eq_none_iff_forall_ne_some]
  intro x met
  cases (walk?_eq_some.1 met).1.symm.trans (nth?_eq_none_of_le beyond le)

theorem walk?_zero (l : ObjectList ν) : l.walk? 0 = l.head := by
  simp [walk?, Distinct, nth?]

theorem walk?_isSome_of_le (h : (l.walk? k).isSome) (le : i ≤ k) : (l.walk? i).isSome := by
  obtain ⟨x, here⟩ := Option.isSome_iff_exists.1 h
  obtain ⟨nth, distinct⟩ := walk?_eq_some.1 here
  have earlier : l.Distinct i := fun k' hk => distinct k' (by omega)
  rw [walk?, if_pos earlier, Option.isSome_iff_ne_none]
  intro none
  cases nth.symm.trans (nth?_eq_none_of_le none le)

theorem walk?_inj (hi : l.walk? i = some x) (hk : l.walk? k = some x) : i = k := by
  have apart {i k : Nat} (hi : l.walk? i = some x) (hk : l.walk? k = some x) : ¬i < k := by
    intro lt
    obtain ⟨nth, distinct⟩ := walk?_eq_some.1 hk
    exact distinct k (Nat.le_refl k) i lt ((walk?_eq_some.1 hi).1.trans nth.symm)
  have := apart hi hk
  have := apart hk hi
  omega

theorem nth?_succ (here : l.walk? i = some x) : l.nth? (i + 1) = l.next x := by
  rw [nth?, (walk?_eq_some.1 here).1, Option.bind_some]

/-- The walk goes on to what comes next, if it has not met it yet. -/
theorem walk?_of_nth? (come : l.nth? k = some x) (unmet : ∀ j < k, l.walk? j ≠ some x)
    (walked : ∀ j < k, (l.walk? j).isSome) : l.walk? k = some x := by
  have met (j : Nat) (lt : j < k) : l.walk? j = l.nth? j ∧ l.Distinct j := by
    obtain ⟨y, met⟩ := Option.isSome_iff_exists.1 (walked j lt)
    obtain ⟨nth, distinct⟩ := walk?_eq_some.1 met
    exact ⟨met.trans nth.symm, distinct⟩
  refine walk?_eq_some.2 ⟨come, ?_⟩
  intro k' le j lt
  by_cases last : k' = k
  · rw [last, come, ← (met j (by omega)).1]
    exact unmet j (by omega)
  · exact (met k' (by omega)).2 k' (Nat.le_refl k') j lt

theorem walk?_succ (here : l.walk? i = some x) (next : l.next x = some y)
    (unmet : ∀ j ≤ i, l.walk? j ≠ some y) : l.walk? (i + 1) = some y := by
  refine walk?_of_nth? ((nth?_succ here).trans next) (fun j lt => unmet j (by omega)) ?_
  intro j lt
  exact walk?_isSome_of_le (by rw [here]; rfl) (show j ≤ i by omega)

/-- An object after which there is none, or one that was met, is the last of the walk. -/
theorem last_of_stuck (here : l.walk? i = some x)
    (stuck : ∀ y, l.next x = some y → ∃ j ≤ i, l.walk? j = some y) : l.Last (i + 1) x := by
  have beyond : ¬(l.walk? (i + 1)).isSome := by
    rw [Option.isSome_iff_exists]
    rintro ⟨y, there⟩
    obtain ⟨j, le, met⟩ := stuck y ((nth?_succ here).symm.trans (walk?_eq_some.1 there).1)
    have := walk?_inj met there
    omega
  refine ⟨fun k => ⟨fun some => ?_, fun lt => ?_⟩, here⟩
  · by_contra ge
    exact beyond (walk?_isSome_of_le some (by omega))
  · exact walk?_isSome_of_le (by rw [here]; rfl) (show k ≤ i by omega)

theorem Last.pos (h : l.Last n x) : 0 < n := by
  have := (h.size (n - 1)).1 (by rw [h.last]; rfl)
  omega

theorem Last.unique (h : l.Last n x) (h' : l.Last m y) : n = m ∧ x = y := by
  have same : n = m := by
    have := h.size n
    have := h'.size n
    have := h.size m
    have := h'.size m
    grind
  subst same
  exact ⟨rfl, Option.some.inj (h.last.symm.trans h'.last)⟩

theorem Last.lt (h : l.Last n x) (met : l.walk? i = some y) : i < n :=
  (h.size i).1 (by rw [met]; rfl)

/-- Where a walk stops that has begun, its list has come to its end or loops. -/
theorem ends_or_loops (begun : l.head ≠ none) (stopped : l.walk? k = none) :
    ∃ n ≤ k, l.Ends n ∨ l.Loops n := by
  have ex : ∃ i, l.walk? i = none := ⟨k, stopped⟩
  obtain ⟨i, first⟩ : ∃ i, Nat.find ex = i + 1 := by
    refine Nat.exists_eq_add_one_of_ne_zero fun zero => begun ?_
    rw [← walk?_zero, ← zero]
    exact Nat.find_spec ex
  have beyond : l.walk? (i + 1) = none := first ▸ Nat.find_spec ex
  obtain ⟨x, here⟩ := Option.ne_none_iff_exists'.1 (Nat.find_min ex (m := i) (by omega))
  refine ⟨i + 1, first ▸ Nat.find_min' ex stopped, ?_⟩
  by_cases stuck : ∀ y, l.next x = some y → ∃ j ≤ i, l.walk? j = some y
  · have last := last_of_stuck here stuck
    rcases next : l.next x with _ | y
    · exact .inl ⟨x, last, next⟩
    · obtain ⟨j, -, met⟩ := stuck y next
      exact .inr ⟨x, y, last, next, j, met⟩
  · push Not at stuck
    obtain ⟨y, next, unmet⟩ := stuck
    cases beyond.symm.trans (walk?_succ here next unmet)

theorem reaches_iff : l.Reaches x ↔ ∃ i, l.walk? i = some x := by
  constructor
  · rintro ⟨i, reached⟩
    induction i generalizing x with
    | zero => exact ⟨0, (walk?_zero l).trans reached⟩
    | succ i ih =>
      rw [nth?, Option.bind_eq_some_iff] at reached
      obtain ⟨w, before, next⟩ := reached
      obtain ⟨j, met⟩ := ih before
      by_cases unmet : ∀ k ≤ j, l.walk? k ≠ some x
      · exact ⟨j + 1, walk?_succ met next unmet⟩
      · push Not at unmet
        obtain ⟨k, -, again⟩ := unmet
        exact ⟨k, again⟩
  · rintro ⟨i, met⟩
    exact ⟨i, (walk?_eq_some.1 met).1⟩

end ImageLoader.ObjectList
