import Mathlib.Data.List.Nodup
import ImageLoader.Proofs.ObjectWalk.Walk
/-! A search with a limit against the walk along the list. It finds the first object of the walk that has the
name, if the limit allows as many; else it says truthfully why it stopped. The objects that it has passed
are the first of the walk, so it looks at none twice. -/

namespace ImageLoader.ObjectList

variable {ν : Type}

def readName (l : ObjectList ν) (x : ν) : StateM (List ν) (Option Bytes) := do
  modify (· ++ [x])
  pure (l.name x)

theorem run_readName_bind {α : Type} {l : ObjectList ν} {x : ν} {ws : List ν}
    (f : Option Bytes → StateM (List ν) α) :
    (l.readName x >>= f).run ws = (f (l.name x)).run (ws ++ [x]) := rfl

variable [DecidableEq ν]

/-- None of the first `n` objects of the walk has this name. -/
def Misses (l : ObjectList ν) (name : Bytes) (n : Nat) : Prop :=
  ∀ i < n, ∀ x, l.walk? i = some x → l.name x ≠ some name

/-- After how many objects a search stops that has found nothing, and why. -/
inductive Stops (l : ObjectList ν) (limit : Nat) : Nat → WalkEnd → Prop
  | noHead : l.head = none → Stops l limit 0 .noHead
  | exhausted {n : Nat} : n ≤ limit → l.Ends n → Stops l limit n .exhausted
  | cycle {n : Nat} : n < limit → l.Loops n → Stops l limit n .cycle
  | limitReached : l.head ≠ none → (∀ n ≤ limit, ¬l.Ends n) → (∀ n < limit, ¬l.Loops n) →
    Stops l limit limit .limitReached

inductive Outcome (l : ObjectList ν) (name : Bytes) (limit : Nat) : Search ν → Prop
  | found {i : Nat} {x : ν} : i < limit → l.walk? i = some x → l.name x = some name → l.Misses name i →
    Outcome l name limit ⟨some x, i + 1, none⟩
  | missed {n : Nat} {ending : WalkEnd} : l.Misses name limit → l.Stops limit n ending →
    Outcome l name limit ⟨none, n, some ending⟩

/-- `searchFrom` with a note of every name that it reads. -/
def searchNotingFrom (l : ObjectList ν) (name : Bytes) :
    (budget : Nat) → (seen : List ν) → ν → StateM (List ν) (Search ν)
  | 0, seen, _ => pure ⟨none, seen.length, some .limitReached⟩
  | budget + 1, seen, node =>
    if node ∈ seen then pure ⟨none, seen.length, some .cycle⟩
    else do
      if (← l.readName node) = some name then pure ⟨some node, seen.length + 1, none⟩
      else match l.next node with
        | none => pure ⟨none, seen.length + 1, some .exhausted⟩
        | some next => l.searchNotingFrom name budget (node :: seen) next

def searchNoting (l : ObjectList ν) (name : Bytes) (limit : Nat) : Search ν × List ν :=
  match l.head with
  | none => (⟨none, 0, some .noHead⟩, [])
  | some node => (l.searchNotingFrom name limit [] node).run []

variable {l : ObjectList ν} {name : Bytes} {limit budget i k n m : Nat} {x y node : ν} {ws : List ν}
  {ending ending' : WalkEnd} {r r' : Search ν}

def Begins (l : ObjectList ν) (ws : List ν) : Prop := ∀ i < ws.length, l.walk? i = ws[i]?

theorem begins_nil (l : ObjectList ν) : l.Begins [] := fun i lt => absurd lt (Nat.not_lt_zero i)

theorem Begins.mem (begins : l.Begins ws) : x ∈ ws ↔ ∃ i < ws.length, l.walk? i = some x := by
  rw [List.mem_iff_getElem?]
  constructor
  · rintro ⟨i, at_i⟩
    obtain ⟨lt, -⟩ := List.getElem?_eq_some_iff.1 at_i
    exact ⟨i, lt, (begins i lt).trans at_i⟩
  · rintro ⟨i, lt, met⟩
    exact ⟨i, (begins i lt).symm.trans met⟩

theorem Begins.concat (begins : l.Begins ws) (here : l.walk? ws.length = some x) :
    l.Begins (ws ++ [x]) := by
  intro i lt
  rw [List.length_append, List.length_singleton] at lt
  by_cases before : i < ws.length
  · rw [begins i before, List.getElem?_append_left before]
  · obtain rfl : i = ws.length := by omega
    rw [here, List.getElem?_concat_length]

theorem Begins.nodup (begins : l.Begins ws) : ws.Nodup := by
  rw [List.nodup_iff_getElem?_ne_getElem?]
  intro i j lt bound same
  rw [← begins i (by omega), ← begins j bound] at same
  obtain ⟨x, met⟩ : ∃ x, l.walk? j = some x := ⟨ws[j], by rw [begins j bound]; simp [bound]⟩
  have := walk?_inj (same.trans met) met
  omega

theorem Begins.isSome (begins : l.Begins ws) (lt : i < ws.length) : (l.walk? i).isSome := by
  rw [begins i lt]
  simpa using lt

theorem Misses.succ (missed : l.Misses name n) (met : l.walk? n = some x)
    (named : l.name x ≠ some name) : l.Misses name (n + 1) := by
  intro i lt y here
  by_cases before : i < n
  · exact missed i before y here
  · obtain rfl : i = n := by omega
    rwa [← Option.some.inj (met.symm.trans here)]

theorem Last.misses (last : l.Last n x) (missed : l.Misses name n) : l.Misses name k := by
  intro i _ y met
  exact missed i (last.lt met) y met

/-- What is missed by as many objects as the walk has is nowhere on the list. -/
theorem Misses.of_reaches (missed : l.Misses name k) (last : l.Last n x) (le : n ≤ k)
    (reaches : l.Reaches y) : l.name y ≠ some name := by
  obtain ⟨i, met⟩ := reaches_iff.1 reaches
  have := last.lt met
  exact missed i (by omega) y met

theorem Ends.last (h : l.Ends n) : ∃ x, l.Last n x := by
  obtain ⟨x, last, -⟩ := h
  exact ⟨x, last⟩

theorem Loops.last (h : l.Loops n) : ∃ x, l.Last n x := by
  obtain ⟨x, y, last, -⟩ := h
  exact ⟨x, last⟩

theorem Last.head_ne_none (h : l.Last n x) : l.head ≠ none := by
  intro none
  have met := (h.size 0).2 h.pos
  rw [walk?_zero, none] at met
  cases met

theorem Ends.not_loops (h : l.Ends n) (h' : l.Loops m) : False := by
  obtain ⟨x, last, none⟩ := h
  obtain ⟨x', y, last', next, -⟩ := h'
  obtain ⟨-, rfl⟩ := last.unique last'
  cases none.symm.trans next

theorem Stops.unique (h : l.Stops limit n ending) (h' : l.Stops limit m ending') :
    n = m ∧ ending = ending' := by
  have size {n m : Nat} (h : ∃ x, l.Last n x) (h' : ∃ x, l.Last m x) : n = m := by
    obtain ⟨x, last⟩ := h
    obtain ⟨y, last'⟩ := h'
    exact (last.unique last').1
  have begun {n : Nat} (h : ∃ x, l.Last n x) : l.head ≠ none := by
    obtain ⟨x, last⟩ := h
    exact last.head_ne_none
  cases h with
  | noHead none =>
    cases h' with
    | noHead _ => exact ⟨rfl, rfl⟩
    | exhausted _ ends => exact absurd none (begun ends.last)
    | cycle _ loops => exact absurd none (begun loops.last)
    | limitReached some _ _ => exact absurd none some
  | exhausted le ends =>
    cases h' with
    | noHead none => exact absurd none (begun ends.last)
    | exhausted _ ends' => exact ⟨size ends.last ends'.last, rfl⟩
    | cycle _ loops => exact (ends.not_loops loops).elim
    | limitReached _ never _ => exact absurd ends (never _ le)
  | cycle lt loops =>
    cases h' with
    | noHead none => exact absurd none (begun loops.last)
    | exhausted _ ends => exact (ends.not_loops loops).elim
    | cycle _ loops' => exact ⟨size loops.last loops'.last, rfl⟩
    | limitReached _ _ never => exact absurd loops (never _ lt)
  | limitReached some neverEnds neverLoops =>
    cases h' with
    | noHead none => exact absurd none some
    | exhausted le ends => exact absurd ends (neverEnds _ le)
    | cycle lt loops => exact absurd loops (neverLoops _ lt)
    | limitReached _ _ _ => exact ⟨rfl, rfl⟩

theorem Outcome.unique (h : l.Outcome name limit r) (h' : l.Outcome name limit r') : r = r' := by
  cases h with
  | @found i x lt met named missed =>
    cases h' with
    | @found j y lt' met' named' missed' =>
      have : ¬i < j := fun less => missed' i less x met named
      have : ¬j < i := fun less => missed j less y met' named'
      obtain rfl : i = j := by omega
      rw [Option.some.inj (met.symm.trans met')]
    | missed missed' _ => exact absurd named (missed' i lt x met)
  | missed missed stops =>
    cases h' with
    | found lt met named _ => exact absurd named (missed _ lt _ met)
    | missed _ stops' =>
      obtain ⟨rfl, rfl⟩ := stops.unique stops'
      rfl

/-- The list goes on behind the first objects of the walk, so it is the limit that stops a search there. -/
theorem Begins.stops (begins : l.Begins ws) (here : l.nth? ws.length = some node) :
    l.Stops ws.length ws.length .limitReached := by
  refine .limitReached ?_ ?_ ?_
  · intro headless
    have beyond : l.nth? 0 = none := headless
    cases here.symm.trans (nth?_eq_none_of_le beyond (Nat.zero_le _))
  · rintro n le ⟨x, last, final⟩
    have beyond : l.nth? (n - 1 + 1) = none := (nth?_succ last.last).trans final
    have := last.pos
    cases here.symm.trans (nth?_eq_none_of_le beyond (by omega))
  · rintro n lt ⟨x, y, last, -⟩
    have := (last.size n).1 (begins.isSome lt)
    omega

/-- The object behind the first of the walk is one of them, so they are all of it. -/
theorem Begins.loops (begins : l.Begins ws) (here : l.nth? ws.length = some node) (again : node ∈ ws) :
    l.Loops ws.length := by
  obtain ⟨i, size⟩ : ∃ i, ws.length = i + 1 :=
    Nat.exists_eq_add_one_of_ne_zero (Nat.ne_of_gt (List.length_pos_of_mem again))
  obtain ⟨j, lt, met⟩ := begins.mem.1 again
  obtain ⟨x, last⟩ := Option.isSome_iff_exists.1 (begins.isSome (i := i) (by omega))
  have next : l.next x = some node := by
    rw [← nth?_succ last, ← size]
    exact here
  have stuck : ∀ y, l.next x = some y → ∃ k ≤ i, l.walk? k = some y := by
    intro y come
    obtain rfl := Option.some.inj (next.symm.trans come)
    exact ⟨j, by omega, met⟩
  rw [size]
  exact ⟨x, node, last_of_stuck last stuck, next, j, met⟩

theorem Begins.next (begins : l.Begins ws) (here : l.nth? ws.length = some node) (new : node ∉ ws) :
    l.walk? ws.length = some node := by
  refine walk?_of_nth? here (fun j lt met => new ?_) fun j lt => begins.isSome lt
  exact begins.mem.2 ⟨j, lt, met⟩

theorem searchFrom_outcome (begins : l.Begins ws) (here : l.nth? ws.length = some node)
    (missed : l.Misses name ws.length) :
    l.Outcome name (ws.length + budget) (l.searchFrom name budget ws.reverse node) := by
  induction budget generalizing ws node with
  | zero =>
    rw [searchFrom, List.length_reverse]
    exact .missed missed (begins.stops here)
  | succ budget ih =>
    rw [searchFrom]
    simp only [List.mem_reverse, List.length_reverse]
    by_cases again : node ∈ ws
    · rw [if_pos again]
      have loops := begins.loops here again
      obtain ⟨x, last⟩ := loops.last
      exact .missed (last.misses missed) (.cycle (by omega) loops)
    · rw [if_neg again]
      have met := begins.next here again
      by_cases named : l.name node = some name
      · rw [if_pos named]
        exact .found (by omega) met named missed
      · rw [if_neg named]
        have missed' := missed.succ met named
        have come := nth?_succ met
        rcases next : l.next node with _ | y
        · have last : l.Last (ws.length + 1) node := last_of_stuck met (by simp [next])
          exact .missed (last.misses missed') (.exhausted (by omega) ⟨node, last, next⟩)
        · have come' : l.nth? (ws ++ [node]).length = some y := by simp [come, next]
          have rest := ih (begins.concat met) come' (by simpa using missed')
          simpa [Nat.add_right_comm, Nat.add_assoc] using rest

theorem outcome_search (l : ObjectList ν) (name : Bytes) (limit : Nat) :
    l.Outcome name limit (l.search name limit) := by
  rw [search]
  rcases head : l.head with _ | node
  · refine .missed (fun i _ x met => ?_) (.noHead head)
    cases met.symm.trans (walk?_eq_none_of_nth? (i := 0) head (Nat.zero_le i))
  · have missed : l.Misses name 0 := fun i lt => absurd lt (Nat.not_lt_zero i)
    have outcome : l.Outcome name (0 + limit) (l.searchFrom name limit [] node) :=
      searchFrom_outcome (begins_nil l) head missed
    rwa [Nat.zero_add] at outcome

/-- A search that notes what it reads has the result of one that does not, and reads the first objects of
the walk, as many as it says that it has visited. -/
theorem run_searchNotingFrom (begins : l.Begins ws) (here : l.nth? ws.length = some node) :
    ∃ read, (l.searchNotingFrom name budget ws.reverse node).run ws =
        (l.searchFrom name budget ws.reverse node, read) ∧
      l.Begins read ∧ read.length = (l.searchFrom name budget ws.reverse node).visited := by
  induction budget generalizing ws node with
  | zero => exact ⟨ws, rfl, begins, by simp [searchFrom]⟩
  | succ budget ih =>
    rw [searchFrom, searchNotingFrom]
    simp only [List.mem_reverse, List.length_reverse]
    by_cases again : node ∈ ws
    · rw [if_pos again, if_pos again]
      exact ⟨ws, rfl, begins, rfl⟩
    · rw [if_neg again, if_neg again]
      have met := begins.next here again
      have begins' := begins.concat met
      have size : (ws ++ [node]).length = ws.length + 1 := by simp
      rw [run_readName_bind]
      by_cases named : l.name node = some name
      · rw [if_pos named, if_pos named]
        exact ⟨ws ++ [node], rfl, begins', size⟩
      · rw [if_neg named, if_neg named]
        rcases next : l.next node with _ | y
        · exact ⟨ws ++ [node], rfl, begins', size⟩
        · have come : l.nth? (ws ++ [node]).length = some y := by rw [size, nth?_succ met, next]
          simpa using ih begins' come

theorem searchNoting_spec (l : ObjectList ν) (name : Bytes) (limit : Nat) :
    ∃ read, l.searchNoting name limit = (l.search name limit, read) ∧
      l.Begins read ∧ read.length = (l.search name limit).visited := by
  rw [searchNoting, search]
  rcases head : l.head with _ | node
  · exact ⟨[], rfl, begins_nil l, rfl⟩
  · exact run_searchNotingFrom (begins_nil l) head

/-- What a search comes to, whatever the list. One that came to the end of the list, or back to an object,
has shown that no object on it has the name; and none is looked at twice. -/
theorem search_outcome (l : ObjectList ν) (name : Bytes) (limit : Nat) :
    (∀ r, l.search name limit = r ↔ l.Outcome name limit r) ∧
    ((l.search name limit).ending = some .exhausted ∨ (l.search name limit).ending = some .cycle →
      ∀ x, l.Reaches x → l.name x ≠ some name) ∧
    ∃ read, l.searchNoting name limit = (l.search name limit, read) ∧ read.Nodup ∧
      read.length = (l.search name limit).visited ∧ l.Begins read := by
  refine ⟨fun r => ⟨?_, ?_⟩, ?_, ?_⟩
  · rintro rfl
    exact outcome_search l name limit
  · exact (outcome_search l name limit).unique
  · intro ended x reaches
    have outcome := outcome_search l name limit
    generalize l.search name limit = r at outcome ended
    cases outcome with
    | found => simp at ended
    | missed missed stops =>
      cases stops with
      | exhausted le ends =>
        obtain ⟨y, last⟩ := ends.last
        exact missed.of_reaches last le reaches
      | cycle lt loops =>
        obtain ⟨y, last⟩ := loops.last
        exact missed.of_reaches last (Nat.le_of_lt lt) reaches
      | noHead => simp at ended
      | limitReached => simp at ended
  · obtain ⟨read, noted, begins, size⟩ := searchNoting_spec l name limit
    exact ⟨read, noted, begins.nodup, size, begins⟩

/-- The objects 0 to 3, of which the last leads back to object 1, and the name of object 2 is unreadable. -/
def lasso : ObjectList Nat where
  head := some 0
  next i := some (if i = 3 then 1 else i + 1)
  name i := if i = 2 then none else some [i.toUInt8]

/-- The search has gone round, so nothing on the list has the name. -/
theorem search_outcome_lasso :
    lasso.search [9] 5 = ⟨none, 4, some .cycle⟩ ∧ ∀ x, lasso.Reaches x → lasso.name x ≠ some [9] := by
  have ended : lasso.search [9] 5 = ⟨none, 4, some .cycle⟩ := by decide
  exact ⟨ended, (search_outcome lasso [9] 5).2.1 (.inr (congrArg Search.ending ended))⟩

end ImageLoader.ObjectList
