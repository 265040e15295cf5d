import ImageLoader.Proofs.ObjectWalk.Search
/-! The names on a list against a search for one of them. The listing has the names of the first objects of
the walk, as many as the limit allows; a search with the same limit looks at the same objects, up to the
first that has the name. -/

namespace ImageLoader.ObjectList

variable {ν : Type} {l : ObjectList ν} {name : Bytes} {limit budget i n : Nat} {x : ν} {ws : List ν}
  {ending : WalkEnd}

/-- The name under which an object is listed: empty where its own cannot be read. -/
def shownName (l : ObjectList ν) (x : ν) : Bytes := (l.name x).getD []

theorem shownName_eq (named : name ≠ []) : l.shownName x = name ↔ l.name x = some name := by
  unfold shownName
  cases l.name x <;> simp [named.symm]

variable [DecidableEq ν]

theorem getElem?_namesFrom (begins : l.Begins ws) :
    (l.namesFrom budget ws.reverse (l.nth? ws.length))[i]? =
      if i < budget then (l.walk? (ws.length + i)).map l.shownName else none := by
  induction budget generalizing ws i with
  | zero => simp [namesFrom]
  | succ budget ih =>
    rcases here : l.nth? ws.length with _ | node
    · have beyond : l.walk? (ws.length + i) = none := walk?_eq_none_of_nth? here (by omega)
      simp [namesFrom, beyond]
    · rw [namesFrom]
      by_cases again : node ∈ ws
      · obtain ⟨x, last⟩ := (begins.loops here again).last
        have beyond : l.walk? (ws.length + i) = none := by
          rw [← Option.not_isSome_iff_eq_none, last.size]
          omega
        simp [again, beyond]
      · have met := begins.next here again
        have rest := fun i => ih (i := i) (begins.concat met)
        simp only [List.reverse_concat, List.length_append, List.length_singleton, nth?_succ met] at rest
        rw [if_neg (by simpa using again)]
        cases i with
        | zero => simp [met, shownName]
        | succ i =>
          rw [List.getElem?_cons_succ, rest]
          simp [Nat.add_assoc, Nat.add_comm 1]

theorem getElem?_names (l : ObjectList ν) (limit i : Nat) :
    (l.names limit)[i]? = if i < limit then (l.walk? i).map l.shownName else none := by
  have listed : (l.namesFrom limit [] l.head)[i]? =
      if i < limit then (l.walk? (0 + i)).map l.shownName else none := getElem?_namesFrom (begins_nil l)
  rwa [Nat.zero_add] at listed

theorem length_names_le (l : ObjectList ν) (limit : Nat) : (l.names limit).length ≤ limit := by
  have beyond := getElem?_names l limit limit
  rw [if_neg (Nat.lt_irrefl limit)] at beyond
  exact List.getElem?_eq_none_iff.1 beyond

theorem length_names_of_iff (upto : ∀ i, i < limit ∧ (l.walk? i).isSome ↔ i < n) :
    (l.names limit).length = n := by
  have size (i : Nat) : i < (l.names limit).length ↔ i < n := by
    have listed : (l.names limit)[i]?.isSome ↔ i < (l.names limit).length := by simp
    rw [← listed, getElem?_names, ← upto]
    by_cases lt : i < limit <;> simp [lt]
  have := size n
  have := size (l.names limit).length
  omega

/-- A search that finds nothing has visited as many objects as are listed. -/
theorem Stops.length_names (stops : l.Stops limit n ending) : (l.names limit).length = n := by
  apply length_names_of_iff
  intro i
  cases stops with
  | noHead headless =>
    have beyond : l.walk? i = none := walk?_eq_none_of_nth? (i := 0) headless (Nat.zero_le i)
    simp [beyond]
  | exhausted le ends =>
    obtain ⟨x, last⟩ := ends.last
    rw [last.size]
    omega
  | cycle lt loops =>
    obtain ⟨x, last⟩ := loops.last
    rw [last.size]
    omega
  | limitReached begun neverEnds neverLoops =>
    rw [and_iff_left_iff_imp]
    intro lt
    rw [Option.isSome_iff_ne_none]
    intro stopped
    obtain ⟨n, le, ends | loops⟩ := ends_or_loops begun stopped
    · exact neverEnds n (by omega) ends
    · exact neverLoops n (by omega) loops

theorem names_at (named : name ≠ []) :
    (l.names limit)[i]? = some name ↔ i < limit ∧ ∃ x, l.walk? i = some x ∧ l.name x = some name := by
  rw [getElem?_names]
  by_cases lt : i < limit
  · simp [lt, shownName_eq named]
  · simp [lt]

theorem Misses.notMem_names (named : name ≠ []) (missed : l.Misses name limit) :
    name ∉ l.names limit := by
  rw [List.mem_iff_getElem?]
  rintro ⟨i, listed⟩
  obtain ⟨lt, x, met, has⟩ := (names_at named).1 listed
  exact missed i lt x met has

theorem Misses.idxOf_names (named : name ≠ []) (missed : l.Misses name i)
    (listed : (l.names limit)[i]? = some name) : (l.names limit).idxOf name = i := by
  obtain ⟨lt, here⟩ := List.getElem?_eq_some_iff.1 listed
  refine (List.findIdx_eq lt).2 ⟨by simpa using here, ?_⟩
  intro j before
  rw [beq_eq_false_iff_ne]
  intro earlier
  obtain ⟨-, x, met, has⟩ := (names_at named).1 (List.getElem?_eq_some_iff.2 ⟨_, earlier⟩)
  exact missed j before x met has

/-- A search for a name that is not empty finds it where it is first listed, and has visited all that is
listed where it is not. -/
theorem search_names (l : ObjectList ν) (limit : Nat) (named : name ≠ []) :
    ((l.search name limit).found.isSome ↔ name ∈ l.names limit) ∧
      (name ∈ l.names limit → (l.search name limit).visited = (l.names limit).idxOf name + 1) ∧
      (name ∉ l.names limit → (l.search name limit).visited = (l.names limit).length) ∧
      (l.names limit).length ≤ limit := by
  have outcome := outcome_search l name limit
  generalize l.search name limit = r at outcome
  cases outcome with
  | @found i x lt met has missed =>
    have listed : (l.names limit)[i]? = some name := (names_at named).2 ⟨lt, x, met, has⟩
    have mem := List.mem_of_getElem? listed
    refine ⟨by simp [mem], fun _ => ?_, fun absent => absurd mem absent, length_names_le l limit⟩
    rw [missed.idxOf_names named listed]
  | @missed n ending missed stops =>
    have absent := missed.notMem_names named
    refine ⟨by simp [absent], fun mem => absurd mem absent, fun _ => ?_, length_names_le l limit⟩
    exact stops.length_names.symm

/-- The last object before the list loops has the name that is looked for. -/
theorem search_names_lasso :
    [3] ∈ lasso.names 7 ∧ (lasso.search [3] 7).visited = (lasso.names 7).idxOf [3] + 1 := by
  have listed : [3] ∈ lasso.names 7 := by decide
  exact ⟨listed, (search_names lasso 7 (by decide)).2.1 listed⟩

end ImageLoader.ObjectList
