import ImageLoader.Proofs.ImageList.Chain
import Mathlib.Data.List.Perm.Basic
/-! Each operation of an image list on the cells of its chain: an append puts one at the end, a removal
takes the first one of its address out wherever it stands, an update changes the record of that one.
Both an append and a removal splice the chain: what comes after some node, or at the beginning, is
replaced. -/

namespace ImageLoader.ImageList

theorem lt_size_of_node? {l : ImageList} {i : Nat} {node : ImageNode} (h : l.node? i = some node) :
    i < l.slots.size := by
  by_contra hi
  simp [node?, Array.getElem?_eq_none (Nat.le_of_not_lt hi)] at h

theorem node?_relink (l : ImageList) (i j : Nat) (next : Option Nat) :
    (l.relink i next).node? j =
      if i = j then (l.node? i).map fun n => { n with next } else l.node? j := by
  unfold relink
  cases h : l.node? i with
  | none =>
    by_cases hij : i = j
    · simp [← hij, h]
    · simp [hij]
  | some node =>
    have hi := lt_size_of_node? h
    by_cases hij : i = j
    · subst hij
      simp [node?, hi]
    · simp [node?, hij]

theorem relink_frame (l : ImageList) (i : Nat) (next : Option Nat) :
    (l.relink i next).free = l.free ∧ (l.relink i next).first = l.first ∧
      (l.relink i next).last = l.last ∧ (l.relink i next).slots.size = l.slots.size := by
  unfold relink
  cases l.node? i <;> simp

theorem chain_of_agree {l l' : ImageList} {cells : List Cell} {stop : Option Nat}
    (chain : ∀ x ∈ linked cells stop, l.node? x.1 = some x.2)
    (agree : ∀ j ∈ cells.map (·.1), l'.node? j = l.node? j) :
    ∀ x ∈ linked cells stop, l'.node? x.1 = some x.2 := by
  intro x hx
  have hj : x.1 ∈ cells.map (·.1) := by
    rw [← map_fst_linked cells stop]
    exact List.mem_map_of_mem hx
  rw [agree _ hj, chain x hx]

/-- What putting a node into slot `i` does to a list that holds `cells`. -/
structure Placed (l l' : ImageList) (cells : List Cell) (i : Nat) (node : ImageNode) : Prop where
  here : l'.node? i = some node
  elsewhere : ∀ j, j ≠ i → l'.node? j = l.node? j
  slots : (l'.free ++ (i :: cells.map (·.1))).Perm (List.range l'.slots.size)
  free : ∀ j ∈ l'.free, j ∈ l.free
  first : l'.first = l.first
  last : l'.last = l.last

theorem Holds.place {l : ImageList} {cells : List Cell} (h : l.Holds cells) (node : ImageNode) :
    Placed l (l.place node).2 cells (l.place node).1 node := by
  unfold ImageList.place
  cases hfree : l.free with
  | nil =>
    have size : l.slots.size = cells.length := by simpa [hfree] using h.length_add.symm
    refine ⟨by simp [node?], fun j hj => ?_, ?_, by simp [hfree], rfl, rfl⟩
    · simp [node?, Array.getElem?_push, hj]
    · simp only [List.nil_append, Array.size_push, List.range_succ]
      exact (List.perm_append_singleton _ _).symm.trans
        (List.Perm.append_right _ (by simpa [hfree] using h.slots))
  | cons i rest =>
    have hi : i < l.slots.size := h.lt_size (.inl (by simp [hfree]))
    refine ⟨?_, fun j hj => ?_, ?_, fun j hj => by simp [hfree, hj], rfl, rfl⟩
    · simp [node?, hi]
    · simp [node?, Ne.symm hj]
    · simp only [Array.size_setIfInBounds]
      exact List.perm_middle.trans (by simpa [hfree] using h.slots)

theorem Placed.nodup {l l' : ImageList} {cells : List Cell} {i : Nat} {node : ImageNode}
    (h : Placed l l' cells i node) : (l'.free ++ i :: cells.map (·.1)).Nodup :=
  h.slots.nodup_iff.2 List.nodup_range

/-- Makes the chain go on at `next` after the node in slot `before`, or begin there. -/
def splice (l : ImageList) (before next : Option Nat) : ImageList :=
  match before with
  | some b => l.relink b next
  | none => { l with first := next }

/-- What that does to a list whose chain begins with the cells `pre`. -/
structure Spliced (l l' : ImageList) (pre : List Cell) (next : Option Nat) : Prop where
  first : l'.first = entry pre next
  chain : ∀ x ∈ linked pre next, l'.node? x.1 = some x.2
  elsewhere : ∀ j ∉ pre.map (·.1), l'.node? j = l.node? j
  free : l'.free = l.free
  size : l'.slots.size = l.slots.size

theorem splice_spliced {l : ImageList} {pre : List Cell} {stop : Option Nat}
    (first : l.first = entry pre stop) (chain : ∀ x ∈ linked pre stop, l.node? x.1 = some x.2)
    (nodup : (pre.map (·.1)).Nodup) (next : Option Nat) :
    Spliced l (l.splice (pre.getLast?.map (·.1)) next) pre next := by
  rcases List.eq_nil_or_concat pre with rfl | ⟨init, tail, rfl⟩
  · exact ⟨rfl, by simp [linked], fun _ _ => rfl, rfl, rfl⟩
  simp only [List.concat_eq_append, linked_append, List.map_append] at *
  obtain ⟨hfree, hfirst, -, hsize⟩ := relink_frame l tail.1 next
  have hnode : l.node? tail.1 = some ⟨tail.2, stop⟩ :=
    chain (tail.1, ⟨tail.2, stop⟩) (by simp [linked])
  have apart : ∀ j ∈ init.map (·.1), tail.1 ≠ j := fun j hj e =>
    (List.nodup_append.1 nodup).2.2 j hj tail.1 (by simp) e.symm
  simp only [List.getLast?_append, List.getLast?_singleton, Option.some_or, Option.map_some, splice]
  refine ⟨?_, ?_, fun j hj => ?_, hfree, hsize⟩
  · rw [hfirst, first]
    cases init <;> rfl
  · -- the last cell is relinked, the cells before it keep their nodes
    intro x hx
    rw [linked_append, List.mem_append] at hx
    rcases hx with hx | hx
    · have agree : ∀ j ∈ init.map (·.1), (l.relink tail.1 next).node? j = l.node? j :=
        fun j hj => by rw [node?_relink, if_neg (apart j hj)]
      exact chain_of_agree (fun y hy => chain y (List.mem_append_left _ hy)) agree x hx
    · obtain rfl : x = (tail.1, ⟨tail.2, next⟩) := by simpa [linked] using hx
      rw [node?_relink, if_pos rfl, hnode]
      rfl
  · have hj : tail.1 ≠ j := fun e => hj (by simp [← e])
    rw [node?_relink, if_neg hj]

theorem append_eq (l : ImageList) (r : ImageRecord) :
    l.append r =
      { (l.place ⟨r, none⟩).2.splice l.last (some (l.place ⟨r, none⟩).1) with
        last := some (l.place ⟨r, none⟩).1
        count := l.count + 1 } := by
  unfold ImageList.append splice
  cases l.last <;> rfl

theorem Holds.append {l : ImageList} {cells : List Cell} (h : l.Holds cells) (r : ImageRecord) :
    ∃ i, (l.append r).Holds (cells ++ [(i, r)]) := by
  rw [append_eq]
  have placed := h.place ⟨r, none⟩
  generalize l.place ⟨r, none⟩ = p at placed ⊢
  obtain ⟨i, l'⟩ := p
  change Placed l l' cells i ⟨r, none⟩ at placed
  have nodup := List.nodup_append.1 placed.nodup
  have fresh : i ∉ cells.map (·.1) := (List.nodup_cons.1 nodup.2.1).1
  have spliced : Spliced l' (l'.splice l.last (some i)) cells (some i) := by
    rw [h.last]
    refine splice_spliced (placed.first.trans h.first) ?_ (List.nodup_cons.1 nodup.2.1).2 (some i)
    exact chain_of_agree h.chain fun j hj => placed.elsewhere j fun e => fresh (e ▸ hj)
  refine ⟨i, ?_, by simp, ?_, ?_, fun j hj => ?_, by simp [h.count]⟩
  · rw [show entry (cells ++ [(i, r)]) none = entry cells (some i) by cases cells <;> rfl]
    exact spliced.first
  · intro x hx
    rw [linked_append, List.mem_append] at hx
    rcases hx with hx | hx
    · exact spliced.chain x hx
    · obtain rfl : x = (i, ⟨r, none⟩) := by simpa [linked] using hx
      exact (spliced.elsewhere i fresh).trans placed.here
  · rw [spliced.free, spliced.size]
    refine (List.Perm.append_left _ ?_).trans placed.slots
    simp
  · have hj : j ∈ l'.free := spliced.free ▸ hj
    have away : j ∉ i :: cells.map (·.1) := fun hc => nodup.2.2 j hj j hc rfl
    refine (spliced.elsewhere j fun hc => away (List.mem_cons_of_mem _ hc)).trans ?_
    rw [placed.elsewhere j fun e => away (e ▸ List.mem_cons_self), h.vacant j (placed.free j hj)]

theorem exists_split (cells : List Cell) (addr : UInt64) :
    (∀ c ∈ cells, c.2.addr ≠ addr) ∨
      ∃ pre i r post, cells = pre ++ (i, r) :: post ∧ (∀ c ∈ pre, c.2.addr ≠ addr) ∧
        r.addr = addr := by
  induction cells with
  | nil => exact Or.inl (List.forall_mem_nil _)
  | cons c rest ih =>
    by_cases hc : c.2.addr = addr
    · exact Or.inr ⟨[], c.1, c.2, rest, rfl, List.forall_mem_nil _, hc⟩
    · rcases ih with hrest | ⟨pre, i, r, post, rfl, hpre, hr⟩
      · exact Or.inl (List.forall_mem_cons.2 ⟨hc, hrest⟩)
      · exact Or.inr ⟨c :: pre, i, r, post, rfl, List.forall_mem_cons.2 ⟨hc, hpre⟩, hr⟩

theorem locate?_eq_none {addr : UInt64} {cells : List Cell} (h : ∀ c ∈ cells, c.2.addr ≠ addr)
    (before stop : Option Nat) : locate? addr before (linked cells stop) = none := by
  induction cells generalizing before with
  | nil => rfl
  | cons c rest ih =>
    rw [List.forall_mem_cons] at h
    rw [linked, locate?, if_neg h.1, ih h.2]

theorem locate?_eq_some {addr : UInt64} {pre : List Cell} (hpre : ∀ c ∈ pre, c.2.addr ≠ addr)
    {r : ImageRecord} (hr : r.addr = addr) (i : Nat) (post : List Cell) (before stop : Option Nat) :
    locate? addr before (linked (pre ++ (i, r) :: post) stop) =
      some ((pre.getLast?.map (·.1)).or before, i, ⟨r, entry post stop⟩) := by
  induction pre generalizing before with
  | nil => simp [linked, locate?, hr]
  | cons c rest ih =>
    rw [List.forall_mem_cons] at hpre
    rw [List.cons_append, linked, locate?, if_neg hpre.1, ih hpre.2]
    cases rest <;> simp [List.getLast?_cons]

namespace Holds

variable {l : ImageList} {cells pre post : List Cell} {addr : UInt64} {i : Nat} {r : ImageRecord}

/-- A slot on the chain is there once. -/
theorem split_nodup (h : l.Holds (pre ++ (i, r) :: post)) :
    (pre.map (·.1)).Nodup ∧ i ∉ pre.map (·.1) ∧ i ∉ post.map (·.1) ∧ i ∉ l.free ∧
      (∀ j ∈ post.map (·.1), j ∉ pre.map (·.1)) ∧ ∀ j ∈ l.free, j ∉ pre.map (·.1) := by
  have nodup := h.nodup
  simp only [List.map_append, List.map_cons, List.nodup_append, List.nodup_cons, List.mem_append,
    List.mem_cons] at nodup
  obtain ⟨-, ⟨hpre, ⟨hipost, -⟩, hcross⟩, hfree⟩ := nodup
  exact ⟨hpre, fun hi => hcross i hi i (.inl rfl) rfl, hipost,
    fun hi => hfree i hi i (.inr (.inl rfl)) rfl, fun j hj hp => hcross j hp j (.inr hj) rfl,
    fun j hj hp => hfree j hj j (.inl hp) rfl⟩

theorem remove_absent (h : l.Holds cells) (absent : ∀ c ∈ cells, c.2.addr ≠ addr) :
    l.remove addr = (none, l) := by
  rw [ImageList.remove, h.nodes_eq, locate?_eq_none absent]

theorem remove_eq (h : l.Holds (pre ++ (i, r) :: post)) (hpre : ∀ c ∈ pre, c.2.addr ≠ addr)
    (hr : r.addr = addr) :
    l.remove addr =
      (some r,
        { splice { l with slots := l.slots.setIfInBounds i none } (pre.getLast?.map (·.1))
            (entry post none) with
          last := if l.last = some i then pre.getLast?.map (·.1) else l.last
          free := i :: l.free
          count := l.count - 1 }) := by
  rw [ImageList.remove, h.nodes_eq, locate?_eq_some hpre hr]
  simp only [Option.or_none]
  cases pre.getLast?.map (·.1) <;> rfl

theorem last_remove (h : l.Holds (pre ++ (i, r) :: post)) :
    (if l.last = some i then pre.getLast?.map (·.1) else l.last) =
      (pre ++ post).getLast?.map (·.1) := by
  rw [h.last]
  cases hpost : post.getLast? with
  | none =>
    obtain rfl := List.getLast?_eq_none_iff.1 hpost
    simp
  | some c =>
    have hc : c.1 ≠ i := fun e =>
      h.split_nodup.2.2.1 (e ▸ List.mem_map_of_mem (List.mem_of_getLast? hpost))
    simp [List.getLast?_append, List.getLast?_cons, hpost, hc]

/-- A removal takes the cell out and puts its slot on the free stack. -/
theorem remove (h : l.Holds (pre ++ (i, r) :: post)) (hpre : ∀ c ∈ pre, c.2.addr ≠ addr)
    (hr : r.addr = addr) : (l.remove addr).2.Holds (pre ++ post) := by
  rw [h.remove_eq hpre hr]
  obtain ⟨nodup, hipre, hipost, hifree, hpost, hfree⟩ := h.split_nodup
  have other : ∀ j, j ≠ i →
      ({ l with slots := l.slots.setIfInBounds i none } : ImageList).node? j = l.node? j :=
    fun j hj => by simp [node?, Ne.symm hj]
  have chain := h.chain
  rw [linked_append, linked] at chain
  have first : l.first = entry pre (some i) := h.first.trans (by cases pre <;> rfl)
  have spliced := splice_spliced (l := { l with slots := l.slots.setIfInBounds i none }) first
    (chain_of_agree (fun x hx => chain x (List.mem_append_left _ hx))
      fun j hj => other j fun e => hipre (e ▸ hj)) nodup (entry post none)
  generalize splice _ _ _ = l' at spliced
  refine ⟨?_, h.last_remove, ?_, ?_, fun j hj => ?_, by simp [h.count]⟩
  · exact spliced.first.trans (by cases pre <;> rfl)
  · intro x hx
    rw [linked_append, List.mem_append] at hx
    rcases hx with hx | hx
    · exact spliced.chain x hx
    · have keep : ∀ j ∈ post.map (·.1), l'.node? j = l.node? j := fun j hj =>
        (spliced.elsewhere j (hpost j hj)).trans (other j fun e => hipost (e ▸ hj))
      exact chain_of_agree (fun y hy => chain y (by simp [hy])) keep x hx
  · have size : l'.slots.size = l.slots.size := spliced.size.trans (by simp)
    rw [size]
    refine List.Perm.trans ?_ h.slots
    simpa using (@List.perm_middle _ _ (l.free ++ pre.map (·.1)) _).symm
  · rcases List.mem_cons.1 hj with rfl | hj
    · refine (spliced.elsewhere j hipre).trans ?_
      simp [node?, h.lt_size (.inr (by simp) : j ∈ l.free ∨ _)]
    · exact (spliced.elsewhere j (hfree j hj)).trans
        ((other j fun e => hifree (e ▸ hj)).trans (h.vacant j hj))

theorem update_absent (h : l.Holds cells) (absent : ∀ c ∈ cells, c.2.addr ≠ addr)
    (f : ImageRecord → ImageRecord) : l.update addr f = (false, l) := by
  rw [ImageList.update, h.nodes_eq, locate?_eq_none absent]

theorem update_eq (h : l.Holds (pre ++ (i, r) :: post)) (hpre : ∀ c ∈ pre, c.2.addr ≠ addr)
    (hr : r.addr = addr) (f : ImageRecord → ImageRecord) :
    l.update addr f =
      (true, { l with slots := l.slots.setIfInBounds i (some ⟨f r, entry post none⟩) }) := by
  rw [ImageList.update, h.nodes_eq, locate?_eq_some hpre hr]

theorem update (h : l.Holds (pre ++ (i, r) :: post)) (hpre : ∀ c ∈ pre, c.2.addr ≠ addr)
    (hr : r.addr = addr) (f : ImageRecord → ImageRecord) :
    (l.update addr f).2.Holds (pre ++ (i, f r) :: post) := by
  rw [h.update_eq hpre hr]
  obtain ⟨-, hipre, hipost, hifree, -, -⟩ := h.split_nodup
  generalize hl' : ({ l with slots := _ } : ImageList) = l'
  have other : ∀ j, j ≠ i → l'.node? j = l.node? j := fun j hj => by
    simp [← hl', node?, Ne.symm hj]
  have here : l'.node? i = some ⟨f r, entry post none⟩ := by
    have hi : i < l.slots.size := h.lt_size (.inr (by simp))
    simp [← hl', node?, hi]
  have chain := h.chain
  rw [linked_append, linked] at chain
  refine ⟨?_, ?_, ?_, ?_, fun j hj => ?_, ?_⟩
  · rw [← hl']
    exact h.first.trans (by cases pre <;> rfl)
  · rw [← hl']
    refine h.last.trans ?_
    cases hpost : post.getLast? <;> simp [List.getLast?_append, List.getLast?_cons, hpost]
  · intro x hx
    rw [linked_append, linked, List.mem_append, List.mem_cons] at hx
    rcases hx with hx | rfl | hx
    · exact chain_of_agree (fun y hy => chain y (List.mem_append_left _ hy))
        (fun j hj => other j fun e => hipre (e ▸ hj)) x hx
    · exact here
    · exact chain_of_agree (fun y hy => chain y (by simp [hy]))
        (fun j hj => other j fun e => hipost (e ▸ hj)) x hx
  · rw [← hl']
    simpa using h.slots
  · rw [← hl'] at hj
    exact (other j fun e => hifree (e ▸ hj)).trans (h.vacant j hj)
  · rw [← hl']
    simpa using h.count

end Holds

end ImageLoader.ImageList
