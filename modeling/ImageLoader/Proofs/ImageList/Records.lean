import ImageLoader.Proofs.ImageList.Cells
/-! An image list as the list of its records. On a list whose slots are in order, every operation is
that of a plain list: what it answers depends on the records alone, and so do the records it leaves. -/

namespace ImageLoader

/-- The first record at `addr` changed by `f`. -/
def updateFirst (addr : UInt64) (f : ImageRecord → ImageRecord) : List ImageRecord → List ImageRecord
  | [] => []
  | r :: rest => if r.addr = addr then f r :: rest else r :: updateFirst addr f rest

theorem updateFirst_of_forall_ne {addr : UInt64} {f : ImageRecord → ImageRecord}
    {rs : List ImageRecord} (h : ∀ r ∈ rs, r.addr ≠ addr) : updateFirst addr f rs = rs := by
  induction rs with
  | nil => rfl
  | cons r rest ih => simp_all [updateFirst]

theorem updateFirst_append_cons {addr : UInt64} {f : ImageRecord → ImageRecord}
    {before : List ImageRecord} {r : ImageRecord} (after : List ImageRecord)
    (h : ∀ b ∈ before, b.addr ≠ addr) (hr : r.addr = addr) :
    updateFirst addr f (before ++ r :: after) = before ++ f r :: after := by
  induction before with
  | nil => simp [updateFirst, hr]
  | cons b rest ih => simp_all [updateFirst]

namespace ImageList

/-- Every slot is on the chain from `first` to `last` or on the free stack, once. -/
def Chained (l : ImageList) : Prop := ∃ cells, l.Holds cells

theorem chained_empty : Chained {} := ⟨[], .empty⟩

variable {l : ImageList}

theorem count_eq (h : l.Chained) : l.count = l.toList.length := by
  obtain ⟨cells, h⟩ := h
  rw [h.count, h.toList_eq, List.length_map]

theorem isEmpty_eq (h : l.Chained) : l.isEmpty = l.toList.isEmpty := by
  rw [isEmpty, count_eq h]
  cases l.toList <;> simp

theorem first?_eq (h : l.Chained) : l.first? = l.toList.head? := by
  obtain ⟨cells, h⟩ := h
  rw [first?, h.first, h.toList_eq]
  cases cells with
  | nil => rfl
  | cons c rest => simp [h.chain (c.1, ⟨c.2, entry rest none⟩) (by simp [linked])]

theorem last?_eq (h : l.Chained) : l.last? = l.toList.getLast? := by
  obtain ⟨cells, h⟩ := h
  rw [last?, h.last, h.toList_eq]
  rcases List.eq_nil_or_concat cells with rfl | ⟨init, tail, rfl⟩
  · rfl
  · simp [h.chain (tail.1, ⟨tail.2, none⟩) (by simp [linked_append, linked])]

theorem chained_append (h : l.Chained) (r : ImageRecord) : (l.append r).Chained := by
  obtain ⟨cells, h⟩ := h
  obtain ⟨i, h⟩ := h.append r
  exact ⟨_, h⟩

theorem toList_append (h : l.Chained) (r : ImageRecord) :
    (l.append r).toList = l.toList ++ [r] := by
  obtain ⟨cells, h⟩ := h
  obtain ⟨i, h'⟩ := h.append r
  rw [h'.toList_eq, h.toList_eq, List.map_append]
  rfl

/-- A removal gives the first record at the address and takes it out, if there is one. -/
theorem remove_spec (h : l.Chained) (addr : UInt64) :
    (l.remove addr).2.Chained ∧ (l.remove addr).1 = l.toList.find? (·.addr = addr) ∧
      (l.remove addr).2.toList = l.toList.eraseP (·.addr = addr) := by
  obtain ⟨cells, h⟩ := h
  rcases exists_split cells addr with absent | ⟨pre, i, r, post, rfl, hpre, hr⟩
  · rw [h.remove_absent absent, h.toList_eq]
    have none : ∀ x ∈ cells.map (·.2), ¬ decide (x.addr = addr) :=
      List.forall_mem_map.2 (by simpa using absent)
    exact ⟨⟨cells, h⟩, (List.find?_eq_none.2 none).symm, by rw [List.eraseP_of_forall_not none]⟩
  · have h' := h.remove hpre hr
    have before : ∀ x ∈ pre.map (·.2), ¬ decide (x.addr = addr) :=
      List.forall_mem_map.2 (by simpa using hpre)
    refine ⟨⟨_, h'⟩, ?_, ?_⟩
    · rw [h.remove_eq hpre hr, h.toList_eq, List.map_append, List.map_cons, List.find?_append,
        List.find?_eq_none.2 before]
      simp [hr]
    · rw [h'.toList_eq, h.toList_eq, List.map_append, List.map_append, List.map_cons,
        List.eraseP_append_right _ before, List.eraseP_cons_of_pos (by simpa using hr)]

theorem update_spec (h : l.Chained) (addr : UInt64) (f : ImageRecord → ImageRecord) :
    (l.update addr f).2.Chained ∧ (l.update addr f).1 = l.toList.any (·.addr = addr) ∧
      (l.update addr f).2.toList = updateFirst addr f l.toList := by
  obtain ⟨cells, h⟩ := h
  rcases exists_split cells addr with absent | ⟨pre, i, r, post, rfl, hpre, hr⟩
  · rw [h.update_absent absent, h.toList_eq]
    have none : ∀ x ∈ cells.map (·.2), x.addr ≠ addr := List.forall_mem_map.2 absent
    refine ⟨⟨cells, h⟩, (List.any_eq_false.2 fun x hx => ?_).symm, ?_⟩
    · simpa using none x hx
    · rw [updateFirst_of_forall_ne none]
  · have h' := h.update hpre hr f
    have before : ∀ x ∈ pre.map (·.2), x.addr ≠ addr := List.forall_mem_map.2 hpre
    refine ⟨⟨_, h'⟩, ?_, ?_⟩
    · rw [h.update_eq hpre hr, h.toList_eq]
      simp [hr]
    · rw [h'.toList_eq, h.toList_eq, List.map_append, List.map_append, List.map_cons, List.map_cons,
        updateFirst_append_cons _ before hr]

def imagesAt (l : ImageList) (addr : UInt64) : List Image :=
  (l.toList.filter (·.addr = addr)).map (·.image)

theorem head?_imagesAt (l : ImageList) (addr : UInt64) :
    (l.imagesAt addr).head? = (l.find? addr).map (·.image) := by
  rw [imagesAt, List.head?_map, List.head?_filter, find?]

theorem contains_eq (l : ImageList) (addr : UInt64) :
    l.contains addr = decide (l.imagesAt addr ≠ []) := by
  rw [Bool.eq_iff_iff]
  simp [contains, imagesAt]

theorem imagesAt_append (h : l.Chained) (r : ImageRecord) (addr : UInt64) :
    (l.append r).imagesAt addr = l.imagesAt addr ++ if r.addr = addr then [r.image] else [] := by
  rw [imagesAt, toList_append h, List.filter_append, List.map_append, imagesAt]
  by_cases e : r.addr = addr <;> simp [e]

/-- Taking one out does not matter to those that are chosen otherwise. -/
theorem filter_eraseP_of_disjoint {α : Type} {P Q : α → Bool} (h : ∀ a, P a = true → Q a = false)
    (l : List α) : (l.eraseP P).filter Q = l.filter Q := by
  induction l with
  | nil => rfl
  | cons a rest ih =>
    cases hP : P a
    · rw [List.eraseP_cons_of_neg (by simp [hP]), List.filter_cons, List.filter_cons, ih]
    · rw [List.eraseP_cons_of_pos hP, List.filter_cons_of_neg (by simp [h a hP])]

theorem filter_eraseP_of_ne {addr a : UInt64} (other : a ≠ addr) (rs : List ImageRecord) :
    (rs.eraseP (·.addr = a)).filter (·.addr = addr) = rs.filter (·.addr = addr) := by
  apply filter_eraseP_of_disjoint
  intro r hr
  rw [decide_eq_true_eq] at hr
  simpa [hr] using other

theorem imagesAt_remove (h : l.Chained) {addr a : UInt64} (other : a ≠ addr) :
    (l.remove a).2.imagesAt addr = l.imagesAt addr := by
  rw [imagesAt, (remove_spec h a).2.2, filter_eraseP_of_ne other, imagesAt]

theorem filter_eraseP_self {α : Type} (P : α → Bool) (l : List α) :
    (l.eraseP P).filter P = (l.filter P).tail := by
  induction l with
  | nil => rfl
  | cons a rest ih =>
    cases h : P a
    · rw [List.eraseP_cons_of_neg (by simp [h]), List.filter_cons_of_neg (by simp [h]),
        List.filter_cons_of_neg (by simp [h]), ih]
    · rw [List.eraseP_cons_of_pos h, List.filter_cons_of_pos h, List.tail_cons]

/-- Where at most one is chosen, to take the first out is to leave the others. -/
theorem eraseP_eq_filter_of_countP_le_one {α : Type} {P : α → Bool} {l : List α}
    (once : l.countP P ≤ 1) : l.eraseP P = l.filter fun a => !P a := by
  induction l with
  | nil => rfl
  | cons a rest ih =>
    rw [List.countP_cons] at once
    by_cases here : P a
    · rw [if_pos here] at once
      have none : rest.countP P = 0 := by omega
      rw [List.eraseP_cons_of_pos here, List.filter_cons_of_neg (by simp [here])]
      exact (List.filter_eq_self.2 (by simpa using none)).symm
    · rw [if_neg here] at once
      rw [List.eraseP_cons_of_neg here, List.filter_cons_of_pos (by simpa using here), ih once]

theorem imagesAt_remove_self (h : l.Chained) (addr : UInt64) :
    (l.remove addr).2.imagesAt addr = (l.imagesAt addr).tail := by
  rw [imagesAt, (remove_spec h addr).2.2, filter_eraseP_self, List.map_tail, imagesAt]

end ImageList

/-- An update that leaves addresses alone, and the images at this one, leaves the images here. -/
theorem imagesAt_updateFirst {a addr : UInt64} {f : ImageRecord → ImageRecord}
    (stays : ∀ r, (f r).addr = r.addr) (same : a = addr → ∀ r, (f r).image = r.image)
    (rs : List ImageRecord) :
    ((updateFirst a f rs).filter (·.addr = addr)).map (·.image) =
      (rs.filter (·.addr = addr)).map (·.image) := by
  induction rs with
  | nil => rfl
  | cons r rest ih =>
    rw [updateFirst]
    split
    · next first =>
      by_cases e : r.addr = addr
      · have here : a = addr := first.symm.trans e
        simp [stays, e, same here]
      · simp [stays, e]
    · by_cases e : r.addr = addr <;> simpa [e] using ih

end ImageLoader
