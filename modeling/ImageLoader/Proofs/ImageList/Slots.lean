import ImageLoader.Proofs.ImageList.Records
import Mathlib.Data.List.Induction
import Mathlib.Order.Bounds.Basic
/-! The slots of an image list, through all that is done to it. Each of them is on the chain or on the free
stack. An append takes a new slot only when none is free, and nothing else adds one; so there are as many
slots as there ever were records at once. -/

namespace ImageLoader.ImageList

/-- What changes the storage. -/
inductive Edit
  | append (r : ImageRecord)
  | remove (addr : UInt64)
  | update (addr : UInt64) (f : ImageRecord → ImageRecord)

def Edit.apply : Edit → ImageList → ImageList
  | .append r, l => l.append r
  | .remove addr, l => (l.remove addr).2
  | .update addr f, l => (l.update addr f).2

def ofEdits (edits : List Edit) : ImageList := edits.foldl (fun l e => e.apply l) {}

/-- How many records the storage had before these edits and after each of them. -/
def counts (edits : List Edit) : Set Nat :=
  {n | ∃ earlier, earlier <+: edits ∧ (ofEdits earlier).count = n}

/-- The links lead from `cursor` to these slots, each of them occupied, and end after the last. -/
inductive Chain (l : ImageList) : (cursor : Option Nat) → List Nat → Prop
  | stop : Chain l none []
  | link {i : Nat} {node : ImageNode} {rest : List Nat} :
    l.node? i = some node → Chain l node.next rest → Chain l (some i) (i :: rest)

/-- Slot `i` is occupied and once on the chain, or it is empty and once on the free stack. -/
def Accounted (l : ImageList) (chain : List Nat) (i : Nat) : Prop :=
  ((l.node? i).isSome ∧ chain.count i = 1 ∧ l.free.count i = 0) ∨
    ((l.node? i).isNone ∧ chain.count i = 0 ∧ l.free.count i = 1)

structure Allotted (l : ImageList) (chain : List Nat) : Prop where
  links : l.Chain l.first chain
  last : l.last = chain.getLast?
  slots : ∀ i < l.slots.size, l.Accounted chain i
  inside : ∀ i ∈ chain ++ l.free, i < l.slots.size
  live : l.count = chain.length
  total : l.count + l.free.length = l.slots.size

variable {l : ImageList} {cells : List Cell}

theorem Chain.unique {cursor : Option Nat} {a b : List Nat} (ha : l.Chain cursor a)
    (hb : l.Chain cursor b) : a = b := by
  induction ha generalizing b with
  | stop =>
    cases hb
    rfl
  | link here _ ih =>
    cases hb with
    | link here' rest =>
      obtain rfl := Option.some.inj (here.symm.trans here')
      rw [ih rest]

theorem chain_linked (chain : ∀ x ∈ linked cells none, l.node? x.1 = some x.2) :
    l.Chain (entry cells none) (cells.map (·.1)) := by
  induction cells with
  | nil => exact .stop
  | cons c rest ih =>
    have here := chain (c.1, ⟨c.2, entry rest none⟩) (by simp [linked])
    exact .link here (ih fun x hx => chain x (by simp [linked, hx]))

namespace Holds

theorem isSome_node? (h : l.Holds cells) {i : Nat} (hi : i ∈ cells.map (·.1)) : (l.node? i).isSome := by
  rw [← map_fst_linked cells none] at hi
  obtain ⟨x, hx, rfl⟩ := List.mem_map.1 hi
  rw [h.chain x hx]
  rfl

theorem accounted (h : l.Holds cells) {i : Nat} (hi : i < l.slots.size) :
    l.Accounted (cells.map (·.1)) i := by
  have mem : i ∈ l.free ++ cells.map (·.1) := h.slots.symm.subset (List.mem_range.2 hi)
  have once := List.count_eq_one_of_mem h.nodup mem
  rw [List.count_append] at once
  rcases List.mem_append.1 mem with free | onChain
  · have counted := List.count_pos_iff.2 free
    exact .inr ⟨by rw [h.vacant i free]; rfl, by omega, by omega⟩
  · have counted := List.count_pos_iff.2 onChain
    exact .inl ⟨h.isSome_node? onChain, by omega, by omega⟩

theorem allotted (h : l.Holds cells) : l.Allotted (cells.map (·.1)) where
  links := h.first ▸ chain_linked h.chain
  last := by rw [h.last, List.getLast?_map]
  slots _ hi := h.accounted hi
  inside _ hi := h.lt_size (List.mem_append.1 hi).symm
  live := by rw [h.count, List.length_map]
  total := by
    rw [h.count, Nat.add_comm]
    exact h.length_add

end Holds

theorem size_splice (l : ImageList) (before next : Option Nat) :
    (l.splice before next).slots.size = l.slots.size := by
  cases before with
  | none => rfl
  | some b => exact (relink_frame l b next).2.2.2

theorem size_append (h : l.Holds cells) (r : ImageRecord) :
    (l.append r).slots.size = max l.slots.size (l.count + 1) := by
  rw [append_eq]
  change (splice _ _ _).slots.size = _
  rw [size_splice, h.count, ← h.length_add, place]
  cases free : l.free with
  | nil =>
    have full := h.length_add
    simp only [free, List.length_nil] at full ⊢
    rw [Array.size_push]
    omega
  | cons i rest =>
    have some := h.length_add
    simp only [free, List.length_cons] at some ⊢
    rw [Array.size_setIfInBounds]
    omega

theorem size_remove (h : l.Holds cells) (addr : UInt64) :
    (l.remove addr).2.slots.size = l.slots.size := by
  rcases exists_split cells addr with absent | ⟨pre, i, r, post, rfl, hpre, hr⟩
  · rw [h.remove_absent absent]
  · rw [h.remove_eq hpre hr]
    change (splice _ _ _).slots.size = _
    rw [size_splice, Array.size_setIfInBounds]

theorem size_update (h : l.Holds cells) (addr : UInt64) (f : ImageRecord → ImageRecord) :
    (l.update addr f).2.slots.size = l.slots.size := by
  rcases exists_split cells addr with absent | ⟨pre, i, r, post, rfl, hpre, hr⟩
  · rw [h.update_absent absent]
  · rw [h.update_eq hpre hr]
    exact Array.size_setIfInBounds

theorem Edit.chained (e : Edit) (h : l.Chained) : (e.apply l).Chained := by
  cases e with
  | append r => exact chained_append h r
  | remove addr => exact (remove_spec h addr).1
  | update addr f => exact (update_spec h addr f).1

theorem count_le_size (h : l.Chained) : l.count ≤ l.slots.size := by
  obtain ⟨cells, h⟩ := h
  rw [h.count, ← h.length_add]
  omega

/-- One edit: the storage grows exactly as far as the records need. -/
theorem Edit.size_apply (e : Edit) (h : l.Chained) :
    (e.apply l).slots.size = max (e.apply l).count l.slots.size := by
  have fits := count_le_size (e.chained h)
  obtain ⟨cells, h⟩ := h
  cases e with
  | append r =>
    rw [max_comm]
    exact size_append h r
  | remove addr =>
    have same := size_remove h addr
    exact same.trans (max_eq_right (fits.trans same.le)).symm
  | update addr f =>
    have same := size_update h addr f
    exact same.trans (max_eq_right (fits.trans same.le)).symm

theorem ofEdits_concat (edits : List Edit) (e : Edit) :
    ofEdits (edits ++ [e]) = e.apply (ofEdits edits) := List.foldl_concat _ _ _ _

theorem counts_nil : counts [] = {0} := by
  ext n
  simp only [counts, List.prefix_nil, exists_eq_left, Set.mem_ofPred_eq, Set.mem_singleton_iff]
  exact eq_comm

theorem counts_concat (edits : List Edit) (e : Edit) :
    counts (edits ++ [e]) = insert (ofEdits (edits ++ [e])).count (counts edits) := by
  ext n
  simp only [counts, List.prefix_concat_iff, Set.mem_ofPred_eq, Set.mem_insert_iff]
  constructor
  · rintro ⟨earlier, rfl | before, rfl⟩
    · exact .inl rfl
    · exact .inr ⟨earlier, before, rfl⟩
  · rintro (rfl | ⟨earlier, before, rfl⟩)
    · exact ⟨_, .inl rfl, rfl⟩
    · exact ⟨earlier, .inr before, rfl⟩

theorem chained_ofEdits (edits : List Edit) : (ofEdits edits).Chained := by
  induction edits using List.reverseRecOn with
  | nil => exact chained_empty
  | append_singleton edits e ih =>
    rw [ofEdits_concat]
    exact e.chained ih

/-- A run of edits: the storage is as large as the most records that it ever had to hold. -/
theorem isGreatest_counts (edits : List Edit) :
    IsGreatest (counts edits) (ofEdits edits).slots.size := by
  induction edits using List.reverseRecOn with
  | nil =>
    rw [counts_nil]
    exact isGreatest_singleton
  | append_singleton edits e ih =>
    rw [counts_concat, ofEdits_concat, e.size_apply (chained_ofEdits edits)]
    exact ih.insert _

/-- No slot is lost or used twice, whatever is done to an empty storage: every slot is occupied and on the
chain from the first record, once, or empty and on the free stack, once. There are no more slots than there
were records when there were most of them. -/
theorem slots_ofEdits (edits : List Edit) :
    (∃ chain, (ofEdits edits).Allotted chain) ∧
      IsGreatest (counts edits) (ofEdits edits).slots.size := by
  obtain ⟨cells, holds⟩ := chained_ofEdits edits
  exact ⟨⟨_, holds.allotted⟩, isGreatest_counts edits⟩

/-- Two records of one address, removals in the middle and at the head, the later of the two slots used
again. -/
def churn : List Edit :=
  let r (addr : UInt64) (path : String) : ImageRecord := .new (.new addr .dylib path 0)
  [.append (r 1 "libA"), .append (r 2 "libB"), .append (r 1 "libC"), .remove 2, .remove 1,
    .append (r 3 "libD"), .update 1 fun record => { record with realized := true }]

theorem slots_ofEdits_churn :
    (ofEdits churn).Allotted [2, 0] ∧ (ofEdits churn).free = [1] ∧ (ofEdits churn).count = 2 ∧
      IsGreatest (counts churn) 3 := by
  obtain ⟨⟨chain, allotted⟩, peak⟩ := slots_ofEdits churn
  have links : (ofEdits churn).Chain (ofEdits churn).first [2, 0] := .link rfl (.link rfl .stop)
  obtain rfl := allotted.links.unique links
  exact ⟨allotted, rfl, rfl, peak⟩

end ImageLoader.ImageList
