import ImageLoader.Text.Blank
import ImageLoader.Text.Number
import Mathlib.Data.List.DropRight
import Mathlib.Data.List.Forall2
import Mathlib.Data.Nat.Digits.Defs
import Mathlib.Tactic.IntervalCases
/-! Texts without the blanks around them, and numbers as they are written: an optional plus sign, then digits
of the radix, letters among them in either case. The readers accept exactly these. -/

namespace ImageLoader.Text

/-- Between blanks, `core` is all of the text, and it neither begins nor ends with a blank. -/
structure Trimmed (s core : List Char) : Prop where
  parts : ∃ left right, s = left ++ (core ++ right) ∧ (∀ c ∈ left, isBlank c) ∧ ∀ c ∈ right, isBlank c
  first : ∀ h : core ≠ [], ¬ isBlank (core.head h)
  last : ∀ h : core ≠ [], ¬ isBlank (core.getLast h)

theorem trim_eq (s : List Char) : trim s = (s.dropWhile isBlank).rdropWhile isBlank := rfl

theorem trimmed_trim (s : List Char) : Trimmed s (trim s) := by
  rw [trim_eq]
  have left := s.takeWhile_append_dropWhile (p := isBlank)
  have first (h : s.dropWhile isBlank ≠ []) := List.head_dropWhile_not isBlank h
  generalize s.dropWhile isBlank = rest at left first
  have right : rest.rdropWhile isBlank ++ rest.rtakeWhile isBlank = rest :=
    List.rdropWhile_append_rtakeWhile
  refine ⟨⟨_, _, (left.symm.trans (congrArg _ right.symm)), ?_, ?_⟩, ?_, ?_⟩
  · exact fun c hc => List.mem_takeWhile_imp hc
  · exact fun c hc => List.mem_rtakeWhile_imp hc
  · -- what is left begins as it did before its end was cut off
    intro some
    rw [(rest.rdropWhile_prefix isBlank).head some]
    simp [first]
  · exact rest.rdropWhile_last_not isBlank

theorem Trimmed.trim_eq {s core : List Char} (h : Trimmed s core) : trim s = core := by
  obtain ⟨⟨left, right, rfl, hleft, hright⟩, first, last⟩ := h
  rw [Text.trim_eq, List.dropWhile_append_of_pos hleft]
  rcases core with - | ⟨c, rest⟩
  · rw [List.nil_append, List.dropWhile_eq_nil_iff.2 hright]
    rfl
  · have first : ¬ isBlank c := first (List.cons_ne_nil c rest)
    rw [List.cons_append, List.dropWhile_cons_of_neg first, ← List.cons_append, List.rdropWhile,
      List.reverse_append, List.dropWhile_append_of_pos fun c hc => hright c (List.mem_reverse.1 hc)]
    exact List.rdropWhile_eq_self_iff.2 last

theorem trim_eq_iff {s core : List Char} : trim s = core ↔ Trimmed s core :=
  ⟨fun h => h ▸ trimmed_trim s, Trimmed.trim_eq⟩

theorem trim_eq_self {s : List Char} (h : ∀ c ∈ s, ¬ isBlank c) : trim s = s :=
  trim_eq_iff.2 ⟨⟨[], [], by simp, by simp, by simp⟩, fun some => h _ (List.head_mem some),
    fun some => h _ (List.getLast_mem some)⟩

/-- `c` is the digit `d` of this radix; a letter may be of either case. -/
def Stands (radix : Nat) (c : Char) (d : Nat) : Prop := d < radix ∧ c.toLower = Nat.digitChar d

/-- Digits of this radix that stand for `n`. -/
def Denotes (radix : Nat) (cs : List Char) (n : Nat) : Prop :=
  ∃ ds, List.Forall₂ (Stands radix) cs ds ∧ n = Nat.ofDigits radix ds.reverse

/-- At most one plus sign, and one or more digits that stand for `n`. -/
def Numeral (radix : Nat) (cs : List Char) (n : Nat) : Prop :=
  ∃ digits, digits ≠ [] ∧ (cs = digits ∨ cs = '+' :: digits) ∧ Denotes radix digits n

theorem toNat_toLower (c : Char) :
    c.toLower.toNat = if 65 ≤ c.toNat ∧ c.toNat ≤ 90 then c.toNat + 32 else c.toNat := by
  have upper : ('A'.val ≤ c.val ∧ c.val ≤ 'Z'.val) ↔ 65 ≤ c.toNat ∧ c.toNat ≤ 90 := Iff.rfl
  unfold Char.toLower
  by_cases h : 65 ≤ c.toNat ∧ c.toNat ≤ 90
  · rw [dif_pos (upper.2 h), if_pos h]
    change (c.val + ('a'.val - 'A'.val)).toNat = c.val.toNat + 32
    have small : c.val.toNat ≤ 90 := h.2
    have step : ('a'.val - 'A'.val).toNat = 32 := rfl
    rw [UInt32.toNat_add, step]
    omega
  · rw [dif_neg (mt upper.1 h), if_neg h]

theorem toNat_digitChar {d : Nat} (h : d < 16) :
    (Nat.digitChar d).toNat = if d < 10 then 48 + d else 87 + d := by
  interval_cases d <;> rfl

variable {radix value n : Nat} {cs : List Char} {c : Char} {d : Nat}

theorem digit?_eq_some (small : radix ≤ 16) : digit? radix c = some d ↔ Stands radix c d := by
  have stands : Stands radix c d ↔
      d < radix ∧ c.toLower.toNat = if d < 10 then 48 + d else 87 + d := by
    refine and_congr_right fun h => ?_
    rw [← toNat_digitChar (h.trans_le small), Char.toNat_inj]
  rw [stands, toNat_toLower]
  simp only [digit?, Option.ite_none_right_eq_some, Option.some.injEq]
  split_ifs <;> omega

theorem Stands.not_isBlank (small : radix ≤ 16) (h : Stands radix c d) : ¬ isBlank c := by
  have code := congrArg Char.toNat h.2
  rw [toNat_toLower, toNat_digitChar (h.1.trans_le small)] at code
  have digit : d < 16 := h.1.trans_le small
  have range : 48 ≤ c.toNat ∧ c.toNat ≤ 102 := by split_ifs at code <;> omega
  simp only [isBlank, Bool.or_eq_true, Bool.and_eq_true, decide_eq_true_eq]
  omega

theorem Denotes.not_isBlank (small : radix ≤ 16) (h : Denotes radix cs n) : ∀ c ∈ cs, ¬ isBlank c := by
  obtain ⟨ds, digits, -⟩ := h
  induction digits with
  | nil => exact List.forall_mem_nil _
  | cons stands _ ih => exact List.forall_mem_cons.2 ⟨stands.not_isBlank small, ih⟩

theorem Numeral.not_isBlank (small : radix ≤ 16) (h : Numeral radix cs n) : ∀ c ∈ cs, ¬ isBlank c := by
  obtain ⟨digits, -, rfl | rfl, denotes⟩ := h
  · exact denotes.not_isBlank small
  · exact List.forall_mem_cons.2 ⟨by decide, denotes.not_isBlank small⟩

/-- The digits are read on from what has been read. -/
theorem digits?_eq_some (small : radix ≤ 16) : digits? radix value cs = some n ↔
    ∃ ds, List.Forall₂ (Stands radix) cs ds ∧ n = ds.foldl (fun v d => v * radix + d) value := by
  induction cs generalizing value with
  | nil => simp [digits?, eq_comm]
  | cons c rest ih =>
    rw [digits?]
    cases first : digit? radix c with
    | none =>
      refine ⟨nofun, ?_⟩
      rintro ⟨_, h, -⟩
      obtain ⟨d, _, stands, -⟩ := List.forall₂_cons_left_iff.1 h
      rw [(digit?_eq_some small).2 stands] at first
      cases first
    | some d =>
      have stands := (digit?_eq_some small).1 first
      rw [ih]
      constructor
      · rintro ⟨ds, rest, value⟩
        exact ⟨d :: ds, .cons stands rest, value⟩
      · rintro ⟨_, h, value⟩
        obtain ⟨d', ds, stands', rest, rfl⟩ := List.forall₂_cons_left_iff.1 h
        rw [(digit?_eq_some small).2 stands', Option.some.injEq] at first
        exact ⟨ds, rest, first ▸ value⟩

theorem foldl_eq_ofDigits (radix : Nat) (ds : List Nat) :
    ds.foldl (fun v d => v * radix + d) 0 = Nat.ofDigits radix ds.reverse := by
  rw [Nat.ofDigits_eq_foldr, List.foldr_reverse]
  simp only [Nat.cast_id, Nat.add_comm, Nat.mul_comm]

theorem digits?_iff_denotes (small : radix ≤ 16) : digits? radix 0 cs = some n ↔ Denotes radix cs n := by
  simp only [digits?_eq_some small, Denotes, foldl_eq_ofDigits]

theorem not_denotes_plus (small : radix ≤ 16) (n : Nat) : ¬ Denotes radix ('+' :: cs) n := by
  rintro ⟨_, h, -⟩
  obtain ⟨d, _, ⟨below, stands⟩, -⟩ := List.forall₂_cons_left_iff.1 h
  have code := congrArg Char.toNat stands
  rw [toNat_toLower, toNat_digitChar (below.trans_le small)] at code
  change 43 = _ at code
  split_ifs at code <;> omega

theorem number?_eq_some (small : radix ≤ 16) {bound : Nat} :
    number? radix bound cs = some n ↔ Numeral radix cs n ∧ n < bound := by
  unfold number?
  extract_lets digits
  have unsigned : Numeral radix cs n ↔ digits ≠ [] ∧ Denotes radix digits n := by
    constructor
    · rintro ⟨digits', some, rfl | rfl, denotes⟩
      · have same : digits = cs := by
          unfold digits
          split
          · exact absurd denotes (not_denotes_plus small n)
          · rfl
        exact same ▸ ⟨some, denotes⟩
      · exact ⟨some, denotes⟩
    · rintro ⟨some, denotes⟩
      refine ⟨digits, some, ?_, denotes⟩
      unfold digits
      split <;> simp
  rw [unsigned, ← digits?_iff_denotes small]
  clear_value digits
  cases digits with
  | nil => simp
  | cons c rest => cases digits? radix 0 (c :: rest) <;> grind

theorem toLower_toDigits (small : radix ≤ 16) (large : 1 < radix) (n : Nat) :
    (Nat.toDigits radix n).map Char.toLower = Nat.toDigits radix n := by
  have lower {d : Nat} (h : d < radix) : (Nat.digitChar d).toLower = Nat.digitChar d := by
    rw [← Char.toNat_inj, toNat_toLower, toNat_digitChar (h.trans_le small)]
    split_ifs <;> omega
  induction n using Nat.strong_induction_on with
  | h n ih =>
    rw [Nat.toDigits_eq_if large]
    split
    · next single => rw [List.map_singleton, lower single]
    · next more =>
      have less : n / radix < n := Nat.div_lt_self (by omega) large
      rw [List.map_append, ih _ less, List.map_singleton, lower (Nat.mod_lt _ (by omega))]

/-- The written digits of a number stand for it, in whatever case each of their letters is. -/
theorem denotes_of_toLower (large : 1 < radix) (h : cs.map Char.toLower = Nat.toDigits radix n) :
    Denotes radix cs n := by
  induction n using Nat.strong_induction_on generalizing cs with
  | h n ih =>
    rw [Nat.toDigits_eq_if large] at h
    split at h
    · next single =>
      obtain ⟨c, rfl, lower⟩ := List.map_eq_singleton_iff.1 h
      exact ⟨[n], .cons ⟨single, lower⟩ .nil, by simp⟩
    · next more =>
      have less : n / radix < n := Nat.div_lt_self (by omega) large
      obtain ⟨before, last, rfl, hbefore, hlast⟩ := List.map_eq_append_iff.1 h
      obtain ⟨c, rfl, lower⟩ := List.map_eq_singleton_iff.1 hlast
      obtain ⟨ds, digits, value⟩ := ih _ less hbefore
      have stands : Stands radix c (n % radix) := ⟨Nat.mod_lt _ (by omega), lower⟩
      refine ⟨ds ++ [n % radix], ?_, ?_⟩
      · exact List.rel_append digits (.cons stands .nil)
      · rw [List.reverse_append, List.reverse_singleton, List.singleton_append, Nat.ofDigits_cons,
          ← value, Nat.mod_add_div]

end ImageLoader.Text
