import ImageLoader.Bytes
import Mathlib.Algebra.Order.Ring.Nat
import Mathlib.Data.Nat.Digits.Lemmas
/-! Numbers and texts in byte strings. Reading a number back from its written digits gives the number
again, up to what fits; a field read inside a window is the field of the whole string at the shifted
place, and one read in strings put together is that of the string it lies in. -/

namespace ImageLoader.Bytes

theorem toNat_ofNat (w n : Nat) : toNat (ofNat w n) = n % 256 ^ w := by
  induction w generalizing n with
  | zero => simp [ofNat, toNat, Nat.mod_one]
  | succ w ih =>
    have digit : (UInt8.ofNat n).toNat = n % 256 := by simp
    rw [ofNat, toNat, ih, digit, Nat.pow_succ' (n := w), Nat.mod_mul]

/-- The little-endian number in the `width` bytes from `start` on, if all of them are there. -/
def number? (b : Bytes) (start width : Nat) : Option Nat :=
  (b.window? start width).map fun w => Nat.ofDigits 256 (w.map UInt8.toNat)

theorem toNat_eq_ofDigits (b : Bytes) : toNat b = Nat.ofDigits 256 (b.map UInt8.toNat) := by
  induction b with
  | nil => rfl
  | cons x rest ih => rw [toNat, List.map_cons, Nat.ofDigits_cons, ih]

theorem toNat_lt (b : Bytes) : toNat b < 256 ^ b.length := by
  rw [toNat_eq_ofDigits]
  have digits := Nat.ofDigits_lt_base_pow_length (b := 256) (l := b.map UInt8.toNat) (by decide) <| by
    intro x h
    obtain ⟨y, -, rfl⟩ := List.mem_map.1 h
    exact y.toNat_lt
  simpa using digits

variable {b : Bytes} {i w : Nat}

theorem number?_eq_field (h : i + w ≤ b.length) : b.number? i w = some (b.field i w) := by
  rw [number?, window?, if_pos h, field, toNat_eq_ofDigits]
  rfl

theorem field_lt (b : Bytes) (i w : Nat) : b.field i w < 256 ^ w := by
  refine (toNat_lt _).trans_le (Nat.pow_le_pow_right (by decide) ?_)
  rw [List.length_take]
  exact Nat.min_le_left _ _

theorem number?_u16 (h : i + 2 ≤ b.length) : b.number? i 2 = some (b.u16 i).toNat := by
  rw [number?_eq_field h, u16, UInt16.toNat_ofNat_of_lt' (b.field_lt i 2)]

theorem number?_u32 (h : i + 4 ≤ b.length) : b.number? i 4 = some (b.u32 i).toNat := by
  rw [number?_eq_field h, u32, UInt32.toNat_ofNat_of_lt' (b.field_lt i 4)]

theorem number?_u64 (h : i + 8 ≤ b.length) : b.number? i 8 = some (b.u64 i).toNat := by
  rw [number?_eq_field h, u64, UInt64.toNat_ofNat_of_lt' (b.field_lt i 8)]

/-- A window of a window is one of the whole string. -/
theorem window_window {start len : Nat} (h : i + w ≤ len) :
    (((b.drop start).take len).drop i).take w = (b.drop (start + i)).take w := by
  rw [List.drop_take, List.take_take, List.drop_drop, Nat.min_eq_left (by omega)]

theorem number?_window {start len : Nat} (fits : start + len ≤ b.length) (h : i + w ≤ len) :
    number? ((b.drop start).take len) i w = number? b (start + i) w := by
  have inside : i + w ≤ ((b.drop start).take len).length := by
    rw [List.length_take, List.length_drop]
    omega
  rw [number?, number?, window?, window?, if_pos inside, if_pos (by omega), window_window h]

theorem pieces_eq (size count : Nat) (b : Bytes) :
    b.pieces size count = (List.range count).map fun k => (b.drop (size * k)).take size := by
  induction count generalizing b with
  | zero => rfl
  | succ count ih =>
    rw [pieces, ih, List.range_succ_eq_map, List.map_cons, List.map_map]
    congr 1
    refine List.map_congr_left fun k _ => ?_
    rw [List.drop_drop, Function.comp, Nat.mul_succ, Nat.add_comm]

theorem field_append_left {a : Bytes} (h : i + w ≤ a.length) : (a ++ b).field i w = a.field i w := by
  rw [field, field, List.drop_append_of_le_length (by omega), List.take_append_of_le_length]
  rw [List.length_drop]
  omega

theorem field_append_right {a : Bytes} (h : a.length ≤ i) :
    (a ++ b).field i w = b.field (i - a.length) w := by
  rw [field, field, List.drop_append, List.drop_eq_nil_of_le h, List.nil_append]

theorem field_ofNat (w n : Nat) : (ofNat w n).field 0 w = n % 256 ^ w := by
  rw [field, List.drop_zero, List.take_of_length_le (length_ofNat w n).le, toNat_ofNat]

theorem field_ofNat_append (w n : Nat) (b : Bytes) : (ofNat w n ++ b).field 0 w = n % 256 ^ w := by
  rw [field_append_left (by simp), field_ofNat]

/-- Strings of one size that are laid end to end are the pieces of the whole. -/
theorem pieces_flatMap {α : Type} {size : Nat} {f : α → Bytes} {l : List α}
    (h : ∀ a ∈ l, (f a).length = size) (rest : Bytes) :
    pieces size l.length (l.flatMap f ++ rest) = l.map f := by
  induction l with
  | nil => rfl
  | cons a l ih =>
    rw [List.forall_mem_cons] at h
    rw [List.flatMap_cons, List.append_assoc, List.length_cons, pieces, List.take_left' h.1,
      List.drop_left' h.1, ih h.2, List.map_cons]

/-- Only NUL is encoded with a byte of zero. -/
theorem eq_nul_of_zero_mem {c : Char} (h : 0 ∈ String.utf8EncodeChar c) : c = '\x00' := by
  have absent {k : Nat} (low : 0 < k) (high : k < 256) : (0 : UInt8) ≠ UInt8.ofNat k := by
    intro e
    have : k % 256 = 0 := by simpa using congrArg UInt8.toNat e.symm
    omega
  have zero : c.val.toNat = 0 := by
    unfold String.utf8EncodeChar at h
    by_contra some
    generalize c.val.toNat = v at h some
    dsimp only at h
    -- one case for each number of bytes that an encoding can have
    split at h
    · exact absent (by omega) (by omega) (List.mem_singleton.1 h)
    · split at h
      · simp only [List.mem_cons, List.not_mem_nil, or_false] at h
        rcases h with h | h <;> exact absent (by omega) (by omega) h
      · split at h
        · simp only [List.mem_cons, List.not_mem_nil, or_false] at h
          rcases h with h | h | h <;> exact absent (by omega) (by omega) h
        · simp only [List.mem_cons, List.not_mem_nil, or_false] at h
          rcases h with h | h | h | h <;> exact absent (by omega) (by omega) h
  exact Char.ext (UInt32.toNat_inj.1 zero)

theorem ofText_eq_flatMap (s : String) : ofText s = s.toList.flatMap String.utf8EncodeChar := by
  conv_lhs => rw [← String.ofList_toList (s := s)]
  exact List.toList_data_toByteArray

theorem zero_notMem_ofText {s : String} (h : '\x00' ∉ s.toList) : 0 ∉ ofText s := by
  rw [ofText_eq_flatMap, List.mem_flatMap]
  rintro ⟨c, hc, zero⟩
  exact h (eq_nul_of_zero_mem zero ▸ hc)

/-- To leave the NULs out of a text is to leave the zeros out of its bytes. -/
theorem ofText_filter (s : String) :
    ofText (String.ofList (s.toList.filter (· ≠ '\x00'))) = (ofText s).filter (· ≠ 0) := by
  rw [ofText_eq_flatMap, ofText_eq_flatMap, String.toList_ofList]
  induction s.toList with
  | nil => rfl
  | cons c rest ih =>
    rw [List.flatMap_cons, List.filter_append, ← ih]
    by_cases h : c = '\x00'
    · subst h
      rfl
    · have whole : (String.utf8EncodeChar c).filter (· ≠ 0) = String.utf8EncodeChar c := by
        rw [List.filter_eq_self]
        intro x hx
        rw [decide_eq_true_eq]
        rintro rfl
        exact h (eq_nul_of_zero_mem hx)
      rw [List.filter_cons_of_pos (by simpa using h), List.flatMap_cons, whole]

theorem text?_eq_some {s : String} : text? b = some s ↔ b = ofText s := by
  constructor
  · intro h
    unfold text? String.fromUTF8? at h
    split at h
    · obtain rfl := Option.some.inj h
      rfl
    · cases h
  · rintro rfl
    exact text?_ofText s

/-- The bytes `part` stand in `b` from `i` on. -/
def HasAt (b : Bytes) (i : Nat) (part : Bytes) : Prop :=
  ∃ before after, b = before ++ (part ++ after) ∧ before.length = i

namespace HasAt

variable {a b part : Bytes} {i : Nat}

theorem append_left (h : HasAt b i part) : HasAt (a ++ b) (a.length + i) part := by
  obtain ⟨before, after, rfl, rfl⟩ := h
  exact ⟨a ++ before, after, by simp only [List.append_assoc], List.length_append⟩

theorem append_right (h : HasAt a i part) : HasAt (a ++ b) i part := by
  obtain ⟨before, after, rfl, rfl⟩ := h
  exact ⟨before, after ++ b, by simp only [List.append_assoc], rfl⟩

theorem le_length (h : HasAt b i part) : i + part.length ≤ b.length := by
  obtain ⟨before, after, rfl, rfl⟩ := h
  simp only [List.length_append]
  omega

theorem trans {inner : Bytes} {j : Nat} (h : HasAt b i part) (h' : HasAt part j inner) :
    HasAt b (i + j) inner := by
  obtain ⟨before, after, rfl, rfl⟩ := h
  simpa only [List.append_assoc] using h'.append_right.append_left

theorem flatten {l : List Bytes} {k : Nat} (h : l[k]? = some part) :
    HasAt l.flatten (l.take k).flatten.length part := by
  obtain ⟨inside, rfl⟩ := List.getElem?_eq_some_iff.1 h
  refine ⟨(l.take k).flatten, (l.drop (k + 1)).flatten, ?_, rfl⟩
  rw [← List.flatten_cons, ← List.drop_eq_getElem_cons inside, ← List.flatten_append,
    List.take_append_drop]

theorem drop_eq (h : HasAt b i part) : ∃ after, b.drop i = part ++ after := by
  obtain ⟨before, after, rfl, rfl⟩ := h
  exact ⟨after, List.drop_left' rfl⟩

theorem take_drop (h : HasAt b i part) : (b.drop i).take part.length = part := by
  obtain ⟨after, he⟩ := h.drop_eq
  rw [he, List.take_left' rfl]

end HasAt

end ImageLoader.Bytes
