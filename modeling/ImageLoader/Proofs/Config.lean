import ImageLoader.Config
import ImageLoader.Proofs.Text
/-! The limit of a walk, as its variable sets it. The value is a number from one up to the largest of 64 bits,
written in decimal, or in hexadecimal after a prefix; a variable that holds no such number sets nothing. -/

namespace ImageLoader.Config

/-- A number as it may be written for the limit: in decimal, or in hexadecimal after `0x` or `0X`. -/
def Writes (cs : List Char) (n : Nat) : Prop :=
  Text.Numeral 10 cs n ∨
    ∃ rest, (cs = '0' :: 'x' :: rest ∨ cs = '0' :: 'X' :: rest) ∧ Text.Numeral 16 rest n

/-- The variable of the limit holds `n`, which is not zero and fits in 64 bits; blanks around it do not
count. -/
def Holds (lookup : String → Option String) (n : Nat) : Prop :=
  ∃ v core, lookup "OBJC_SO_WALK_LIMIT" = some v ∧ Text.Trimmed v.toList core ∧ Writes core n ∧
    1 ≤ n ∧ n < 2 ^ 64

/-- What comes after a prefix is in hexadecimal, for no decimal number begins like one. -/
theorem writes_prefixed {c : Char} (h : c = 'x' ∨ c = 'X') {rest : List Char} {n : Nat} :
    Writes ('0' :: c :: rest) n ↔ Text.Numeral 16 rest n := by
  constructor
  · rintro (decimal | ⟨rest', e, hexadecimal⟩)
    · have read : Text.number? 10 (n + 1) ('0' :: c :: rest) = some n :=
        (Text.number?_eq_some (by decide)).2 ⟨decimal, n.lt_succ_self⟩
      have zero : Text.digit? 10 '0' = some 0 := rfl
      have letter : Text.digit? 10 c = none := by rcases h with rfl | rfl <;> rfl
      simp [Text.number?, Text.digits?, zero, letter] at read
    · obtain rfl : rest = rest' := by grind
      exact hexadecimal
  · intro hexadecimal
    refine .inr ⟨rest, ?_, hexadecimal⟩
    rcases h with rfl | rfl
    · exact .inl rfl
    · exact .inr rfl

theorem parseLimit?_eq_some {v : String} {n : Nat} :
    parseLimit? v = some n ↔ Writes (Text.trim v.toList) n ∧ 1 ≤ n ∧ n < 2 ^ 64 := by
  have written {radix : Nat} (small : radix ≤ 16) (cs : List Char) :
      Text.number? radix UInt64.size cs = some n ↔ Text.Numeral radix cs n ∧ n < 2 ^ 64 :=
    Text.number?_eq_some small
  unfold parseLimit?
  extract_lets read
  rw [Option.filter_eq_some_iff, decide_eq_true_eq, and_comm (a := 1 ≤ n), ← and_assoc]
  refine and_congr_left fun _ => ?_
  unfold read
  split
  · next rest e => rw [written (by decide), e, writes_prefixed (.inl rfl)]
  · next rest e => rw [written (by decide), e, writes_prefixed (.inr rfl)]
  · next lower upper =>
    rw [written (by decide)]
    refine and_congr_left fun _ => ⟨.inl, ?_⟩
    rintro (decimal | ⟨rest, e | e, -⟩)
    · exact decimal
    · exact absurd e (lower rest)
    · exact absurd e (upper rest)

theorem holds_iff {lookup : String → Option String} {n : Nat} :
    Holds lookup n ↔ (lookup "OBJC_SO_WALK_LIMIT").bind parseLimit? = some n := by
  simp only [Holds, Option.bind_eq_some_iff, parseLimit?_eq_some, ← Text.trim_eq_iff]
  constructor
  · rintro ⟨v, _, set, rfl, writes⟩
    exact ⟨v, set, writes⟩
  · rintro ⟨v, set, writes⟩
    exact ⟨v, _, set, rfl, writes⟩

/-- A number as it is printed: in decimal, or in hexadecimal after `0x`, each letter in either case. -/
def Prints (text : String) (n : Nat) : Prop :=
  text = toString n ∨
    ∃ digits, text = "0x" ++ String.ofList digits ∧ digits.map Char.toLower = Nat.toDigits 16 n

theorem writes_of_prints {text : String} {n : Nat} (prints : Prints text n) : Writes text.toList n := by
  have numeral {radix : Nat} (large : 1 < radix) {cs : List Char}
      (h : cs.map Char.toLower = Nat.toDigits radix n) : Text.Numeral radix cs n := by
    refine ⟨cs, ?_, .inl rfl, Text.denotes_of_toLower large h⟩
    rintro rfl
    exact Nat.toDigits_ne_nil h.symm
  rcases prints with rfl | ⟨digits, rfl, h⟩
  · left
    have text : (toString n).toList = Nat.toDigits 10 n := by
      rw [Nat.toString_eq_ofList_toDigits, String.toList_ofList]
    rw [text]
    exact numeral (by decide) (Text.toLower_toDigits (by decide) (by decide) n)
  · right
    refine ⟨digits, .inl ?_, numeral (by decide) h⟩
    rw [String.toList_append, String.toList_ofList (l := digits)]
    rfl

theorem not_isBlank_of_writes {cs : List Char} {n : Nat} (writes : Writes cs n) :
    ∀ c ∈ cs, ¬ Text.isBlank c := by
  rcases writes with decimal | ⟨rest, rfl | rfl, hexadecimal⟩
  · exact decimal.not_isBlank (by decide)
  · exact List.forall_mem_cons.2 ⟨by decide, List.forall_mem_cons.2
      ⟨by decide, hexadecimal.not_isBlank (by decide)⟩⟩
  · exact List.forall_mem_cons.2 ⟨by decide, List.forall_mem_cons.2
      ⟨by decide, hexadecimal.not_isBlank (by decide)⟩⟩

/-- The limit is the number that its variable holds, and 4096 if it holds none: if it is not set, or is set to
anything else, as to zero, to a number of more than 64 bits, to a number with a minus sign, or to a sign
alone. It is never zero. A number that is printed into the variable is read from it again. -/
theorem walkLimit_ofLookup (lookup : String → Option String) :
    (∀ n, Holds lookup n → (ofLookup lookup).walkLimit = n) ∧
      ((∀ n, ¬ Holds lookup n) → (ofLookup lookup).walkLimit = 4096) ∧
      (1 ≤ (ofLookup lookup).walkLimit ∧ (ofLookup lookup).walkLimit < 2 ^ 64) ∧
      ∀ text n, lookup "OBJC_SO_WALK_LIMIT" = some text → Prints text n → 1 ≤ n → n < 2 ^ 64 →
        (ofLookup lookup).walkLimit = n := by
  have held (n : Nat) (holds : Holds lookup n) : (ofLookup lookup).walkLimit = n := by
    rw [ofLookup, holds_iff.1 holds]
    rfl
  have unset (none : ∀ n, ¬ Holds lookup n) : (ofLookup lookup).walkLimit = 4096 := by
    simp only [holds_iff, ← Option.eq_none_iff_forall_ne_some] at none
    rw [ofLookup, none]
    rfl
  refine ⟨held, unset, ?_, ?_⟩
  · by_cases some : ∃ n, Holds lookup n
    · obtain ⟨n, holds⟩ := some
      obtain ⟨-, -, -, -, -, range⟩ := id holds
      rwa [held n holds]
    · rw [unset (not_exists.1 some)]
      decide
  · intro text n set prints positive fits
    have writes := writes_of_prints prints
    have trimmed := Text.trim_eq_iff.1 (Text.trim_eq_self (not_isBlank_of_writes writes))
    exact held n ⟨text, text.toList, set, trimmed, writes, positive, fits⟩

def limitSetTo (value : Option String) (name : String) : Option String :=
  if name = "OBJC_SO_WALK_LIMIT" then value else none

def largestLimit : String → Option String := limitSetTo (some "\t 0X+00fFfFfFfFfFfFfFfF\u3000")

/-- Not set, too large, zero, without digits, and with more signs than may be. -/
def limitless : List (Option String) :=
  [none, some "18446744073709551616", some "0x0", some "+", some "-5", some "0x", some "++1"]

theorem walkLimit_ofLookup_extremes :
    (Holds largestLimit (2 ^ 64 - 1) ∧ (ofLookup largestLimit).walkLimit = 2 ^ 64 - 1) ∧
    (∀ v ∈ limitless,
      (∀ n, ¬ Holds (limitSetTo v) n) ∧ (ofLookup (limitSetTo v)).walkLimit = 4096) ∧
    (Prints "48879" 48879 ∧ (ofLookup (limitSetTo (some "48879"))).walkLimit = 48879) ∧
    Prints "0xBeeF" 48879 ∧ (ofLookup (limitSetTo (some "0xBeeF"))).walkLimit = 48879 := by
  refine ⟨?_, ?_, ?_, ?_⟩
  · have holds : Holds largestLimit (2 ^ 64 - 1) := holds_iff.2 (by decide +kernel)
    exact ⟨holds, (walkLimit_ofLookup _).1 _ holds⟩
  · intro v hv
    have unread : ∀ v ∈ limitless, (limitSetTo v "OBJC_SO_WALK_LIMIT").bind parseLimit? = none := by
      decide +kernel
    have none : ∀ n, ¬ Holds (limitSetTo v) n := by simp [holds_iff, unread v hv]
    exact ⟨none, (walkLimit_ofLookup _).2.1 none⟩
  · have prints : Prints "48879" 48879 := .inl (by decide +kernel)
    exact ⟨prints, (walkLimit_ofLookup _).2.2.2 _ _ rfl prints (by decide) (by decide)⟩
  · have prints : Prints "0xBeeF" 48879 := .inr ⟨['B', 'e', 'e', 'F'], by decide +kernel⟩
    exact ⟨prints, (walkLimit_ofLookup _).2.2.2 _ _ rfl prints (by decide) (by decide)⟩

end ImageLoader.Config
