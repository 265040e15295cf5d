/-! 64-bit addresses and sizes: addition that stops at the top of the address space, relocation that
goes around it, and the hexadecimal text of a word. -/

namespace ImageLoader

namespace Word

/-- The sum, or the largest word where the sum does not fit. -/
def satAdd (a b : UInt64) : UInt64 :=
  UInt64.ofNat (min (a.toNat + b.toNat) (UInt64.size - 1))

theorem toNat_satAdd (a b : UInt64) :
    (satAdd a b).toNat = min (a.toNat + b.toNat) (UInt64.size - 1) := by
  simp only [satAdd, UInt64.toNat_ofNat', UInt64.size]
  exact Nat.mod_eq_of_lt (by omega)

def relocate (a : UInt64) (slide : Int64) : UInt64 := a + slide.toUInt64

/-- Lower-case digits after `0x`, without leading zeros. -/
def hex (a : UInt64) : String := "0x" ++ String.ofList (Nat.toDigits 16 a.toNat)

end Word

/-- The addresses from `start` up to, not including, `stop`. -/
structure AddrRange where
  start : UInt64
  stop : UInt64
  deriving DecidableEq, Repr

namespace AddrRange

def contains (r : AddrRange) (a : UInt64) : Bool := r.start ≤ a && a < r.stop

def relocate (r : AddrRange) (slide : Int64) : AddrRange :=
  ⟨Word.relocate r.start slide, Word.relocate r.stop slide⟩

end AddrRange

end ImageLoader
