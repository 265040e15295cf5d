/-! Natural numbers in a radix up to sixteen, with an optional plus sign, as far as they fit a bound.
Reading the written digits gives the number again. -/

namespace ImageLoader.Text

/-- The value of a digit; letters of either case go on from ten. -/
def digit? (radix : Nat) (c : Char) : Option Nat :=
  let n := c.toNat
  let d :=
    if 0x30 ≤ n ∧ n ≤ 0x39 then n - 0x30
    else if 0x61 ≤ n ∧ n ≤ 0x66 then n - 0x61 + 10
    else if 0x41 ≤ n ∧ n ≤ 0x46 then n - 0x41 + 10
    else radix
  if d < radix then some d else none

def digits? (radix : Nat) (value : Nat) : List Char → Option Nat
  | [] => some value
  | c :: r =>
    match digit? radix c with
    | some d => digits? radix (value * radix + d) r
    | none => none

/-- One or more digits after at most one plus sign, for a number below `bound`. -/
def number? (radix bound : Nat) (s : List Char) : Option Nat :=
  let digits := match s with
    | '+' :: r => r
    | _ => s
  if digits.isEmpty then none
  else match digits? radix 0 digits with
    | some n => if n < bound then some n else none
    | none => none

end ImageLoader.Text
