/-! Byte strings as lists: windows that must lie inside, little-endian fields read and written, and
UTF-8 text. -/

namespace ImageLoader

abbrev Bytes := List UInt8

namespace Bytes

/-- The `len` bytes from `start` on, if all of them are there. -/
def window? (b : Bytes) (start len : Nat) : Option Bytes :=
  if start + len ≤ b.length then some ((b.drop start).take len) else none

/-- The number with these little-endian digits. -/
def toNat : Bytes → Nat
  | [] => 0
  | x :: r => x.toNat + 256 * toNat r

/-- The `width` lowest little-endian digits of `n`. -/
def ofNat : (width : Nat) → (n : Nat) → Bytes
  | 0, _ => []
  | w + 1, n => UInt8.ofNat n :: ofNat w (n / 256)

@[simp] theorem length_ofNat (w n : Nat) : (ofNat w n).length = w := by
  induction w generalizing n with
  | zero => rfl
  | succ w ih => simp [ofNat, ih]

def field (b : Bytes) (i width : Nat) : Nat := toNat ((b.drop i).take width)

def u16 (b : Bytes) (i : Nat) : UInt16 := UInt16.ofNat (b.field i 2)

def u32 (b : Bytes) (i : Nat) : UInt32 := UInt32.ofNat (b.field i 4)

def u64 (b : Bytes) (i : Nat) : UInt64 := UInt64.ofNat (b.field i 8)

def of16 (x : UInt16) : Bytes := ofNat 2 x.toNat

def of32 (x : UInt32) : Bytes := ofNat 4 x.toNat

def of64 (x : UInt64) : Bytes := ofNat 8 x.toNat

/-- The text these bytes encode, if they are UTF-8. -/
def text? (b : Bytes) : Option String := String.fromUTF8? ⟨b.toArray⟩

def ofText (s : String) : Bytes := s.toUTF8.data.toList

theorem text?_ofText (s : String) : text? (ofText s) = some s := by
  have h : (ByteArray.mk s.toUTF8.data.toList.toArray) = s.toUTF8 := by simp
  have v : s.toUTF8.IsValidUTF8 := s.isValidUTF8
  rw [text?, ofText, h, String.fromUTF8?, dif_pos v]
  rfl

/-- The first `count` pieces of `size` bytes. -/
def pieces (size : Nat) : (count : Nat) → Bytes → List Bytes
  | 0, _ => []
  | k + 1, b => b.take size :: pieces size k (b.drop size)

end Bytes

end ImageLoader
