import Mathlib.Data.List.Basic
import ImageLoader.Word
/-! Hulls of address ranges. A range that is joined to others one after another begins where the first of
them begins and ends where the last of them ends, whatever the order; ends are compared as they are, those
stopped at the top of the address space included. -/

namespace ImageLoader

namespace Word

theorem le_satAdd (a b : UInt64) : a ≤ satAdd a b := by
  have bound := a.toNat_lt
  rw [UInt64.le_iff_toNat_le, toNat_satAdd, UInt64.size]
  omega

theorem min_eq_or (a b : UInt64) : min a b = a ∨ min a b = b := by
  simp only [← UInt64.toNat_inj, UInt64.toNat_min]
  omega

theorem max_eq_or (a b : UInt64) : max a b = a ∨ max a b = b := by
  simp only [← UInt64.toNat_inj, UInt64.toNat_max]
  omega

end Word

namespace AddrRange

/-- The least range around both. -/
def join (r x : AddrRange) : AddrRange := ⟨min r.start x.start, max r.stop x.stop⟩

/-- The range is the hull of these: no other has an earlier start or a later end, and it has no more. -/
structure Spans (r : AddrRange) (ranges : List AddrRange) : Prop where
  begins : ∃ x ∈ ranges, x.start = r.start
  least : ∀ x ∈ ranges, r.start ≤ x.start
  ends : ∃ x ∈ ranges, x.stop = r.stop
  greatest : ∀ x ∈ ranges, x.stop ≤ r.stop

variable {r r' : AddrRange} {ranges ranges' : List AddrRange}

theorem spans_singleton (r : AddrRange) : r.Spans [r] := by
  constructor <;> simp

namespace Spans

theorem join (h : r.Spans ranges) (x : AddrRange) : (r.join x).Spans (ranges ++ [x]) := by
  obtain ⟨⟨first, hf, begins⟩, least, ⟨last, hl, ends⟩, greatest⟩ := h
  refine ⟨?_, ?_, ?_, ?_⟩
  · rcases Word.min_eq_or r.start x.start with e | e
    · exact ⟨first, List.mem_append_left _ hf, begins.trans e.symm⟩
    · exact ⟨x, by simp, e.symm⟩
  · intro y hy
    rw [AddrRange.join, UInt64.le_iff_toNat_le, UInt64.toNat_min]
    rcases List.mem_append.1 hy with old | new
    · have := UInt64.le_iff_toNat_le.1 (least y old)
      omega
    · rw [List.mem_singleton.1 new]
      omega
  · rcases Word.max_eq_or r.stop x.stop with e | e
    · exact ⟨last, List.mem_append_left _ hl, ends.trans e.symm⟩
    · exact ⟨x, by simp, e.symm⟩
  · intro y hy
    rw [AddrRange.join, UInt64.le_iff_toNat_le, UInt64.toNat_max]
    rcases List.mem_append.1 hy with old | new
    · have := UInt64.le_iff_toNat_le.1 (greatest y old)
      omega
    · rw [List.mem_singleton.1 new]
      omega

theorem foldl (h : r.Spans ranges) (more : List AddrRange) :
    (more.foldl AddrRange.join r).Spans (ranges ++ more) := by
  induction more generalizing r ranges with
  | nil => simpa using h
  | cons x rest ih => simpa using ih (h.join x)

/-- A hull does not depend on the order. -/
theorem unique (h : r.Spans ranges) (h' : r'.Spans ranges') (same : ranges.Perm ranges') : r = r' := by
  obtain ⟨first, hf, begins⟩ := h.begins
  obtain ⟨first', hf', begins'⟩ := h'.begins
  obtain ⟨last, hl, ends⟩ := h.ends
  obtain ⟨last', hl', ends'⟩ := h'.ends
  have start : r.start = r'.start := by
    apply UInt64.le_antisymm
    · exact begins' ▸ h.least _ (same.mem_iff.2 hf')
    · exact begins ▸ h'.least _ (same.mem_iff.1 hf)
  have stop : r.stop = r'.stop := by
    apply UInt64.le_antisymm
    · exact ends ▸ h'.greatest _ (same.mem_iff.1 hl)
    · exact ends' ▸ h.greatest _ (same.mem_iff.2 hl')
  cases r
  cases r'
  simp_all

end Spans

end AddrRange

end ImageLoader
