import Mathlib.Algebra.Group.Nat.Defs
import ImageLoader.Proofs.AddrRange
import ImageLoader.Proofs.Image.Sections
/-! Addresses that an image of an ELF file covers. The loadable entries of the file span a range of link-time
addresses, whatever their order; the image covers that range where it is moved to. So it covers all memory of
the loadable entries but for the last address there is, at which every end stops. -/

namespace ImageLoader

namespace Word

/-- The address does not leave the address space when it is moved. -/
def Stays (a : UInt64) (slide : Int64) : Prop :=
  0 ≤ (a.toNat : Int) + slide.toInt ∧ (a.toNat : Int) + slide.toInt < 2 ^ 64

instance (a : UInt64) (slide : Int64) : Decidable (Stays a slide) :=
  inferInstanceAs (Decidable (_ ∧ _))

/-- It is then the plain sum. -/
theorem Stays.toNat_relocate {a : UInt64} {slide : Int64} (h : Stays a slide) :
    ((relocate a slide).toNat : Int) = a.toNat + slide.toInt := by
  obtain ⟨above, below⟩ := h
  rw [relocate_eq, UInt64.ofInt, UInt64.toNat_ofNat']
  omega

end Word

namespace AddrRange

/-- Neither end leaves the address space when the range is moved. -/
def Stays (r : AddrRange) (slide : Int64) : Prop := Word.Stays r.start slide ∧ Word.Stays r.stop slide

instance (r : AddrRange) (slide : Int64) : Decidable (r.Stays slide) := inferInstanceAs (Decidable (_ ∧ _))

theorem contains_iff {r : AddrRange} {a : UInt64} :
    r.contains a ↔ r.start.toNat ≤ a.toNat ∧ a.toNat < r.stop.toNat := by
  rw [contains, Bool.and_eq_true, decide_eq_true_eq, decide_eq_true_eq, UInt64.le_iff_toNat_le,
    UInt64.lt_iff_toNat_lt]

/-- A moved range contains an address where the range contains the address moved back. -/
theorem Stays.contains_relocate {r : AddrRange} {slide : Int64} (h : r.Stays slide) (a : UInt64) :
    (r.relocate slide).contains a ↔
      (r.start.toNat : Int) ≤ a.toNat - slide.toInt ∧ (a.toNat : Int) - slide.toInt < r.stop.toNat := by
  have start := h.1.toNat_relocate
  have stop := h.2.toNat_relocate
  rw [contains_iff, relocate]
  dsimp only
  omega

theorem Stays.of_contains {r : AddrRange} {slide : Int64} {x : UInt64} (h : r.Stays slide)
    (inside : r.contains x) : Word.Stays x slide := by
  obtain ⟨⟨above, -⟩, -, below⟩ := h
  rw [contains_iff] at inside
  constructor <;> omega

end AddrRange

namespace Elf

def ProgramHeader.range (h : ProgramHeader) : AddrRange := ⟨h.vaddr, h.stop⟩

namespace File

variable {f f' : File}

theorem loadRange?_eq (f : File) :
    f.loadRange? = match f.loads.map (·.range) with
      | [] => none
      | first :: rest => some (rest.foldl AddrRange.join first) := by
  rw [loadRange?]
  cases f.loads with
  | nil => rfl
  | cons first rest => exact congrArg some (List.foldl_map (f := ProgramHeader.range) (g := AddrRange.join)).symm

theorem spans_loads (some_load : ∃ h ∈ f.programs, h.isLoad) :
    ∃ r, f.loadRange? = some r ∧ r.Spans (f.loads.map (·.range)) := by
  obtain ⟨h, mem, load⟩ := some_load
  have listed : h.range ∈ f.loads.map (·.range) := List.mem_map_of_mem (List.mem_filter.2 ⟨mem, load⟩)
  rw [loadRange?_eq]
  cases ranges : f.loads.map (·.range) with
  | nil =>
    rw [ranges] at listed
    cases listed
  | cons first rest => exact ⟨_, rfl, (AddrRange.spans_singleton first).foldl rest⟩

theorem loadRange?_of_perm {r : AddrRange} (same : f'.programs.Perm f.programs)
    (some_load : ∃ h ∈ f.programs, h.isLoad) (range : f.loadRange? = some r) : f'.loadRange? = some r := by
  obtain ⟨h, mem, load⟩ := some_load
  obtain ⟨r₁, range₁, spans⟩ := spans_loads ⟨h, mem, load⟩
  obtain ⟨r', range', spans'⟩ := spans_loads ⟨h, same.mem_iff.2 mem, load⟩
  obtain rfl := Option.some.inj (range.symm.trans range₁)
  rw [range', spans'.unique spans ((same.filter _).map _)]

/-- The range has all of each entry but for the last address there is, at which every end stops. -/
theorem contains_of_mem_loads {r : AddrRange} {h : ProgramHeader} {x : UInt64}
    (spans : r.Spans (f.loads.map (·.range))) (mem : h ∈ f.loads) (from_start : h.vaddr.toNat ≤ x.toNat)
    (to_end : x.toNat < h.vaddr.toNat + h.memsz.toNat) (below_top : x.toNat < 2 ^ 64 - 1) : r.contains x := by
  have listed : h.range ∈ f.loads.map (·.range) := List.mem_map_of_mem mem
  have least : r.start.toNat ≤ h.vaddr.toNat := UInt64.le_iff_toNat_le.1 (spans.least _ listed)
  have greatest : h.stop.toNat ≤ r.stop.toNat := UInt64.le_iff_toNat_le.1 (spans.greatest _ listed)
  rw [ProgramHeader.stop, Word.toNat_satAdd, UInt64.size] at greatest
  rw [AddrRange.contains_iff]
  omega

end File

end Elf

namespace Image

theorem mapped_addNamed (f : Elf.File) (i : Image) (s : Elf.NamedSection) :
    (addNamed f i s).mapped = i.mapped := by
  unfold addNamed
  split
  · rfl
  · dsimp only
    split <;> rfl

theorem mapped_foldl_addNamed (f : Elf.File) (named : List Elf.NamedSection) (i : Image) :
    (named.foldl (addNamed f) i).mapped = i.mapped := by
  induction named generalizing i with
  | nil => rfl
  | cons s rest ih => rw [List.foldl_cons, ih, mapped_addNamed]

theorem mapped_ofFile {f : Elf.File} {r : AddrRange} (range : f.loadRange? = some r) (addr : UInt64)
    (slide : Int64) (path : String) (kind : ImageKind) :
    (ofFile f addr slide path kind).mapped = r.relocate slide := by
  rw [ofFile, mapped_foldl_addNamed]
  change mappedRange f addr slide = _
  rw [mappedRange, range]

/-- What an image covers of the address space is where its loadable entries have come to be. -/
structure CoversLoads (i : Image) (slide : Int64) (f : Elf.File) (r : AddrRange) : Prop where
  contains_iff : ∀ a, i.contains a ↔
    (r.start.toNat : Int) ≤ a.toNat - slide.toInt ∧ (a.toNat : Int) - slide.toInt < r.stop.toNat
  /-- Link-time addresses below the one at which ends stop. -/
  loads : ∀ h ∈ f.loads, ∀ x : UInt64, h.vaddr.toNat ≤ x.toNat →
    x.toNat < h.vaddr.toNat + h.memsz.toNat → x.toNat < 2 ^ 64 - 1 →
    i.contains (UInt64.ofInt (x.toNat + slide.toInt))

theorem coversLoads_ofFile {f : Elf.File} {r : AddrRange} {slide : Int64} (range : f.loadRange? = some r)
    (spans : r.Spans (f.loads.map (·.range))) (stays : r.Stays slide) (addr : UInt64) (path : String)
    (kind : ImageKind) : (ofFile f addr slide path kind).CoversLoads slide f r := by
  have covers (a : UInt64) : (ofFile f addr slide path kind).contains a ↔
      (r.start.toNat : Int) ≤ a.toNat - slide.toInt ∧ (a.toNat : Int) - slide.toInt < r.stop.toNat := by
    rw [contains, mapped_ofFile range]
    exact stays.contains_relocate a
  refine ⟨covers, ?_⟩
  intro h mem x from_start to_end below_top
  have inside := Elf.File.contains_of_mem_loads spans mem from_start to_end below_top
  have moved := (stays.of_contains inside).toNat_relocate
  rw [AddrRange.contains_iff] at inside
  rw [covers, ← Word.relocate_eq]
  omega

end Image

end ImageLoader
