import ImageLoader.Proofs.AddrRange
import ImageLoader.Proofs.Image.Grouping
/-! The extent of a segment. It is computed section by section, from ends that stop at the top of the
address space, and it is the hull of all of the sections. A segment of one section has the extent of that
section, even where that leaves the address space; one of more stays inside. -/

namespace ImageLoader

def Section.range (s : Section) : AddrRange := ⟨s.addr, s.stop⟩

def Segment.range (g : Segment) : AddrRange := ⟨g.vmaddr, g.stop⟩

/-- The segment has these sections, and covers from the least of their addresses to the greatest of their
ends. -/
structure Segment.Covers (g : Segment) (sections : List Section) : Prop where
  listed : g.sections = sections
  hull : g.range.Spans (sections.map (·.range))
  /-- With two or more sections start and size do not wrap. -/
  fits : 2 ≤ sections.length → g.vmaddr.toNat + g.vmsize.toNat < 2 ^ 64

namespace Segment

/-- What is subtracted for the size of a segment is no more than what it is subtracted from. -/
theorem start_le_stop (g : Segment) (s : Section) : min g.vmaddr s.addr ≤ max g.stop s.stop := by
  have first := UInt64.le_iff_toNat_le.1 (Word.le_satAdd g.vmaddr g.vmsize)
  rw [UInt64.le_iff_toNat_le, UInt64.toNat_min, UInt64.toNat_max, stop]
  omega

theorem toNat_push (g : Segment) (s : Section) :
    (g.push s).vmaddr.toNat + (g.push s).vmsize.toNat = (max g.stop s.stop).toNat := by
  have inside := start_le_stop g s
  change (min g.vmaddr s.addr).toNat + (max g.stop s.stop - min g.vmaddr s.addr).toNat = _
  rw [UInt64.toNat_sub_of_le _ _ inside]
  have := UInt64.le_iff_toNat_le.1 inside
  omega

theorem range_push (g : Segment) (s : Section) : (g.push s).range = g.range.join s.range := by
  have stop : (g.push s).stop = max g.stop s.stop := by
    have bound := (max g.stop s.stop).toNat_lt
    apply UInt64.toNat_inj.1
    rw [Segment.stop, Word.toNat_satAdd, toNat_push, UInt64.size]
    omega
  rw [range, stop]
  rfl

theorem covers_single (s : Section) : (single s).Covers [s] where
  listed := rfl
  hull := AddrRange.spans_singleton s.range
  fits two := absurd two (by simp)

variable {g g' : Segment} {sections sections' : List Section}

theorem Covers.push (h : g.Covers sections) (s : Section) : (g.push s).Covers (sections ++ [s]) where
  listed := by rw [Segment.push, h.listed]
  hull := by
    rw [range_push, List.map_append]
    exact h.hull.join s.range
  fits _ := by
    rw [toNat_push]
    exact UInt64.toNat_lt _

theorem Covers.extent_eq (h : g.Covers sections) (h' : g'.Covers sections') (two : 2 ≤ sections.length)
    (same : sections.Perm sections') : g.vmaddr = g'.vmaddr ∧ g.vmsize = g'.vmsize := by
  have range := h.hull.unique h'.hull (same.map _)
  have start : g.vmaddr = g'.vmaddr := congrArg AddrRange.start range
  have stop := congrArg (fun r => r.stop.toNat) range
  have fits := h.fits two
  have fits' := h'.fits (same.length_eq ▸ two)
  refine ⟨start, UInt64.toNat_inj.1 ?_⟩
  simp only [Segment.range, Segment.stop, Word.toNat_satAdd, UInt64.size, start] at stop fits
  omega

end Segment

/-- Only the segment into which the section goes is changed, and it covers that section too. -/
theorem covers_pushSection {segments : List Segment} (h : ∀ g ∈ segments, g.Covers g.sections) (s : Section) :
    ∀ g ∈ pushSection segments s, g.Covers g.sections := by
  induction segments with
  | nil =>
    intro g mem
    rw [List.mem_singleton.1 mem]
    exact Segment.covers_single s
  | cons first rest ih =>
    obtain ⟨here, others⟩ := List.forall_mem_cons.1 h
    rw [pushSection]
    split
    · apply List.forall_mem_cons.2 ⟨_, others⟩
      have pushed := here.push s
      rwa [← pushed.listed] at pushed
    · exact List.forall_mem_cons.2 ⟨here, ih others⟩

theorem covers_foldl (pushed : List Section) {segments : List Segment}
    (h : ∀ g ∈ segments, g.Covers g.sections) :
    ∀ g ∈ pushed.foldl pushSection segments, g.Covers g.sections := by
  induction pushed generalizing segments with
  | nil => exact h
  | cons s rest ih => exact ih (covers_pushSection h s)

namespace Image

/-- Under each name with which sections were pushed there is a segment that covers them. -/
def Covers (i : Image) (pushed : List Section) : Prop :=
  ∀ name, (∃ s ∈ pushed, s.segname = name) →
    ∃ g, i.segment? name = some g ∧ g.Covers (pushed.filter (·.segname = name))

theorem covers_of_segments {i : Image} {pushed : List Section}
    (h : i.segments = pushed.foldl ImageLoader.pushSection []) : i.Covers pushed := by
  intro name ⟨s, mem, named⟩
  have grouped : Grouped pushed i.segments := h ▸ grouped_nil.foldl pushed
  have covers : ∀ g ∈ i.segments, g.Covers g.sections := h ▸ covers_foldl pushed (by simp)
  obtain ⟨g, found⟩ : ∃ g, i.segment? name = some g :=
    Option.isSome_iff_exists.1 ((grouped.isSome_find? name).2 ⟨s, mem, named⟩)
  have mine := List.mem_of_find?_eq_some found
  have e : g.name = name := by simpa using List.find?_some found
  refine ⟨g, found, ?_⟩
  rw [← e, ← grouped.sections g mine]
  exact covers g mine

/-- The extent of a segment is the hull of the sections that were pushed into it, and no subtraction on the
way goes below zero. What two or more sections come to does not depend on their order. -/
theorem covers_pushed :
    (∀ (g : Segment) (s : Section), (g.push s).vmaddr ≤ max g.stop s.stop ∧
      (g.push s).vmaddr.toNat + (g.push s).vmsize.toNat = (max g.stop s.stop).toNat) ∧
    (∀ (i : Image) (pushed : List Section), i.segments = [] →
      (pushed.foldl pushSection i).Covers pushed) ∧
    (∀ (bytes : Bytes) (addr : UInt64) (slide : Int64) (path : String) (kind : ImageKind) (i : Image),
      ofElf bytes addr slide path kind = .ok i →
      ∃ f pushed, Elf.File.parse bytes = .ok f ∧
        List.Forall₂ Elf.NamedSection.Parts (f.namedSections.filter (',' ∈ ·.name.toList)) pushed ∧
        ∀ more : List Section, (more.foldl pushSection i).Covers (pushed ++ more)) ∧
    ∀ (i i' : Image) (pushed pushed' : List Section) (name : String), i.Covers pushed → i'.Covers pushed' →
      2 ≤ (pushed.filter (·.segname = name)).length →
      (pushed.filter (·.segname = name)).Perm (pushed'.filter (·.segname = name)) →
      ∃ g g', i.segment? name = some g ∧ i'.segment? name = some g' ∧
        g.vmaddr = g'.vmaddr ∧ g.vmsize = g'.vmsize := by
  refine ⟨fun g s => ⟨g.start_le_stop s, g.toNat_push s⟩, ?_, ?_, ?_⟩
  · intro i pushed empty
    apply covers_of_segments
    rw [(foldl_pushSection i pushed).1, empty]
  · intro bytes addr slide path kind i made
    obtain ⟨f, parsed, rfl⟩ := ofElf_eq_ok_iff.1 made
    refine ⟨f, _, parsed, parts_parted _, ?_⟩
    intro more
    apply covers_of_segments
    rw [(foldl_pushSection _ more).1, segments_ofFile, List.foldl_append]
  · intro i i' pushed pushed' name covers covers' two same
    have named {s : Section} {sections : List Section} (mem : s ∈ sections.filter (·.segname = name)) :
        ∃ s ∈ sections, s.segname = name := by
      obtain ⟨mem, named⟩ := List.mem_filter.1 mem
      exact ⟨s, mem, by simpa using named⟩
    obtain ⟨s, mem⟩ := List.exists_mem_of_length_pos (by omega : 0 < (pushed.filter (·.segname = name)).length)
    obtain ⟨g, found, covered⟩ := covers name (named mem)
    obtain ⟨g', found', covered'⟩ := covers' name (named (same.mem_iff.1 mem))
    exact ⟨g, g', found, found', covered.extent_eq covered' two same⟩

/-- A library with sections at both ends of the address space, of which the first ends where it does and the
last is said to go beyond. -/
def edge : Elf.Draft :=
  ⟨.dyn, .x86_64, [],
    [.zeroed "SEG_DATA,A" 0xfffffffffffffff0 0x10, .data "__TEXT,__text" 0x100 [0x90],
      .zeroed "SEG_DATA,B" 0 0x10, .zeroed "SEG_DATA,C" 0xfffffffffffffff8 0x40]⟩

theorem fits_edge : edge.Fits := by decide +kernel

def edgeSections : List Section :=
  [⟨"SEG_DATA", "A", 0xfffffffffffffff0, 0x10, 64⟩, ⟨"__TEXT", "__text", 0x100, 1, 64⟩,
    ⟨"SEG_DATA", "B", 0, 0x10, 72⟩, ⟨"SEG_DATA", "C", 0xfffffffffffffff8, 0x40, 72⟩]

theorem covers_pushed_edge :
    ∃ i f pushed, ofElf edge.toBytes 0x1000 0 "libedge.so" .dylib = .ok i ∧
      Elf.File.parse edge.toBytes = .ok f ∧
      List.Forall₂ Elf.NamedSection.Parts (f.namedSections.filter (',' ∈ ·.name.toList)) pushed ∧
      i.Covers pushed ∧ (i.segment? "SEG_DATA").map (fun g => (g.vmaddr, g.vmsize)) = some (0, 0xffffffffffffffff) ∧
      (edgeSections.foldl pushSection (new 1 .bundle "" 0)).Covers edgeSections ∧
      ∃ g g', (edgeSections.foldl pushSection (new 1 .bundle "" 0)).segment? "SEG_DATA" = some g ∧
        (edgeSections.reverse.foldl pushSection (new 2 .bundle "" 0)).segment? "SEG_DATA" = some g' ∧
        g.vmaddr = g'.vmaddr ∧ g.vmsize = g'.vmsize ∧ g'.vmsize = 0xffffffffffffffff := by
  obtain ⟨-, pushing, reading, reordering⟩ := covers_pushed
  have made : ofElf edge.toBytes 0x1000 0 "libedge.so" .dylib =
      .ok (ofFile (Elf.contents edge.toBytes) 0x1000 0 "libedge.so" .dylib) :=
    ofElf_eq_ok_iff.2 ⟨_, fits_edge.parse_eq, rfl⟩
  obtain ⟨f, pushed, parsed, parts, covers⟩ := reading _ _ _ _ _ _ made
  have first := pushing (new 1 .bundle "" 0) edgeSections rfl
  have second := pushing (new 2 .bundle "" 0) edgeSections.reverse rfl
  obtain ⟨g, g', found, found', start, size⟩ := reordering _ _ _ _ "SEG_DATA" first second (by decide)
    ((List.reverse_perm edgeSections).symm.filter _)
  refine ⟨_, f, pushed, made, parsed, parts, ?_, by decide +kernel, first, g, g', found, found', start, size, ?_⟩
  · simpa using covers []
  · cases found'
    decide

end Image

end ImageLoader
