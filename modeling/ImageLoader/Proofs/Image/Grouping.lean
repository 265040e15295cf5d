import Mathlib.Data.List.Forall2
import ImageLoader.Proofs.Image.Sections
import ImageLoader.Proofs.Elf.RoundTrip
/-! Sections grouped into segments as they are pushed. There is one segment for each name, in the order in
which the names first came, and it has the sections of its name as they came; so a look-up by two names is
one in the order of pushing. The image of an ELF file has the sections pushed whose names have a comma. -/

namespace ImageLoader

theorem eraseDups_concat (names : List String) (name : String) :
    (names ++ [name]).eraseDups =
      if name ∈ names then names.eraseDups else names.eraseDups ++ [name] := by
  rw [List.eraseDups_append]
  by_cases known : name ∈ names
  · have none : [name].removeAll names = [] := by simp [List.removeAll, known]
    rw [none, if_pos known]
    simp
  · have all : [name].removeAll names = [name] := by simp [List.removeAll, known]
    rw [all, if_neg known]
    rfl

/-- The segments of these sections, pushed one after another. -/
structure Grouped (pushed : List Section) (segments : List Segment) : Prop where
  distinct : (segments.map (·.name)).Nodup
  /-- In the order in which the names first came. -/
  names : segments.map (·.name) = (pushed.map (·.segname)).eraseDups
  sections : ∀ g ∈ segments, g.sections = pushed.filter (·.segname = g.name)

variable {segments : List Segment} {pushed : List Section} {s : Section}

/-- A section joins the segment of its name, or begins one. -/
theorem pushSection_eq (distinct : (segments.map (·.name)).Nodup) :
    pushSection segments s =
      if s.segname ∈ segments.map (·.name) then
        segments.map fun g => if g.name = s.segname then g.push s else g
      else segments ++ [.single s] := by
  induction segments with
  | nil => rfl
  | cons g rest ih =>
    rw [List.map_cons, List.nodup_cons] at distinct
    rw [pushSection]
    by_cases mine : g.name = s.segname
    · have others : ∀ g' ∈ rest, (if g'.name = s.segname then g'.push s else g') = g' := by
        intro g' mem
        refine if_neg fun same => distinct.1 ?_
        rw [mine, ← same]
        exact List.mem_map_of_mem mem
      simp [mine, List.map_congr_left others]
    · rw [if_neg mine, ih distinct.2]
      have same : s.segname ∈ (g :: rest).map (·.name) ↔ s.segname ∈ rest.map (·.name) := by
        simp [Ne.symm mine]
      by_cases known : s.segname ∈ rest.map (·.name)
      · rw [if_pos known, if_pos (same.2 known), List.map_cons, if_neg mine]
      · rw [if_neg known, if_neg (mt same.1 known), List.cons_append]

theorem grouped_nil : Grouped [] [] := ⟨.nil, rfl, by simp⟩

theorem Grouped.mem_names (grouped : Grouped pushed segments) (name : String) :
    name ∈ segments.map (·.name) ↔ name ∈ pushed.map (·.segname) := by
  rw [grouped.names, List.mem_eraseDups]

theorem Grouped.isSome_find? (grouped : Grouped pushed segments) (name : String) :
    (segments.find? (·.name = name)).isSome ↔ ∃ s ∈ pushed, s.segname = name := by
  have known := grouped.mem_names name
  rw [List.mem_map, List.mem_map] at known
  rw [List.find?_isSome, ← known]
  simp only [decide_eq_true_eq]

theorem Grouped.exists_section (grouped : Grouped pushed segments) (P : Section → Prop) :
    (∃ g ∈ segments, ∃ s ∈ g.sections, P s) ↔ ∃ s ∈ pushed, P s := by
  constructor
  · rintro ⟨g, mine, s, mem, holds⟩
    rw [grouped.sections g mine] at mem
    exact ⟨s, List.mem_of_mem_filter mem, holds⟩
  · rintro ⟨s, mem, holds⟩
    obtain ⟨g, mine, e⟩ := List.mem_map.1 ((grouped.mem_names _).2 (List.mem_map_of_mem mem))
    refine ⟨g, mine, s, ?_, holds⟩
    rw [grouped.sections g mine, List.mem_filter]
    exact ⟨mem, decide_eq_true e.symm⟩

/-- A section that joins a segment changes no name, and no other segment. -/
theorem Grouped.join (grouped : Grouped pushed segments)
    (known : s.segname ∈ segments.map (·.name)) :
    Grouped (pushed ++ [s]) (segments.map fun g => if g.name = s.segname then g.push s else g) := by
  have names : (segments.map fun g => if g.name = s.segname then g.push s else g).map (·.name) =
      segments.map (·.name) := by
    rw [List.map_map]
    refine List.map_congr_left fun g _ => ?_
    dsimp only [Function.comp_apply]
    split <;> rfl
  refine ⟨names ▸ grouped.distinct, ?_, ?_⟩
  · rw [names, List.map_append, List.map_singleton, eraseDups_concat,
      if_pos ((grouped.mem_names _).1 known)]
    exact grouped.names
  · rw [List.forall_mem_map]
    intro g mem
    by_cases mine : g.name = s.segname
    · simp [Segment.push, grouped.sections g mem, mine]
    · simp [grouped.sections g mem, mine, Ne.symm mine]

theorem Grouped.begin (grouped : Grouped pushed segments)
    (fresh : s.segname ∉ segments.map (·.name)) :
    Grouped (pushed ++ [s]) (segments ++ [.single s]) := by
  have unpushed : s.segname ∉ pushed.map (·.segname) := fun mem => fresh ((grouped.mem_names _).2 mem)
  refine ⟨?_, ?_, ?_⟩
  · rw [List.map_append, List.nodup_append']
    refine ⟨grouped.distinct, List.nodup_singleton _, ?_⟩
    simpa [Segment.single, List.disjoint_singleton] using fresh
  · rw [List.map_append, List.map_append, List.map_singleton, List.map_singleton, eraseDups_concat,
      if_neg unpushed, grouped.names]
    rfl
  · intro g mem
    rw [List.filter_append]
    rcases List.mem_append.1 mem with old | new
    · have other : s.segname ≠ g.name := fun same => fresh (same ▸ List.mem_map_of_mem old)
      simp [grouped.sections g old, other]
    · obtain rfl := List.mem_singleton.1 new
      have none : pushed.filter (·.segname = s.segname) = [] := by
        rw [List.filter_eq_nil_iff]
        intro s' mem
        rw [decide_eq_true_eq]
        exact fun same => unpushed (same ▸ List.mem_map_of_mem mem)
      change [s] = pushed.filter (·.segname = s.segname) ++ [s].filter (·.segname = s.segname)
      rw [none]
      simp

theorem Grouped.push (grouped : Grouped pushed segments) (s : Section) :
    Grouped (pushed ++ [s]) (pushSection segments s) := by
  rw [pushSection_eq grouped.distinct]
  by_cases known : s.segname ∈ segments.map (·.name)
  · rw [if_pos known]
    exact grouped.join known
  · rw [if_neg known]
    exact grouped.begin known

theorem Grouped.foldl (grouped : Grouped pushed segments) (more : List Section) :
    Grouped (pushed ++ more) (more.foldl pushSection segments) := by
  induction more generalizing pushed segments with
  | nil => simpa using grouped
  | cons s rest ih => simpa using ih (grouped.push s)

/-- A look-up by two names is one in the order of pushing. -/
theorem sectionIn?_foldl (segments : List Segment) (more : List Section) (segname sectname : String) :
    sectionIn? (more.foldl pushSection segments) segname sectname =
      (sectionIn? segments segname sectname).or
        (more.find? fun s => s.segname = segname ∧ s.sectname = sectname) := by
  induction more generalizing segments with
  | nil => simp
  | cons s rest ih =>
    rw [List.foldl_cons, ih, sectionIn?_pushSection, Option.or_assoc, List.find?_cons]
    by_cases here : s.segname = segname ∧ s.sectname = sectname <;> simp [here]

/-- The section is the named one, under the parts of its name before and behind the first comma. -/
structure Elf.NamedSection.Parts (n : Elf.NamedSection) (s : Section) : Prop where
  name : n.name = s.segname ++ "," ++ s.sectname
  first : ',' ∉ s.segname.toList
  same : s = n.under s.segname s.sectname

namespace Image

/-- These sections, and no others, were pushed into an image that is moved by `slide`. -/
structure Gathers (i : Image) (slide : Int64) (pushed : List Section) : Prop where
  grouped : Grouped pushed i.segments
  /-- The first that was pushed under both names, where it is at run time. -/
  lookUp : ∀ segname sectname, i.sectionData? segname sectname =
    (pushed.find? fun s => s.segname = segname ∧ s.sectname = sectname).map fun s =>
      ⟨UInt64.ofInt (s.addr.toNat + slide.toInt), s.size⟩

theorem gathers_of_segments {i : Image} {slide : Int64}
    (h : i.segments = pushed.foldl ImageLoader.pushSection []) (moved : i.slide = slide) :
    i.Gathers slide pushed := by
  refine ⟨h ▸ grouped_nil.foldl pushed, ?_⟩
  intro segname sectname
  rw [sectionData?_eq, h, sectionIn?_foldl, moved]
  simp [sectionIn?, Word.relocate_eq]

theorem foldl_pushSection (i : Image) (more : List Section) :
    (more.foldl pushSection i).segments = more.foldl ImageLoader.pushSection i.segments ∧
      (more.foldl pushSection i).slide = i.slide := by
  induction more generalizing i with
  | nil => exact ⟨rfl, rfl⟩
  | cons s rest ih => exact ih (i.pushSection s)

theorem splitName?_eq_none {name : String} : splitName? name = none ↔ ',' ∉ name.toList := by
  rw [splitName?, List.span_eq_takeWhile_dropWhile]
  rcases rest : name.toList.dropWhile (· ≠ ',') with _ | ⟨c, tail⟩
  · have none : ',' ∉ name.toList := by
      intro mem
      have whole := List.takeWhile_append_dropWhile (p := (· ≠ ',')) (l := name.toList)
      rw [rest, List.append_nil] at whole
      rw [← whole] at mem
      simpa using List.all_eq_true.1 List.all_takeWhile _ mem
    simp [none]
  · have comma : ',' ∈ name.toList := by
      have stopped := List.head?_dropWhile_not (· ≠ ',') name.toList
      rw [rest] at stopped
      obtain rfl : c = ',' := by simpa using stopped
      exact (List.dropWhile_sublist _).subset (rest ▸ List.mem_cons_self)
    simp [comma]

def parted (named : List Elf.NamedSection) : List Section :=
  named.filterMap fun n => (splitName? n.name).map fun (segname, sectname) => n.under segname sectname

theorem foldl_addNamed (f : Elf.File) (named : List Elf.NamedSection) (i : Image) :
    (named.foldl (addNamed f) i).segments = (parted named).foldl ImageLoader.pushSection i.segments := by
  induction named generalizing i with
  | nil => rfl
  | cons n rest ih =>
    rw [List.foldl_cons, ih]
    rcases h : splitName? n.name with _ | ⟨segname, sectname⟩
    · simp [addNamed_of_none f i h, parted, h]
    · simp [(addNamed_of_some f i h).1, parted, h]

theorem segments_ofFile (f : Elf.File) (addr : UInt64) (slide : Int64) (path : String) (kind : ImageKind) :
    (ofFile f addr slide path kind).segments = (parted f.namedSections).foldl ImageLoader.pushSection [] :=
  foldl_addNamed f _ _

theorem parts_parted (named : List Elf.NamedSection) :
    List.Forall₂ Elf.NamedSection.Parts (named.filter (',' ∈ ·.name.toList)) (parted named) := by
  induction named with
  | nil => exact .nil
  | cons n rest ih =>
    rcases h : splitName? n.name with _ | ⟨segname, sectname⟩
    · have plain := splitName?_eq_none.1 h
      simpa [parted, h, plain] using ih
    · have comma : ',' ∈ n.name.toList := by
        by_contra plain
        cases h.symm.trans (splitName?_eq_none.2 plain)
      obtain ⟨whole, first⟩ := splitName?_eq_some.1 h
      simpa [parted, h, comma] using ⟨⟨whole, first, rfl⟩, ih⟩

/-- An image gathers the sections that are pushed into it, whether it had none before or was made from an
ELF file, and then had those of the file. -/
theorem gathers_pushed :
    (∀ (i : Image) (pushed : List Section), i.segments = [] →
      (pushed.foldl pushSection i).Gathers i.slide pushed) ∧
    ∀ (bytes : Bytes) (addr : UInt64) (slide : Int64) (path : String) (kind : ImageKind) (i : Image),
      ofElf bytes addr slide path kind = .ok i →
      ∃ f pushed, Elf.File.parse bytes = .ok f ∧
        List.Forall₂ Elf.NamedSection.Parts (f.namedSections.filter (',' ∈ ·.name.toList)) pushed ∧
        ∀ more : List Section, (more.foldl pushSection i).Gathers slide (pushed ++ more) := by
  constructor
  · intro i pushed empty
    obtain ⟨segments, slide⟩ := foldl_pushSection i pushed
    apply gathers_of_segments _ slide
    rw [segments, empty]
  · intro bytes addr slide path kind i made
    rw [ofElf] at made
    rcases parsed : Elf.File.parse bytes with e | f
    · rw [parsed] at made
      cases made
    · rw [parsed] at made
      obtain rfl := Except.ok.inj made
      refine ⟨f, _, rfl, parts_parted _, ?_⟩
      intro more
      obtain ⟨segments, moved⟩ := foldl_pushSection (ofFile f addr slide path kind) more
      apply gathers_of_segments _ (moved.trans (foldl_addNamed_place f _ _).2)
      rw [segments, List.foldl_append, ofFile, foldl_addNamed]
      rfl

/-- A library whose `__TEXT` sections are apart from each other, with a section of no segment and a name
used twice. -/
def scattered : Elf.Draft :=
  ⟨.dyn, .x86_64, [(0, 0x1000)],
    [.data "__TEXT,__text" 0x100 [0x90], .zeroed ".bss" 0x800 8, .data "__DATA,__data,x" 0x200 [1, 2],
      .data "__TEXT,__const" 0x300 [3], .data "__TEXT,__text" 0x400 [0xc3]]⟩

theorem fits_scattered : scattered.Fits := by decide +kernel

def lateSection : Section := ⟨"__DATA", "__late", 0x600, 4, 0⟩

theorem gathers_pushed_scattered :
    (new 0x1000 .dylib "libplain.so" 0x10).segments = [] ∧
      ((new 0x1000 .dylib "libplain.so" 0x10).pushSection lateSection).sectionData? "__DATA" "__late" =
        some ⟨0x610, 4⟩ ∧
      ∃ f i pushed, Elf.File.parse scattered.toBytes = .ok f ∧
        ofElf scattered.toBytes 0x10000 0x100 "libscattered.so" .dylib = .ok i ∧
        (f.namedSections.filter (',' ∈ ·.name.toList)).map (fun n => (n.name, n.header.addr)) =
          [("__TEXT,__text", 0x100), ("__DATA,__data,x", 0x200), ("__TEXT,__const", 0x300),
            ("__TEXT,__text", 0x400)] ∧
        List.Forall₂ Elf.NamedSection.Parts (f.namedSections.filter (',' ∈ ·.name.toList)) pushed ∧
        (i.pushSection lateSection).Gathers 0x100 (pushed ++ [lateSection]) ∧
        (i.pushSection lateSection).segments.map (fun g => (g.name, g.sections.map (·.sectname))) =
          [("__TEXT", ["__text", "__const", "__text"]), ("__DATA", ["__data,x", "__late"])] ∧
        (i.pushSection lateSection).sectionData? "__TEXT" "__text" = some ⟨0x200, 1⟩ := by
  have plain := gathers_pushed.1 (new 0x1000 .dylib "libplain.so" 0x10) [lateSection] rfl
  have made : ofElf scattered.toBytes 0x10000 0x100 "libscattered.so" .dylib =
      .ok (ofFile (Elf.contents scattered.toBytes) 0x10000 0x100 "libscattered.so" .dylib) := by
    rw [ofElf, fits_scattered.parse_eq]
  obtain ⟨f, pushed, parsed, parts, gathers⟩ := gathers_pushed.2 _ _ _ _ _ _ made
  obtain rfl := Except.ok.inj (fits_scattered.parse_eq.symm.trans parsed)
  refine ⟨rfl, ?_, _, _, pushed, parsed, made, ?_, parts, gathers [lateSection], ?_, ?_⟩
  · exact (plain.lookUp _ _).trans (by decide +kernel)
  · decide +kernel
  · decide +kernel
  · decide +kernel

end Image

end ImageLoader
