import ImageLoader.Proofs.Elf.RoundTrip
import ImageLoader.Proofs.Image.Containment
import ImageLoader.Proofs.Loader.Lookup
/-! Addresses traced to images through the loader. Whatever a process has come through, the lookup shows the
address to one record after another, in the order in which they are linked, and answers the path of the first
whose image covers it. Ranges may overlap, and records of one address may be many. -/

namespace ImageLoader.Loader

open Act

variable {σ : Type} {p q : Process σ}

/-- What a process comes to that begins with no images. Its loader is asked for anything, with handlers that
ask for anything in turn, and between requests anything is done with the registry. -/
inductive Attained : Process σ → Prop
  | empty {p : Process σ} : p.registry.value = {} → Attained p
  | request {p q : Process σ} (body : Call → Deed σ) (t : ThreadId) (depth : Nat) (r : Request)
    (a : r.Reply) : Attained p → (∀ call, (body call).Only fun _ => true) →
    serve (reentrant body t depth) t r p = .ok a q → Attained q
  | registry {p q : Process σ} {β : Type} (t : ThreadId) (r : Registry.Request β) (a : Registry.Answer β) :
    Attained p → Registry.serve t r p = .ok a q → Attained q
  | other {p q : Process σ} : Attained p → SameTables p q → Attained q

/-- A request leaves the records linked. How many there are of an address does not matter, so all of them may
be owed for. -/
theorem chained_serve {body : Call → Deed σ} (only : ∀ call, (body call).Only fun _ => true) (t : ThreadId)
    (depth : Nat) (r : Request) :
    Keeps (fun p : Process σ => p.registry.value.Chained) (serve (reentrant body t depth) t r) := by
  intro p chained a q served
  have covered : Covered 0 (p.registry.value.countAt 0) p := ⟨chained, Nat.le_add_right _ _⟩
  exact (covered_serve only t depth _ r p covered a q served).chained

theorem Attained.chained (attained : Attained p) : p.registry.value.Chained := by
  induction attained with
  | empty images => exact images ▸ ImageList.chained_empty
  | request body t depth r a _ only served ih => exact chained_serve only t depth r _ ih a _ served
  | registry t r a _ served ih => exact (Registry.serve_ok ih served).2.1
  | other _ same ih =>
    rw [same.images]
    exact ih

theorem answers_pathContaining? (p : Process σ) (t : ThreadId) (a : UInt64) :
    Answers (pathContaining? t a) p
      ((p.registry.value.toList.find? (·.image.contains a)).map (·.image.path)) := by
  rw [← Registry.findSome?_ite]
  exact answers_inspect p t (·.pathContaining? a)

theorem toList_enrol {t : ThreadId} {image : Image} {new : List ImageRecord}
    (chained : p.registry.value.Chained) (run : enrol t image p = .ok (.mapped, new) q) :
    q.registry.value.toList = p.registry.value.toList ++ [.new image] := by
  rw [(enters_of_mapped run).images, if_pos rfl, ImageList.toList_append chained]

/-- Addresses follow the loadable entries of a file. They span its load range, from the least start to the
greatest end, in whatever order they are listed. The image of the file, moved by a slide that takes neither
end of that range out of the address space, covers the address `a` exactly if the range has the address
`a - slide`; so it covers all of every moved entry. What the loader says of an address is the path of the
first image in load order that covers it. -/
theorem pathContaining?_resolves :
    (∀ (bytes : Bytes) (f : Elf.File), Elf.File.parse bytes = .ok f → (∃ h ∈ f.programs, h.isLoad) →
      ∃ r, f.loadRange? = some r ∧ r.Spans (f.loads.map (·.range)) ∧
        (∀ f' : Elf.File, f'.programs.Perm f.programs → f'.loadRange? = some r) ∧
        ∀ (addr : UInt64) (slide : Int64) (path : String) (kind : ImageKind),
          ∃ i, Image.ofElf bytes addr slide path kind = .ok i ∧
            (r.Stays slide → i.CoversLoads slide f r)) ∧
    ∀ (σ : Type) (p : Process σ),
      (∀ t a, Answers (pathContaining? t a) p
        ((p.registry.value.toList.find? (·.image.contains a)).map (·.image.path))) ∧
      (Attained p →
        (∃ cells, p.registry.value.Holds cells ∧ cells.map (·.2) = p.registry.value.toList) ∧
        ∀ t image new q, enrol t image p = .ok (.mapped, new) q →
          q.registry.value.toList = p.registry.value.toList ++ [.new image]) := by
  constructor
  · intro bytes f parsed some_load
    obtain ⟨r, range, spans⟩ := Elf.File.spans_loads some_load
    refine ⟨r, range, spans, ?_, ?_⟩
    · intro f' same
      exact Elf.File.loadRange?_of_perm same some_load range
    · intro addr slide path kind
      refine ⟨_, Image.ofElf_eq_ok_iff.2 ⟨f, parsed, rfl⟩, ?_⟩
      intro stays
      exact Image.coversLoads_ofFile range spans stays addr path kind
  · intro σ p
    refine ⟨answers_pathContaining? p, ?_⟩
    intro attained
    obtain ⟨cells, holds⟩ := attained.chained
    refine ⟨⟨cells, holds, holds.toList_eq.symm⟩, ?_⟩
    intro t image new q run
    exact toList_enrol attained.chained run

/-- A library whose loadable entries are in no order, the last of them at the top of the address space. -/
def unorderedDraft : Elf.Draft :=
  ⟨.dyn, .x86_64, [(0x8000, 0x1000), (0x1000, 0x200), (0xfffffffffffff000, 0x2000)],
    [.data "__DATA,__objc_classlist" 0x1000 [1, 2]]⟩

theorem fits_unorderedDraft : unorderedDraft.Fits := by decide +kernel

def unordered : Image where
  addr := 0x10000
  kind := .dylib
  path := "libunordered.so"
  slide := -0x800
  mapped := ⟨0x800, 0xfffffffffffff7ff⟩
  segments := [⟨"__DATA", 0x1000, 2, [⟨"__DATA", "__objc_classlist", 0x1000, 2, 232⟩]⟩]

theorem ofFile_unorderedDraft :
    Image.ofFile (Elf.contents unorderedDraft.toBytes) 0x10000 (-0x800) "libunordered.so" .dylib = unordered := by
  decide +kernel

def imageUpTo (addr stop : UInt64) (path : String) : Image :=
  { imageAt addr with path, mapped := ⟨addr, stop⟩ }

theorem Attained.asked {p : Process Unit} (attained : Attained p) (r : Request)
    (h : finishes (serve (reentrant contrary (.named "a") 2) (.named "a") r) p) : Attained (asked r p) :=
  have ⟨a, served⟩ := exists_ok h
  .request contrary (.named "a") 2 r a attained (fun call => (only_contrary call).mono fun _ _ => rfl) served

/-- The image of the library between two others; the last of them lies in a slot that the first had before. -/
def crowded : Process Unit :=
  asked (.map [imageUpTo 0x700 0x900 "liblow.so"]) (asked (.unmap 0x400)
    (asked (.map [imageUpTo 0x400 0x3000 "libgone.so", unordered]) (Process.unmanaged {} ())))

theorem attained_crowded : Attained crowded := by
  have attained : Attained (Process.unmanaged {} ()) := .empty rfl
  have attained := attained.asked (.map [imageUpTo 0x400 0x3000 "libgone.so", unordered]) (by decide +kernel)
  have attained := attained.asked (.unmap 0x400) (by decide +kernel)
  exact attained.asked (.map [imageUpTo 0x700 0x900 "liblow.so"]) (by decide +kernel)

theorem pathContaining?_resolves_crowded :
    (∃ f r, Elf.File.parse unorderedDraft.toBytes = .ok f ∧ (∃ h ∈ f.programs, h.isLoad) ∧
      f.loadRange? = some r ∧ r = ⟨0x1000, 0xffffffffffffffff⟩ ∧
      Elf.File.loadRange? { f with programs := f.programs.reverse } = some r ∧ r.Stays (-0x800) ∧
      Image.ofElf unorderedDraft.toBytes 0x10000 (-0x800) "libunordered.so" .dylib = .ok unordered ∧
      unordered.CoversLoads (-0x800) f r) ∧
    Attained crowded ∧
      (∃ cells, crowded.registry.value.Holds cells ∧
        (cells.map (·.2)).map (·.name) = ["libunordered.so", "liblow.so"]) ∧
      crowded.registry.value.first = some 1 ∧
      Answers (pathContaining? (.named "b") 0x7ff) crowded (some "liblow.so") ∧
      Answers (pathContaining? (.named "b") 0x800) crowded (some "libunordered.so") ∧
      Answers (pathContaining? (.named "b") 0xfffffffffffff7fe) crowded (some "libunordered.so") ∧
      Answers (pathContaining? (.named "b") 0xfffffffffffff7ff) crowded none := by
  obtain ⟨loads, lookUp⟩ := pathContaining?_resolves
  constructor
  · have stays : AddrRange.Stays ⟨0x1000, 0xffffffffffffffff⟩ (-0x800) := by decide +kernel
    have load : ∃ h ∈ (Elf.contents unorderedDraft.toBytes).programs, h.isLoad := by
      decide +kernel
    obtain ⟨r, range, -, reordered, images⟩ := loads _ _ fits_unorderedDraft.parse_eq load
    obtain ⟨i, made, covers⟩ := images 0x10000 (-0x800) "libunordered.so" .dylib
    obtain rfl : r = ⟨0x1000, 0xffffffffffffffff⟩ := by
      have evaluated : (Elf.contents unorderedDraft.toBytes).loadRange? =
          some ⟨0x1000, 0xffffffffffffffff⟩ := by decide +kernel
      exact Option.some.inj (range.symm.trans evaluated)
    have same : unordered = i := by
      obtain ⟨f, parsed, rfl⟩ := Image.ofElf_eq_ok_iff.1 made
      obtain rfl := Except.ok.inj (fits_unorderedDraft.parse_eq.symm.trans parsed)
      exact ofFile_unorderedDraft.symm
    subst same
    refine ⟨_, _, fits_unorderedDraft.parse_eq, load, range, rfl, ?_, stays, made, covers stays⟩
    apply reordered
    dsimp only
    apply List.reverse_perm
  · obtain ⟨answers, records⟩ := lookUp Unit crowded
    obtain ⟨⟨cells, holds, listed⟩, -⟩ := records attained_crowded
    have told {a : UInt64} {path : Option String}
        (e : (crowded.registry.value.toList.find? (·.image.contains a)).map (·.image.path) = path) :
        Answers (pathContaining? (.named "b") a) crowded path := e ▸ answers _ a
    refine ⟨attained_crowded, ⟨cells, holds, ?_⟩, by decide +kernel, told ?_, told ?_, told ?_, told ?_⟩
    · rw [listed]
      decide +kernel
    · decide +kernel
    · decide +kernel
    · decide +kernel
    · decide +kernel

end ImageLoader.Loader
