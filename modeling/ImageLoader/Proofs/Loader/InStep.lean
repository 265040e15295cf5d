import Mathlib.Data.Set.Card
import ImageLoader.Proofs.Loader.Steps
/-! The loader's table of known addresses and the registry agree between requests. Within a request they
do not: an address is forgotten before its remove callbacks run, and its record is taken out after them,
while the callbacks may map that address again and refuse it again. What holds throughout counts the
records of every address, with one more for the image that is on its way out. -/

namespace ImageLoader

def ImageList.countAt (l : ImageList) (addr : UInt64) : Nat := l.toList.countP (·.addr = addr)

namespace ImageList

variable {l : ImageList}

theorem countAt_append (h : l.Chained) (r : ImageRecord) (a : UInt64) :
    (l.append r).countAt a = l.countAt a + if r.addr = a then 1 else 0 := by
  rw [countAt, toList_append h, List.countP_append, List.countP_singleton, countAt]
  simp

theorem countAt_remove (h : l.Chained) (addr a : UInt64) :
    (l.remove addr).2.countAt a = if a = addr then l.countAt a - 1 else l.countAt a := by
  rw [countAt, (remove_spec h addr).2.2, countAt]
  split
  · next e =>
    rw [e, List.countP_eq_length_filter, filter_eraseP_self, List.length_tail,
      ← List.countP_eq_length_filter]
  · next e =>
    rw [List.countP_eq_length_filter, filter_eraseP_of_ne (Ne.symm e), List.countP_eq_length_filter]

theorem toList_remove_of_countAt_le_one (h : l.Chained) {addr : UInt64} (once : l.countAt addr ≤ 1) :
    (l.remove addr).2.toList = l.toList.filter (·.addr ≠ addr) := by
  rw [(remove_spec h addr).2.2, eraseP_eq_filter_of_countP_le_one once]
  exact List.filter_congr fun r _ => by simp

theorem length_imagesAt (l : ImageList) (addr : UInt64) : (l.imagesAt addr).length = l.countAt addr := by
  rw [imagesAt, List.length_map, countAt, List.countP_eq_length_filter]

theorem countAt_eq_zero {addr : UInt64} : l.countAt addr = 0 ↔ l.find? addr = none := by
  rw [countAt, List.countP_eq_zero, find?, List.find?_eq_none]

end ImageList

namespace Loader

open Act

variable {σ : Type}

/-- How many records an address has, by what is known of it. While its image is being removed the
record of that image counts too, until a refusal of the same address takes it for its own. -/
def Tally (removing : Bool) (known : Option Bool) (n : Nat) : Prop :=
  match removing, known with
  | false, some true => n = 1
  | false, _ => n = 0
  | true, some true => n = 2
  | true, some false => n ≤ 1
  | true, none => n = 1

namespace Tally

variable {b : Bool} {k : Option Bool} {n : Nat}

theorem enrolled (h : Tally b none n) : Tally b (some true) (n + 1) := by
  cases b <;> simp_all [Tally]

theorem ignored (h : Tally b none n) : Tally b (some false) n := by
  cases b <;> simp_all [Tally]

theorem refused (h : Tally b k n) : Tally b (some false) (n - 1) := by
  rcases b with _ | _ <;> rcases k with _ | _ | _ <;> simp_all [Tally]

theorem leaving (h : Tally false (some true) n) : Tally true none n := h

theorem forgotten (h : Tally false k n) (unregistered : k ≠ some true) : Tally false none n := by
  rcases k with _ | _ | _ <;> simp_all [Tally]

theorem left (h : Tally true k n) : Tally false k (n - 1) := by
  rcases k with _ | _ | _ <;> simp_all [Tally]

end Tally

/-- The table and the records agree, but for an image on its way out. -/
structure Balanced (removing : Option UInt64) (p : Process σ) : Prop where
  chained : p.registry.value.Chained
  tally : ∀ a, Tally (removing = some a) (p.loader.known.get? a) (p.registry.value.countAt a)

variable {x : Option UInt64} {t : ThreadId} {p q : Process σ}

theorem Balanced.of_same (h : Balanced x p) (same : SameTables p q) : Balanced x q := by
  refine ⟨?_, fun a => ?_⟩
  · rw [same.images]
    exact h.chained
  · rw [same.images, same.loader]
    exact h.tally a

theorem Enters.chained {image : Image} {registered : Bool} (h : Enters image registered p q)
    (chained : p.registry.value.Chained) : q.registry.value.Chained := by
  rw [h.images]
  split
  · exact ImageList.chained_append chained _
  · exact chained

theorem Enters.countAt {image : Image} {registered : Bool} (h : Enters image registered p q)
    (chained : p.registry.value.Chained) (a : UInt64) :
    q.registry.value.countAt a =
      p.registry.value.countAt a + if registered ∧ image.addr = a then 1 else 0 := by
  rw [h.images]
  cases registered
  · simp
  · rw [if_pos rfl, ImageList.countAt_append chained]
    by_cases e : image.addr = a <;> simp [e]

theorem Balanced.enters {image : Image} {registered : Bool} (hp : Balanced x p)
    (h : Enters image registered p q) : Balanced x q := by
  refine ⟨h.chained hp.chained, fun b => ?_⟩
  have tally := hp.tally b
  rw [h.known, h.countAt hp.chained]
  by_cases e : image.addr = b
  · rw [← e, h.new] at tally
    rw [← e]
    cases registered
    · simpa using tally.ignored
    · simpa using tally.enrolled
  · simpa [e] using tally

theorem Balanced.takenOut {addr : UInt64} (hp : Balanced x p) (h : TakenOut addr p q) :
    Balanced x q := by
  refine ⟨h.images ▸ (ImageList.remove_spec hp.chained addr).1, fun b => ?_⟩
  have tally := hp.tally b
  rw [h.images, ImageList.countAt_remove hp.chained, h.known]
  by_cases e : b = addr
  · rw [if_pos e, if_pos e.symm]
    exact tally.refused
  · rw [if_neg e, if_neg (Ne.symm e)]
    exact tally

theorem parts_keeps (x : Option UInt64) (t : ThreadId) :
    Parts (fun act => Keeps (Balanced (σ := σ) x) act) t :=
  parts_of_steps Balanced.of_same (fun _ => keeps_modify fun _ hp => ⟨hp.chained, hp.tally⟩)
    Balanced.enters Balanced.takenOut t

theorem keeps_maps {body : Call → Deed σ} (maps : ∀ call, (body call).Only Request.isMap) (t : ThreadId)
    (depth : Nat) (x : Option UInt64) (call : Call) :
    Keeps (Balanced x) (reentrant body t depth call) := by
  refine keeps_reentrant maps (fun hp same => hp.of_same same) t (fun client hc x r hr => ?_) depth x call
  refine (parts_keeps x t).serve (hc x) r fun addr e => ?_
  rw [e] at hr
  cases hr

theorem Balanced.countAt (h : Balanced none p) (a : UInt64) :
    p.registry.value.countAt a = if p.loader.known.get? a = some true then 1 else 0 := by
  have tally : Tally false _ _ := h.tally a
  rcases e : p.loader.known.get? a with _ | _ | _ <;> rw [e] at tally <;> exact tally

/-- A registered image has a record, so an image that is only forgotten was not registered. -/
theorem unmapImage_parts {client : Client σ} {addr : UInt64} {a : Option ImageRecord}
    (hp : Balanced none p) (h : unmapImage client t addr p = .ok a q) :
    (p.loader.known.get? addr ≠ some true ∧ Forgets addr p q) ∨
      (p.loader.known.get? addr = some true ∧ ∃ r ∈ p.registry.value.toList, r.addr = addr ∧
        ∃ p₁ p₂, Forgets addr p p₁ ∧
          callRemove client r.image p₁.loader.removeCallbacks p₁ = .ok () p₂ ∧ Departs addr p₂ q) := by
  refine (unmapImage_cases h).imp_left fun ⟨forgets, absent⟩ => ⟨fun registered => ?_, forgets⟩
  have here := hp.countAt addr
  rw [if_pos registered] at here
  exact absurd (here.symm.trans (ImageList.countAt_eq_zero.2 (absent registered))) one_ne_zero

theorem Balanced.leaving {addr : UInt64} (hp : Balanced none p)
    (registered : p.loader.known.get? addr = some true) (h : Forgets addr p q) :
    Balanced (some addr) q := by
  refine ⟨h.images ▸ hp.chained, fun b => ?_⟩
  have tally := hp.tally b
  rw [h.known, h.images]
  by_cases e : addr = b
  · subst e
    rw [registered] at tally
    rw [if_pos rfl, decide_eq_true rfl]
    exact tally.leaving
  · rw [if_neg e, decide_eq_false (by simpa using e)]
    exact tally

theorem Balanced.forgotten {addr : UInt64} (hp : Balanced none p)
    (unregistered : p.loader.known.get? addr ≠ some true) (h : Forgets addr p q) :
    Balanced none q := by
  refine ⟨h.images ▸ hp.chained, fun b => ?_⟩
  have tally := hp.tally b
  rw [h.known, h.images]
  split
  · next e =>
    subst e
    exact tally.forgotten unregistered
  · exact tally

theorem Balanced.left {addr : UInt64} (hp : Balanced (some addr) p) (h : Departs addr p q) :
    Balanced none q := by
  refine ⟨h.images ▸ (ImageList.remove_spec hp.chained addr).1, fun b => ?_⟩
  have tally := hp.tally b
  rw [h.images, ImageList.countAt_remove hp.chained, h.loader]
  by_cases e : b = addr
  · subst e
    rw [decide_eq_true rfl] at tally
    rw [if_pos rfl]
    exact tally.left
  · rw [decide_eq_false (by simpa using Ne.symm e)] at tally
    rw [if_neg e]
    exact tally

/-- The image found is the one that leaves; what its callbacks map and refuse is counted apart. -/
theorem keeps_unmapImage {client : Client σ} (hc : ∀ x call, Keeps (Balanced x) (client call))
    (addr : UInt64) : Keeps (Balanced none) (unmapImage client t addr) := by
  intro p hp a q h
  rcases unmapImage_parts hp h with
    ⟨unregistered, forgets⟩ | ⟨registered, r, -, -, p₁, p₂, forgets, called, departs⟩
  · exact hp.forgotten unregistered forgets
  · have parts := parts_keeps (σ := σ) (some addr) t
    exact (parts.callRemove _ (fun _ => hc _ _) _ _ (hp.leaving registered forgets) _ _ called).left departs

theorem keeps_serve {body : Call → Deed σ} (maps : ∀ call, (body call).Only Request.isMap)
    (depth : Nat) (r : Request) :
    Keeps (Balanced none) (serve (reentrant body t depth) t r) := by
  have calls := keeps_maps maps t depth
  by_cases h : ∃ addr, r = .unmap addr
  · obtain ⟨addr, rfl⟩ := h
    exact keeps_unmapImage calls addr
  · exact (parts_keeps none t).serve (calls none) r fun addr e => h ⟨addr, e⟩

theorem Run.balanced {body : Call → Deed σ} {start : Process σ} (run : Run body start p)
    (maps : ∀ call, (body call).Only Request.isMap) (h : Balanced none start) :
    Balanced none p := by
  induction run with
  | start => exact h
  | request t depth r a run served ih => exact keeps_serve maps depth r _ ih a _ served
  | other run same ih => exact ih.of_same same

theorem Balanced.empty (images : p.registry.value = {}) (unseen : p.loader.known = {}) :
    Balanced none p := by
  refine ⟨images ▸ ImageList.chained_empty, fun a => ?_⟩
  rw [images, unseen]
  rfl

def registered (p : Process σ) : Set UInt64 := {a | p.loader.known.get? a = some true}

/-- The table of known addresses tells which images are registered. -/
structure InStep (p : Process σ) : Prop where
  once : ∀ a, p.loader.known.get? a = some true ↔ p.registry.value.countAt a = 1
  never : ∀ a, p.loader.known.get? a = some false ∨ p.loader.known.get? a = none →
    p.registry.value.countAt a = 0
  distinct : (p.registry.value.toList.map (·.addr)).Nodup
  count : p.registry.value.count = (registered p).ncard
  /-- Whoever asks for the number of images is told that of the addresses. -/
  told : ∀ {t n q}, imageCount t p = .ok n q → n = (registered p).ncard
  answered : ∀ t, Registry.available p → ∃ q, imageCount t p = .ok (registered p).ncard q

theorem count_addr (l : ImageList) (a : UInt64) :
    (l.toList.map (·.addr)).count a = l.countAt a := by
  rw [List.count, List.countP_map]
  rfl

theorem Balanced.distinct (h : Balanced none p) : (p.registry.value.toList.map (·.addr)).Nodup := by
  refine List.nodup_iff_count_le_one.2 fun a => ?_
  rw [count_addr, h.countAt]
  split <;> omega

theorem Balanced.count (h : Balanced none p) : p.registry.value.count = (registered p).ncard := by
  have same : registered p = ((p.registry.value.toList.map (·.addr)).toFinset : Set UInt64) := by
    ext a
    rw [List.coe_toFinset]
    change p.loader.known.get? a = some true ↔ a ∈ p.registry.value.toList.map (·.addr)
    rw [← List.one_le_count_iff, count_addr, h.countAt]
    split <;> simp_all
  rw [same, Set.ncard_coe_finset, List.toFinset_card_of_nodup h.distinct, List.length_map,
    ImageList.count_eq h.chained]

theorem Balanced.inStep (h : Balanced none p) : InStep p where
  once a := by
    rw [h.countAt]
    split <;> simp_all
  never a unknown := by
    rw [h.countAt, if_neg (by rcases unknown with e | e <;> simp [e])]
  distinct := h.distinct
  count := h.count
  told asked := (Registry.access_ok asked).1.trans h.count
  answered t free := by
    obtain ⟨q, asked, -⟩ := Registry.access_of_available free t fun l => (l.count, l)
    exact ⟨q, h.count ▸ asked⟩

/-- Between requests the table and the registry agree, whatever the handlers refused and mapped. -/
theorem inStep_of_run {body : Call → Deed σ} {start : Process σ} (run : Run body start p)
    (maps : ∀ call, (body call).Only Request.isMap) (images : start.registry.value = {})
    (unseen : start.loader.known = {}) : InStep p := (run.balanced maps (.empty images unseen)).inStep

/-- Handlers that refuse the image at 2, and map again what is removed. -/
def contrary : Call → Deed Unit
  | .state _ _ images => .answer (if images.any (·.addr = 2) then some "unwanted" else none)
  | .add _ _ => .answer none
  | .remove _ image => .request (.mapOne image) fun _ => .answer none

def imageAt (addr : UInt64) : Image :=
  { Image.new addr .dylib "lib" 0 with info := some ⟨0, 0⟩ }

theorem only_contrary (call : Call) : (contrary call).Only Request.isMap := by
  cases call
  · exact trivial
  · exact trivial
  · exact ⟨rfl, fun _ => trivial⟩

theorem inStep_contrary :
    ∃ p, Run contrary (Process.unmanaged {} ()) p ∧ InStep p ∧
      p.loader.known.get? 1 = some true ∧ p.loader.known.get? 2 = some false := by
  have run : Run contrary (Process.unmanaged {} ()) (Process.unmanaged {} ()) := .start
  have run := run.next (.named "a") 0 (.onState ⟨.bound, false, 0⟩) (by decide +kernel)
  have run := run.next (.named "a") 0 (.onRemove 1) (by decide +kernel)
  have run := run.next (.named "a") 1 (.map [imageAt 1, imageAt 2, imageAt 1]) (by decide +kernel)
  have run := run.next (.named "b") 2 (.unmap 1) (by decide +kernel)
  exact ⟨_, run, inStep_of_run run only_contrary rfl rfl, by decide +kernel, by decide +kernel⟩

end Loader

end ImageLoader
