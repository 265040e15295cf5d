import ImageLoader.Foreign
import ImageLoader.Proofs.Bytes
import ImageLoader.Proofs.Loader.Containing
/-! Lookups from C against those of the loader. Each does what the loader's does and hands on what that found
as C has it: a path without its NULs, a section with its size cut to 32 bits, a count cut to 32 bits. So both
find the same record, whatever the registry holds. -/

namespace ImageLoader.Foreign

open Act

variable {σ α β : Type} {p : Process σ} {t : ThreadId}

/-- What a stop becomes for a caller in C. -/
def crossed : Stop → Stop
  | .fatal _ => .aborted
  | e => e

/-- The lookup `ask` answers `a`. The call from C ends as it does and leaves the process as it does; what it
returns is `related` to what the lookup finds. -/
structure Echoes (ask : ProcessAct σ α) (a : α) (call : ProcessAct σ β) (related : α → β → Prop)
    (p : Process σ) : Prop where
  answers : Loader.Answers ask p a
  told : ∀ {q}, ask p = .ok a q → ∃ b, call p = .ok b q ∧ related a b
  stopped : ∀ {e q}, ask p = .error e q → call p = .error (crossed e) q

/-- A call that looks up as the loader does, then hands on `f` of what is found. -/
theorem Echoes.map {ask : ProcessAct σ α} {a : α} (answers : Loader.Answers ask p a) {f : α → β}
    {related : α → β → Prop} (h : ∀ a, related a (f a)) : Echoes ask a (entry (f <$> ask)) related p where
  answers := answers
  told {q} found := ⟨f a, by rw [entry, map_apply, found], h a⟩
  stopped {e q} stop := by
    rw [entry, map_apply, stop]
    cases e <;> rfl

theorem Echoes.exists_ok {ask : ProcessAct σ α} {a : α} {call : ProcessAct σ β} {related : α → β → Prop}
    (h : Echoes ask a call related p) (free : Registry.available p) :
    ∃ b q, ask p = .ok a q ∧ call p = .ok b q ∧ related a b := by
  obtain ⟨q, asked⟩ := h.answers.answered free
  obtain ⟨b, called, told⟩ := h.told asked
  exact ⟨b, q, asked, called, told⟩

/-- Null for none, and else a C string: the path without its NULs. -/
def Passes : Option String → Option String → Prop :=
  Option.Rel fun path text => Bytes.ofText text = (Bytes.ofText path).filter (· ≠ 0)

theorem Echoes.passes {ask call : ProcessAct σ (Option String)} {path : String}
    (h : Echoes ask (some path) call Passes p) (free : Registry.available p) :
    ∃ text q, ask p = .ok (some path) q ∧ call p = .ok (some text) q ∧
      Bytes.ofText text = (Bytes.ofText path).filter (· ≠ 0) := by
  obtain ⟨_, q, asked, called, @⟨_, text, e⟩⟩ := h.exists_ok free
  exact ⟨text, q, asked, called, e⟩

def withoutNul (s : String) : String := String.ofList (s.toList.filter (· ≠ '\x00'))

theorem passes_map (path : Option String) : Passes path (path.map withoutNul) := by
  cases path with
  | none => exact .none
  | some s => exact .some (Bytes.ofText_filter s)

/-- A search for a path finds the same record whether the NULs are left out before or after. -/
theorem findSome?_cPath (t : ThreadId) (chosen : ImageRecord → Prop) [DecidablePred chosen] :
    (Registry.findSome? t fun r => if chosen r then some r.image.cPath else none : ProcessAct σ _) =
      Option.map withoutNul <$> Registry.findSome? t fun r => if chosen r then some r.name else none := by
  rw [Registry.findSome?, Registry.findSome?, Registry.inspect, Registry.inspect, Registry.map_access]
  congr 1
  funext l
  rw [ImageList.findSome?, ImageList.findSome?, List.map_findSome?]
  congr 2
  funext r
  rw [Function.comp_apply, apply_ite (Option.map withoutNul)]
  rfl

/-- The pointer leads to a NUL-terminated string that encodes the name. -/
def Spells (pointer : Option Bytes) (name : String) : Prop :=
  ∃ b, pointer = some b ∧ b.takeWhile (· ≠ 0) = Bytes.ofText name

theorem spells_iff {pointer : Option Bytes} {name : String} :
    Spells pointer name ↔ pointer.bind textOf? = some name := by
  simp only [Spells, textOf?, Option.bind_eq_some_iff, Bytes.text?_eq_some]

theorem spells_ofText {name : String} (h : '\x00' ∉ name.toList) (rest : Bytes) :
    Spells (some (Bytes.ofText name ++ 0 :: rest)) name := by
  refine ⟨_, rfl, ?_⟩
  have nonzero : ∀ x ∈ Bytes.ofText name, decide (x ≠ 0) = true := by
    intro x hx
    rw [decide_eq_true_eq]
    rintro rfl
    exact Bytes.zero_notMem_ofText h hx
  rw [List.takeWhile_append_of_pos nonzero, List.takeWhile_cons_of_neg (by simp), List.append_nil]

/-- What the caller gets for a section, and what the variable for its size holds then: for none, null and what
it held before. -/
def Located (size : Option UInt32) : Option Extent → UInt64 × Option UInt32 → Prop
  | none, got => got = (0, size)
  | some e, got => got.1 = e.addr ∧
      got.2.map UInt32.toNat = size.map fun _ => min e.size.toNat (2 ^ 32 - 1)

def handOver (size : Option UInt32) : Option Extent → UInt64 × Option UInt32
  | none => (0, size)
  | some e => (e.addr, size.map fun _ => UInt32.ofNat (min e.size.toNat largest32))

theorem located_handOver (size : Option UInt32) (found : Option Extent) :
    Located size found (handOver size found) := by
  cases found with
  | none => rfl
  | some e =>
    have fits : min e.size.toNat largest32 < UInt32.size :=
      (Nat.min_le_right _ _).trans_lt (by decide)
    refine ⟨rfl, ?_⟩
    rw [handOver, Option.map_map]
    exact congrArg (Option.map · size) (funext fun _ => UInt32.toNat_ofNat_of_lt' fits)

section

variable {addr : UInt64} {segname sectname : Option Bytes}

theorem sectionData_eq {s₁ s₂ : String} (header : addr ≠ 0) (h₁ : Spells segname s₁)
    (h₂ : Spells sectname s₂) (size : Option UInt32) :
    (sectionData t addr segname sectname size : ProcessAct σ _) =
      handOver size <$> Loader.sectionData? t addr s₁ s₂ := by
  rw [sectionData, spells_iff.1 h₁, spells_iff.1 h₂, map_eq_bind]
  dsimp only
  rw [if_neg header]
  congr 1
  funext found
  cases found <;> rfl

theorem sectionData_of_unusable
    (h : addr = 0 ∨ (∀ s, ¬ Spells segname s) ∨ ∀ s, ¬ Spells sectname s) (size : Option UInt32) :
    (sectionData t addr segname sectname size : ProcessAct σ _) = pure (0, size) := by
  simp only [spells_iff, ← Option.eq_none_iff_forall_ne_some] at h
  unfold sectionData
  split
  · next s₁ s₂ h₁ h₂ =>
    rw [h₁, h₂] at h
    rw [if_pos (by simpa using h)]
  · rfl

end

/-- The lookups from C agree with those of the loader, in every state that a process can be in. Both find the
first record in load order that has the address or covers it. A name and a path are null exactly if there is
none, and are otherwise what the loader finds without the NULs. A section is where the loader finds it, and
the variable for its size, if there is one, holds its size or the largest 32-bit number, whichever is smaller;
the address is null and the variable as it was if the loader finds none, and also if there is no header or a
name is missing or not UTF-8. Every name without a NUL can be passed. The count is that of the registry, or
the largest 32-bit number if that is smaller. -/
theorem lookups_echo (p : Process σ) (t : ThreadId) :
    (∀ a,
      Echoes (Loader.nameOf? t a) ((p.registry.value.find? a).map (·.name)) (entry (nameOf? t a))
        Passes p ∧
      Echoes (Loader.pathContaining? t a)
        ((p.registry.value.toList.find? (·.image.contains a)).map (·.name)) (entry (pathContaining? t a))
        Passes p) ∧
    (∀ addr segname sectname size,
      (∀ s₁ s₂, addr ≠ 0 → Spells segname s₁ → Spells sectname s₂ →
        Echoes (Loader.sectionData? t addr s₁ s₂)
          ((p.registry.value.find? addr).bind (·.image.sectionData? s₁ s₂))
          (entry (sectionData t addr segname sectname size)) (Located size) p) ∧
      (addr = 0 ∨ (∀ s, ¬ Spells segname s) ∨ (∀ s, ¬ Spells sectname s) →
        entry (sectionData t addr segname sectname size) p = .ok (0, size) p)) ∧
    (∀ name rest, '\x00' ∉ name.toList → Spells (some (Bytes.ofText name ++ 0 :: rest)) name) ∧
    Echoes (Registry.count t) p.registry.value.count (entry (imageCount t))
      (fun n count => count = min n (2 ^ 32 - 1)) p := by
  -- every call that looks at all is the loader's lookup with a function of what is found behind it
  refine ⟨fun a => ⟨?_, ?_⟩, fun addr segname sectname size => ⟨?_, ?_⟩, ?_, ?_⟩
  · rw [nameOf?, findSome?_cPath]
    exact .map (Loader.answers_nameOf? p t a) passes_map
  · rw [pathContaining?, findSome?_cPath]
    exact .map (Loader.answers_pathContaining? p t a) passes_map
  · intro s₁ s₂ header h₁ h₂
    rw [sectionData_eq header h₁ h₂]
    exact .map (Loader.answers_sectionData? p t addr s₁ s₂) (located_handOver size)
  · intro unusable
    rw [sectionData_of_unusable unusable]
    rfl
  · intro name rest plain
    exact spells_ofText plain rest
  · exact .map (f := (min · largest32)) (Loader.answers_inspect p t _) fun _ => rfl

def big : Image where
  addr := 0x1000
  kind := .dylib
  path := "lib\x00big\x00.so"
  slide := 0x10
  mapped := ⟨0x1000, 0x9000⟩
  segments := [⟨"__DATA", 0x2000, 0x100000005, [⟨"__DATA", "__objc_bss", 0x2000, 0x100000005, 0⟩]⟩]

/-- The image and one that covers more; then another record at its address, past the loader. -/
def doubled : Process Unit :=
  endState (Registry.append (.named "b") (.new (Loader.imageUpTo 0x1000 0x2000 "libother.so")))
    (Loader.asked (.map [big, Loader.imageUpTo 0x800 0xa000 "libwide.so"]) (Process.unmanaged {} ()))

theorem lookups_echo_doubled :
    doubled.registry.value.toList.map (fun r => (r.addr, r.name)) =
      [(0x1000, "lib\x00big\x00.so"), (0x800, "libwide.so"), (0x1000, "libother.so")] ∧
    (∃ text q, Loader.nameOf? (.named "b") 0x1000 doubled = .ok (some "lib\x00big\x00.so") q ∧
      entry (nameOf? (.named "b") 0x1000) doubled = .ok (some text) q ∧
      Bytes.ofText text = Bytes.ofText "libbig.so") ∧
    (∃ text q, Loader.pathContaining? (.named "b") 0x9000 doubled = .ok (some "libwide.so") q ∧
      entry (pathContaining? (.named "b") 0x9000) doubled = .ok (some text) q ∧
      Bytes.ofText text = Bytes.ofText "libwide.so") ∧
    (∃ q, entry (pathContaining? (.named "b") 0xa000) doubled = .ok none q) ∧
    (Spells (some (Bytes.ofText "__DATA" ++ [0, 0x41])) "__DATA" ∧
      Spells (some (Bytes.ofText "__objc_bss" ++ [0])) "__objc_bss" ∧
      ∃ got q, Loader.sectionData? (.named "b") 0x1000 "__DATA" "__objc_bss" doubled =
          .ok (some ⟨0x2010, 0x100000005⟩) q ∧
        entry (sectionData (.named "b") 0x1000 (some (Bytes.ofText "__DATA" ++ [0, 0x41]))
          (some (Bytes.ofText "__objc_bss" ++ [0])) (some 7)) doubled = .ok got q ∧
        got.1 = 0x2010 ∧ got.2.map UInt32.toNat = some (2 ^ 32 - 1)) ∧
    ((∀ s, ¬ Spells (some [0xff, 0]) s) ∧
      entry (sectionData (.named "b") 0x1000 (some (Bytes.ofText "__DATA" ++ [0, 0x41])) (some [0xff, 0])
        (some 7)) doubled = .ok (0, some 7) doubled) ∧
    ∃ q, entry (imageCount (.named "b")) doubled = .ok 3 q := by
  have free : Registry.available doubled := by decide +kernel
  obtain ⟨paths, sections, spelled, counted⟩ := lookups_echo doubled (.named "b")
  refine ⟨by decide +kernel, ?_, ?_, ?_, ?_, ?_, ?_⟩
  · have echo := (paths 0x1000).1
    rw [show (doubled.registry.value.find? 0x1000).map (·.name) = some "lib\x00big\x00.so" by
      decide +kernel] at echo
    obtain ⟨text, q, asked, called, e⟩ := echo.passes free
    exact ⟨text, q, asked, called, e.trans (by decide +kernel)⟩
  · have echo := (paths 0x9000).2
    rw [show (doubled.registry.value.toList.find? (·.image.contains 0x9000)).map (·.name) =
      some "libwide.so" by decide +kernel] at echo
    obtain ⟨text, q, asked, called, e⟩ := echo.passes free
    exact ⟨text, q, asked, called, e.trans (by decide +kernel)⟩
  · have echo := (paths 0xa000).2
    rw [show (doubled.registry.value.toList.find? (·.image.contains 0xa000)).map (·.name) = none by
      decide +kernel] at echo
    obtain ⟨_, q, -, called, ⟨⟩⟩ := echo.exists_ok free
    exact ⟨q, called⟩
  · have segname := spelled "__DATA" [0x41] (by decide)
    have sectname := spelled "__objc_bss" [] (by decide)
    have echo := (sections 0x1000 _ _ (some 7)).1 _ _ (by decide) segname sectname
    rw [show (doubled.registry.value.find? 0x1000).bind (·.image.sectionData? "__DATA" "__objc_bss") =
      some ⟨0x2010, 0x100000005⟩ by decide +kernel] at echo
    obtain ⟨got, q, asked, called, located⟩ := echo.exists_ok free
    exact ⟨segname, sectname, got, q, asked, called, located.1, located.2.trans (by decide)⟩
  · have unspelled : ∀ s, ¬ Spells (some [0xff, 0]) s := by
      have unread : (some [0xff, 0] : Option Bytes).bind textOf? = none := by decide +kernel
      intro s
      rw [spells_iff, unread]
      exact nofun
    exact ⟨unspelled, (sections 0x1000 _ _ _).2 (.inr (.inr unspelled))⟩
  · rw [show doubled.registry.value.count = 3 by decide +kernel] at counted
    obtain ⟨_, q, -, called, rfl⟩ := counted.exists_ok free
    exact ⟨q, called⟩

end ImageLoader.Foreign
