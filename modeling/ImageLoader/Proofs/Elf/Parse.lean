import ImageLoader.Elf.Draft
import ImageLoader.Proofs.Elf.Format
/-! Reading a file is to check the conditions of its format in their order and to take the fields from
where they lie. The tables are read after their place has been checked, so every entry is whole. -/

namespace ImageLoader.Elf

/-- The answer `a`, where no condition fails. -/
def answer {α : Type} (cs : List Condition) (a : α) : Except Error α :=
  match firstFault cs with
  | some e => .error e
  | none => .ok a

section

variable {α β : Type}

@[simp] theorem answer_nil (a : α) : answer [] a = .ok a := rfl

@[simp] theorem answer_cons (c : Condition) (rest : List Condition) (a : α) :
    answer (c :: rest) a = if c.holds then answer rest a else .error c.error := by
  rw [answer, firstFault_cons]
  cases c.holds <;> rfl

/-- What fails first of two lists of conditions, the second read only where the first holds. -/
theorem answer_bind {as bs : List Condition} {a : α} {b : β} {f : α → Except Error β}
    (h : (∀ c ∈ as, c.holds) → f a = answer bs b) : answer as a >>= f = answer (as ++ bs) b := by
  induction as with
  | nil => exact h (by simp)
  | cons c rest ih =>
    rw [List.cons_append, answer_cons, answer_cons]
    by_cases hc : c.holds
    · rw [if_pos hc, if_pos hc]
      exact ih fun hr => h (List.forall_mem_cons.2 ⟨hc, hr⟩)
    · rw [if_neg hc, if_neg hc]
      rfl

@[simp] theorem answer_bind_ok (cs : List Condition) (a : α) (f : α → β) :
    (answer cs a >>= fun x => .ok (f x)) = answer cs (f a) := by
  unfold answer
  cases firstFault cs <;> rfl

theorem answer_eq_ok_iff {cs : List Condition} {a b : α} :
    answer cs a = .ok b ↔ (∀ c ∈ cs, c.holds) ∧ a = b := by
  rw [← firstFault_eq_none_iff, answer]
  cases firstFault cs <;> simp

theorem answer_eq_error_iff {cs : List Condition} {a : α} {e : Error} :
    answer cs a = .error e ↔ firstFault cs = some e := by
  rw [answer]
  cases firstFault cs <;> simp

end

namespace HeaderTable

variable {t : HeaderTable} {d : Bytes}

/-- In an accepted table every entry lies inside the file and is large enough. -/
theorem entry_fits (h : ∀ c ∈ t.conditions d.length, c.holds) {k : Nat} (hk : k < t.count) :
    t.entry ≤ t.entsize ∧ t.place k + t.entsize ≤ d.length := by
  simp only [conditions, List.forall_mem_cons, decide_eq_true_eq] at h
  obtain ⟨large, inside, -⟩ := h
  have some : t.count ≠ 0 := by omega
  refine ⟨large.resolve_left some, (Nat.le_trans ?_ (inside.resolve_left some))⟩
  have next : t.entsize * (k + 1) ≤ t.entsize * t.count := Nat.mul_le_mul_left _ hk
  rw [Nat.mul_succ] at next
  rw [place]
  omega

theorem getElem?_map_entries {α : Type} {f : Bytes → α} {k : Nat} {a : α}
    (h : ((t.entries d).map f)[k]? = some a) :
    k < t.count ∧ a = f ((d.drop (t.place k)).take t.entsize) := by
  simp only [entries, List.getElem?_map, Option.map_map, Option.map_eq_some_iff] at h
  obtain ⟨j, hj, rfl⟩ := h
  obtain ⟨hk, rfl⟩ := List.getElem?_eq_some_iff.1 hj
  rw [List.length_range] at hk
  exact ⟨hk, by rw [List.getElem_range]; rfl⟩

theorem length_of_mem_entries (h : ∀ c ∈ t.conditions d.length, c.holds) :
    ∀ b ∈ t.entries d, t.entry ≤ b.length := by
  intro b hb
  obtain ⟨k, hk, rfl⟩ := List.mem_map.1 hb
  obtain ⟨large, inside⟩ := entry_fits h (List.mem_range.1 hk)
  rw [List.length_take, List.length_drop]
  omega

end HeaderTable

/-- The entries of an empty table are none, wherever it lies; those of another are its windows. -/
theorem table_eq (d : Bytes) (part : Part) (entry : Nat) (offset : UInt64) (count entsize : UInt16) :
    table d part entry offset count entsize =
      answer (HeaderTable.conditions ⟨part, entry, offset.toNat, count.toNat, entsize.toNat⟩ d.length)
        (HeaderTable.entries ⟨part, entry, offset.toNat, count.toNat, entsize.toNat⟩ d) := by
  unfold table HeaderTable.conditions
  by_cases empty : count = 0
  · simp [empty, HeaderTable.entries]
  · have some : count.toNat ≠ 0 := fun h => empty (UInt16.toNat_inj.1 h)
    by_cases small : entsize.toNat < entry
    · simp [empty, some, small]
    · by_cases fits : offset.toNat + entsize.toNat * count.toNat ≤ d.length
      · simp only [empty, some, small, fits, window, Bytes.window?, answer_cons, answer_nil, if_true,
          if_false, bind, Except.bind, decide_true, or_true, Nat.not_lt.1 small]
        rw [HeaderTable.entries, Bytes.pieces_eq]
        refine congrArg _ (List.map_congr_left fun k hk => ?_)
        refine Bytes.window_window ?_
        rw [← Nat.mul_succ]
        exact Nat.mul_le_mul_left _ (List.mem_range.1 hk)
      · simp [empty, some, small, fits, window, Bytes.window?, bind, Except.bind]

theorem number_u16 {d : Bytes} {i : Nat} (h : i + 2 ≤ d.length) : number d i 2 = (d.u16 i).toNat := by
  rw [number, Bytes.number?_u16 h, Option.getD_some]

theorem number_u64 {d : Bytes} {i : Nat} (h : i + 8 ≤ d.length) : number d i 8 = (d.u64 i).toNat := by
  rw [number, Bytes.number?_u64 h, Option.getD_some]

theorem Header.ofBytes_liesIn {d : Bytes} (long : 64 ≤ d.length) : (ofBytes d).LiesIn d where
  ident := if_pos (by omega)
  type := ⟨_, Bytes.number?_u16 (by omega), rfl⟩
  machine := ⟨_, Bytes.number?_u16 (by omega), rfl⟩
  version := Bytes.number?_u32 (by omega)
  entry := Bytes.number?_u64 (by omega)
  phoff := Bytes.number?_u64 (by omega)
  shoff := Bytes.number?_u64 (by omega)
  flags := Bytes.number?_u32 (by omega)
  ehsize := Bytes.number?_u16 (by omega)
  phentsize := Bytes.number?_u16 (by omega)
  phnum := Bytes.number?_u16 (by omega)
  shentsize := Bytes.number?_u16 (by omega)
  shnum := Bytes.number?_u16 (by omega)
  shstrndx := Bytes.number?_u16 (by omega)

section

variable {d : Bytes} {place size i : Nat} (fits : place + size ≤ d.length)
include fits

theorem length_entry : ((d.drop place).take size).length = size := by
  rw [List.length_take, List.length_drop]
  omega

theorem liesAt_u32 (h : i + 4 ≤ size) :
    LiesAt d (place + i) 4 (Bytes.u32 ((d.drop place).take size) i).toNat := by
  rw [LiesAt, ← Bytes.number?_window fits h, Bytes.number?_u32]
  rwa [length_entry fits]

theorem liesAt_u64 (h : i + 8 ≤ size) :
    LiesAt d (place + i) 8 (Bytes.u64 ((d.drop place).take size) i).toNat := by
  rw [LiesAt, ← Bytes.number?_window fits h, Bytes.number?_u64]
  rwa [length_entry fits]

theorem ProgramHeader.ofBytes_liesFrom (large : 56 ≤ size) :
    (ofBytes ((d.drop place).take size)).LiesFrom d place where
  type := ⟨_, liesAt_u32 fits (i := 0) (by omega), rfl⟩
  flags := liesAt_u32 fits (by omega)
  offset := liesAt_u64 fits (by omega)
  vaddr := liesAt_u64 fits (by omega)
  paddr := liesAt_u64 fits (by omega)
  filesz := liesAt_u64 fits (by omega)
  memsz := liesAt_u64 fits (by omega)
  align := liesAt_u64 fits (by omega)

theorem SectionHeader.ofBytes_liesFrom (large : 64 ≤ size) :
    (ofBytes ((d.drop place).take size)).LiesFrom d place where
  name := liesAt_u32 fits (i := 0) (by omega)
  type := ⟨_, liesAt_u32 fits (by omega), rfl⟩
  flags := liesAt_u64 fits (by omega)
  addr := liesAt_u64 fits (by omega)
  offset := liesAt_u64 fits (by omega)
  size := liesAt_u64 fits (by omega)
  link := liesAt_u32 fits (by omega)
  info := liesAt_u32 fits (by omega)
  addralign := liesAt_u64 fits (by omega)
  entsize := liesAt_u64 fits (by omega)

end

theorem entries_of_table {d : Bytes} {part : Part} {entry : Nat} {offset : UInt64}
    {count entsize : UInt16} {bs : List Bytes} (h : table d part entry offset count entsize = .ok bs) :
    bs.length = count.toNat ∧ ∀ b ∈ bs, entry ≤ b.length := by
  rw [table_eq, answer_eq_ok_iff] at h
  obtain ⟨accepted, rfl⟩ := h
  refine ⟨?_, HeaderTable.length_of_mem_entries accepted⟩
  rw [HeaderTable.entries, List.length_map, List.length_range]

theorem mapM_eq_ok {α : Type} {f : Bytes → Except Error α} {g : Bytes → α} {bs : List Bytes}
    (h : ∀ b ∈ bs, f b = .ok (g b)) : bs.mapM f = .ok (bs.map g) := by
  induction bs with
  | nil => rfl
  | cons b rest ih =>
    rw [List.forall_mem_cons] at h
    rw [List.mapM_cons, h.1, ih h.2]
    rfl

theorem ProgramHeader.parse_eq_ok {b : Bytes} (h : 56 ≤ b.length) : parse b = .ok (ofBytes b) :=
  if_neg (Nat.not_lt.2 h)

theorem SectionHeader.parse_eq_ok {b : Bytes} (h : 64 ≤ b.length) : parse b = .ok (ofBytes b) :=
  if_neg (Nat.not_lt.2 h)

theorem checkMachine_eq (d : Bytes) (long : 64 ≤ d.length) :
    (Header.ofBytes d).checkMachine =
      answer [⟨number d 18 2 = 62 ∨ number d 18 2 = 183,
        .unsupportedMachine (UInt16.ofNat (number d 18 2))⟩] () := by
  have raw : number d 18 2 = (d.u16 18).toNat := number_u16 (by omega)
  have intel : (d.u16 18).toNat = 62 ↔ d.u16 18 = 62 := UInt16.toNat_inj (b := 62)
  have arm : (d.u16 18).toNat = 183 ↔ d.u16 18 = 183 := UInt16.toNat_inj (b := 183)
  rw [Header.checkMachine, Header.ofBytes, Machine.ofRaw, raw]
  by_cases h : d.u16 18 = 62
  · simp [h]
  · by_cases h' : d.u16 18 = 183
    · simp [h']
    · simp [h, h', intel, arm]

/-- The header is read, and its machine looked at, where the first conditions hold. -/
theorem header_bind {α : Type} (d : Bytes) (next : Header → Except Error α) :
    (Header.parse d >>= fun h => h.checkMachine >>= fun _ => next h) =
      answer (headerConditions d) () >>= fun _ => next (Header.ofBytes d) := by
  unfold Header.parse headerConditions
  rw [Header.size, magic]
  generalize hc : d.getD 4 0 = cls
  generalize he : d.getD 5 0 = encoding
  by_cases long : d.length < 64
  · simp only [bind, Except.bind, answer_cons, long, Nat.not_le.2 long, decide_false, if_true, if_false,
      Bool.false_eq_true]
  by_cases marked : d.take 4 = [0x7f, 0x45, 0x4c, 0x46]
  · by_cases wide : cls = 2
    · by_cases little : encoding = 1
      · simp [bind, Except.bind, checkMachine_eq d (Nat.not_lt.1 long), Nat.not_lt.1 long, long, marked,
          wide, little]
      · simp [bind, Except.bind, Nat.not_lt.1 long, long, marked, wide, little]
    · simp [bind, Except.bind, Nat.not_lt.1 long, long, marked, wide]
  · simp [bind, Except.bind, Nat.not_lt.1 long, long, marked]

namespace HeaderTable

theorem ofPrograms_eq {d : Bytes} (long : 64 ≤ d.length) :
    ofPrograms d = ⟨.programTable, ProgramHeader.size, (Header.ofBytes d).phoff.toNat,
      (Header.ofBytes d).phnum.toNat, (Header.ofBytes d).phentsize.toNat⟩ := by
  simp (disch := omega) only [ofPrograms, number_u16, number_u64, Header.ofBytes, ProgramHeader.size]

theorem ofSections_eq {d : Bytes} (long : 64 ≤ d.length) :
    ofSections d = ⟨.sectionTable, SectionHeader.entrySize, (Header.ofBytes d).shoff.toNat,
      (Header.ofBytes d).shnum.toNat, (Header.ofBytes d).shentsize.toNat⟩ := by
  simp (disch := omega) only [ofSections, number_u16, number_u64, Header.ofBytes,
    SectionHeader.entrySize]

/-- An accepted table is read to its end: no entry is too small. -/
theorem answer_bind_mapM {α : Type} {t : HeaderTable} {d : Bytes} {parse : Bytes → Except Error α}
    {ofBytes : Bytes → α} (h : ∀ b : Bytes, t.entry ≤ b.length → parse b = .ok (ofBytes b)) :
    (answer (t.conditions d.length) (t.entries d) >>= fun bs => bs.mapM parse) =
      answer (t.conditions d.length) ((t.entries d).map ofBytes) := by
  have read : (∀ c ∈ t.conditions d.length, c.holds) →
      (t.entries d).mapM parse = answer [] ((t.entries d).map ofBytes) :=
    fun ht => mapM_eq_ok fun b hb => h b (length_of_mem_entries ht b hb)
  rw [answer_bind read, List.append_nil]

end HeaderTable

def nameBytes (d : Bytes) : Bytes :=
  match nameIndex? d with
  | none => []
  | some k =>
    let place := (HeaderTable.ofSections d).place k
    (d.drop (number d (place + 24) 8)).take (number d (place + 32) 8)

def contents (d : Bytes) : File where
  data := d
  header := .ofBytes d
  programs := ((HeaderTable.ofPrograms d).entries d).map .ofBytes
  sections := ((HeaderTable.ofSections d).entries d).map .ofBytes
  names := nameBytes d

theorem length_sections (d : Bytes) : (contents d).sections.length = number d 60 2 := by
  simp [contents, HeaderTable.entries, HeaderTable.ofSections]

theorem length_programs (d : Bytes) : (contents d).programs.length = number d 56 2 := by
  simp [contents, HeaderTable.entries, HeaderTable.ofPrograms]

section

variable {d : Bytes} {k : Nat}

theorem programs_liesFrom {h : ProgramHeader}
    (ht : ∀ c ∈ (HeaderTable.ofPrograms d).conditions d.length, c.holds)
    (hk : (contents d).programs[k]? = some h) : h.LiesFrom d ((HeaderTable.ofPrograms d).place k) := by
  obtain ⟨inside, rfl⟩ := HeaderTable.getElem?_map_entries hk
  obtain ⟨large, fits⟩ := HeaderTable.entry_fits ht inside
  exact ProgramHeader.ofBytes_liesFrom fits large

theorem sections_liesFrom {h : SectionHeader}
    (ht : ∀ c ∈ (HeaderTable.ofSections d).conditions d.length, c.holds)
    (hk : (contents d).sections[k]? = some h) : h.LiesFrom d ((HeaderTable.ofSections d).place k) := by
  obtain ⟨inside, rfl⟩ := HeaderTable.getElem?_map_entries hk
  obtain ⟨large, fits⟩ := HeaderTable.entry_fits ht inside
  exact SectionHeader.ofBytes_liesFrom fits large

/-- The section that holds the names is one of the table, and its place and size are what the header
table says of it. -/
theorem nameIndex?_eq_some
    (ht : ∀ c ∈ (HeaderTable.ofSections d).conditions d.length, c.holds) (hk : nameIndex? d = some k) :
    ∃ h, (contents d).sections[k]? = some h ∧
      number d ((HeaderTable.ofSections d).place k + 24) 8 = h.offset.toNat ∧
      number d ((HeaderTable.ofSections d).place k + 32) 8 = h.size.toNat := by
  have inside : k < (contents d).sections.length := by
    rw [nameIndex?, Option.ite_none_left_eq_some] at hk
    obtain ⟨there, index⟩ := hk
    obtain rfl := Option.some.inj index
    rw [length_sections]
    omega
  have entry := List.getElem?_eq_getElem inside
  have lies := sections_liesFrom ht entry
  refine ⟨_, entry, ?_, ?_⟩
  · rw [number, lies.offset, Option.getD_some]
  · rw [number, lies.size, Option.getD_some]

theorem nameTable_eq (long : 64 ≤ d.length)
    (ht : ∀ c ∈ (HeaderTable.ofSections d).conditions d.length, c.holds) :
    nameTable d (Header.ofBytes d).shstrndx (contents d).sections =
      answer (nameConditions d) (nameBytes d) := by
  have index : number d 62 2 = (Header.ofBytes d).shstrndx.toNat := number_u16 (by omega)
  rw [nameTable, nameConditions, nameBytes]
  cases hk : nameIndex? d with
  | none =>
    rw [nameIndex?] at hk
    by_cases unnamed : (Header.ofBytes d).shstrndx = 0
    · rw [if_pos unnamed, answer_nil]
    · have named : number d 62 2 ≠ 0 := fun h0 => unnamed (UInt16.toNat_inj.1 (index.symm.trans h0))
      have beyond : (contents d).sections[(Header.ofBytes d).shstrndx.toNat]? = none := by
        rw [List.getElem?_eq_none_iff, length_sections, ← index]
        by_contra within
        rw [if_neg (by omega)] at hk
        cases hk
      rw [if_neg unnamed, beyond, answer_nil]
  | some k =>
    obtain ⟨h, entry, offset, size⟩ := nameIndex?_eq_some ht hk
    rw [nameIndex?, Option.ite_none_left_eq_some] at hk
    obtain ⟨there, shstrndx⟩ := hk
    obtain rfl := Option.some.inj shstrndx
    have named : (Header.ofBytes d).shstrndx ≠ 0 := by
      intro h0
      rw [h0] at index
      exact there (.inl index)
    rw [if_neg named, ← index, entry]
    simp only [window, Bytes.window?, offset, size, answer_cons, answer_nil, UInt64.ofNat_toNat]
    by_cases fits : h.offset.toNat + h.size.toNat ≤ d.length
    · simp only [fits, if_true, decide_true]
    · simp only [fits, if_false, decide_false, Bool.false_eq_true]

end

/-- Reading a file is to check its conditions one after another. -/
theorem parse_eq_answer (d : Bytes) : File.parse d = answer (conditions d) (contents d) := by
  unfold File.parse
  rw [header_bind, conditions, List.append_assoc, List.append_assoc]
  refine answer_bind fun hh => ?_
  have long : 64 ≤ d.length := by
    have first := hh _ (List.mem_cons_self ..)
    exact of_decide_eq_true first
  rw [table_eq, ← HeaderTable.ofPrograms_eq long, ← bind_assoc,
    HeaderTable.answer_bind_mapM fun b hb => ProgramHeader.parse_eq_ok hb]
  refine answer_bind fun _ => ?_
  rw [table_eq, ← HeaderTable.ofSections_eq long, ← bind_assoc,
    HeaderTable.answer_bind_mapM fun b hb => SectionHeader.parse_eq_ok hb]
  refine answer_bind fun hs => ?_
  calc
    _ = nameTable d (Header.ofBytes d).shstrndx (contents d).sections >>=
        fun names => .ok { contents d with names } := rfl
    _ = answer (nameConditions d) (nameBytes d) >>= fun names => .ok { contents d with names } := by
      rw [nameTable_eq long hs]
    _ = answer (nameConditions d) (contents d) := answer_bind_ok ..

theorem contents_spec {d : Bytes} (h : ∀ c ∈ conditions d, c.holds) : Contents d (contents d) := by
  simp only [conditions, List.forall_mem_append] at h
  obtain ⟨⟨⟨header, programs⟩, sections⟩, names⟩ := h
  have long : 64 ≤ d.length := of_decide_eq_true (header _ (List.mem_cons_self ..))
  refine ⟨rfl, Header.ofBytes_liesIn long, length_programs d, fun k h hk => programs_liesFrom programs hk,
    length_sections d, fun k h hk => sections_liesFrom sections hk, ?_⟩
  rw [nameConditions] at names
  cases hk : nameIndex? d with
  | none => simp only [contents, nameBytes, hk]
  | some k =>
    obtain ⟨h, entry, offset, size⟩ := nameIndex?_eq_some sections hk
    refine ⟨h, entry, ?_⟩
    simp only [hk, offset, size, List.forall_mem_singleton, decide_eq_true_eq] at names
    rw [Bytes.window?, if_pos names]
    simp only [contents, nameBytes, hk, offset, size]

/-- The reader accepts its format and nothing else, names the first condition that fails, and reads every
field from its place. The entries that a table is cut into are never too small. -/
theorem parse_spec (d : Bytes) :
    ((∃ f, File.parse d = .ok f) ↔ ∀ c ∈ conditions d, c.holds) ∧
    (∀ e, File.parse d = .error e ↔ firstFault (conditions d) = some e) ∧
    (∀ f, File.parse d = .ok f → Contents d f) ∧
    (∀ offset count entsize bs,
      table d .programTable ProgramHeader.size offset count entsize = .ok bs →
      bs.length = count.toNat ∧ ∀ b ∈ bs, ∃ h, ProgramHeader.parse b = .ok h) ∧
    (∀ offset count entsize bs,
      table d .sectionTable SectionHeader.entrySize offset count entsize = .ok bs →
      bs.length = count.toNat ∧ ∀ b ∈ bs, ∃ h, SectionHeader.parse b = .ok h) := by
  refine ⟨?_, fun e => ?_, fun f hf => ?_, fun offset count entsize bs hb => ?_,
    fun offset count entsize bs hb => ?_⟩
  · simp only [parse_eq_answer, answer_eq_ok_iff, exists_and_left, exists_eq', and_true]
  · rw [parse_eq_answer, answer_eq_error_iff]
  · rw [parse_eq_answer, answer_eq_ok_iff] at hf
    obtain ⟨h, rfl⟩ := hf
    exact contents_spec h
  · obtain ⟨length, large⟩ := entries_of_table hb
    exact ⟨length, fun b h => ⟨_, ProgramHeader.parse_eq_ok (large b h)⟩⟩
  · obtain ⟨length, large⟩ := entries_of_table hb
    exact ⟨length, fun b h => ⟨_, SectionHeader.parse_eq_ok (large b h)⟩⟩

/-- A small library: one loadable segment, one named section. -/
def smallDraft : Draft :=
  ⟨.dyn, .x86_64, [(0, 0x1000)], [.data ".data" 0x200 [1, 2, 3]]⟩

/-- The small library is accepted, with both of its tables filled; cut off before its section table it is
refused for that table's place. -/
theorem parse_spec_smallDraft :
    (∃ f, File.parse smallDraft.toBytes = .ok f ∧ f.programs.length = 1 ∧ f.sections.length = 3) ∧
    File.parse (smallDraft.toBytes.take 200) = .error (.invalidOffset .sectionTable 144) := by
  constructor
  · obtain ⟨accepted, -, contents, -⟩ := parse_spec smallDraft.toBytes
    obtain ⟨f, hf⟩ := accepted.2 (by decide +kernel)
    have programs : number smallDraft.toBytes 56 2 = 1 := by decide +kernel
    have sections : number smallDraft.toBytes 60 2 = 3 := by decide +kernel
    exact ⟨f, hf, (contents f hf).programCount.trans programs,
      (contents f hf).sectionCount.trans sections⟩
  · exact ((parse_spec _).2.1 _).2 (by decide +kernel)

end ImageLoader.Elf
