import ImageLoader.Proofs.Loader.Refusals
/-! Handlers that decide by the images they are given. Where each of them is asked about one image at a time,
an image is refused or not whatever else is mapped with it. What a mapping is about depends on the table of
known addresses only at the addresses of its images. -/

namespace ImageLoader.Loader

variable (judge : Call → Option String) {handlers : List StateRegistration} {left images : List Image}

/-- One of the handlers refuses the image where it is asked about it alone. -/
def barred (handlers : List StateRegistration) (image : Image) : Bool :=
  handlers.any fun s => (judge (.state s.handler .bound [.new image])).isSome

theorem mem_refused_of_asks {s : StateRegistration} (bound : s.state = .bound)
    (single : left.length ≤ 1 ∨ s.batch = false) (addr : UInt64) :
    addr ∈ ((asks s left).flatMap fun c => c.refused (judge c)).map (·.addr) ↔
      ∃ i ∈ left, i.addr = addr ∧ (judge (.state s.handler .bound [.new i])).isSome := by
  have each : ((asks s left).flatMap fun c => c.refused (judge c)) =
      left.flatMap fun i => (Call.state s.handler .bound [.new i]).refused
        (judge (.state s.handler .bound [.new i])) := by
    unfold asks
    rw [bound]
    split
    · next batch =>
      rcases left with _ | ⟨i, _ | ⟨j, rest⟩⟩
      · cases h : judge (.state s.handler .bound []) <;> simp [h, Call.refused]
      · rfl
      · rcases single with short | apart
        · exact absurd short (by simp)
        · rw [apart] at batch
          cases batch
    · rw [List.flatMap_map]
  rw [each, List.map_flatMap, List.mem_flatMap]
  refine exists_congr fun i => and_congr_right fun _ => ?_
  cases judge (.state s.handler .bound [.new i]) with
  | none => simp
  | some reason => simp [Call.refused, Rejection.of, eq_comm]

/-- What is refused in the end is what any handler refuses. -/
theorem mem_verdicts (bound : ∀ s ∈ handlers, s.state = .bound)
    (single : left.length ≤ 1 ∨ ∀ s ∈ handlers, s.batch = false) (addr : UInt64) :
    addr ∈ (verdicts judge handlers left).map (·.addr) ↔
      ∃ i ∈ left, i.addr = addr ∧ barred judge handlers i := by
  induction handlers generalizing left with
  | nil => simp [verdicts, barred]
  | cons s rest ih =>
    obtain ⟨isBound, others⟩ := List.forall_mem_cons.1 bound
    have first := mem_refused_of_asks judge isBound
      (single.imp_right fun each => each s List.mem_cons_self) addr
    have fewer (keep : Image → Bool) : (left.filter keep).length ≤ 1 ∨ ∀ s ∈ rest, s.batch = false :=
      single.imp (List.length_filter_le _ _).trans fun each => (List.forall_mem_cons.1 each).2
    rw [verdicts, List.map_append, List.mem_append, ih others (fewer _)]
    simp only [List.mem_filter, decide_eq_true_eq, barred, List.any_cons, Bool.or_eq_true]
    constructor
    · rintro (h | ⟨i, ⟨mem, -⟩, here, refused⟩)
      · obtain ⟨i, mem, here, refused⟩ := first.1 h
        exact ⟨i, mem, here, .inl refused⟩
      · exact ⟨i, mem, here, .inr refused⟩
    · rintro ⟨i, mem, here, refused | refused⟩
      · exact .inl (first.2 ⟨i, mem, here, refused⟩)
      · -- an image that the first handler refuses too is not left for the others
        refine or_iff_not_imp_left.2 fun spared => ⟨i, ⟨mem, ?_⟩, here, refused⟩
        rwa [here]

theorem filter_verdicts (distinct : (left.map (·.addr)).Nodup) (bound : ∀ s ∈ handlers, s.state = .bound)
    (single : left.length ≤ 1 ∨ ∀ s ∈ handlers, s.batch = false) :
    left.filter (·.addr ∉ (verdicts judge handlers left).map (·.addr)) =
      left.filter fun i => !barred judge handlers i := by
  refine List.filter_congr fun i hi => ?_
  have same : i.addr ∈ (verdicts judge handlers left).map (·.addr) ↔ barred judge handlers i := by
    rw [mem_verdicts judge bound single]
    constructor
    · rintro ⟨j, hj, e, refused⟩
      rwa [← List.inj_on_of_nodup_map distinct hj hi e]
    · exact fun refused => ⟨i, hi, rfl, refused⟩
  cases h : barred judge handlers i <;> simp [same, h]

/-- What a mapping registers depends only on which of its own addresses are known. -/
theorem newcomers_congr {known known' : Table UInt64 Bool} {seen seen' : List UInt64}
    (agree : ∀ i ∈ images, known.get? i.addr = none ∧ i.addr ∉ seen ↔
      known'.get? i.addr = none ∧ i.addr ∉ seen') :
    newcomers known seen images = newcomers known' seen' images := by
  induction images generalizing seen seen' with
  | nil => rfl
  | cons i rest ih =>
    obtain ⟨here, others⟩ := List.forall_mem_cons.1 agree
    have later : newcomers known (i.addr :: seen) rest = newcomers known' (i.addr :: seen') rest :=
      ih fun j hj => by
        have same := others j hj
        simp only [List.mem_cons, not_or]
        tauto
    simp only [newcomers, ← and_assoc, here, later]

theorem newcomers_append (known : Table UInt64 Bool) (seen : List UInt64) (xs ys : List Image) :
    newcomers known seen (xs ++ ys) =
      newcomers known seen xs ++ newcomers known ((xs.map (·.addr)).reverse ++ seen) ys := by
  induction xs generalizing seen with
  | nil => rfl
  | cons i rest ih =>
    simp only [List.cons_append, newcomers, ih, List.map_cons, List.reverse_cons, List.append_assoc,
      List.nil_append]
    split <;> rfl

theorem knownAfter_eq_none {known : Table UInt64 Bool} {addr : UInt64} :
    knownAfter known images addr = none ↔ known.get? addr = none ∧ addr ∉ images.map (·.addr) := by
  rw [knownAfter, Option.or_eq_none_iff, Option.map_eq_none_iff, List.find?_eq_none]
  simp [List.mem_map]

theorem Concluded.unknown {τ : Type} {notices : List Notice} {p q : Process (List Notice × τ)}
    {a : Except LoaderError (List MapOutcome)} (h : Concluded images notices p a q) (addr : UInt64) :
    q.loader.known.get? addr = none ↔
      p.loader.known.get? addr = none ∧ addr ∉ images.map (·.addr) := by
  rw [h.known, ← knownAfter_eq_none]
  split
  · next refused => simp [knownAfter_eq_none, h.mem_of_refused refused]
  · rfl

def strict (call : Call) : Option String :=
  match call with
  | .state 0 _ images => if images.any (·.addr = 2) then some "unwanted" else none
  | _ => none

end ImageLoader.Loader
