import ImageLoader.Proofs.Loader.Verdicts
/-! One mapping of two lists against a mapping of each. In one call all images are registered before any is
judged, in two the refusals of the first list come before the second is looked at. An address that occurs in
both takes another branch then, but what becomes known and registered is the same, since each image is
judged by itself. -/

namespace ImageLoader.Loader

open Act

variable {τ : Type} {behave : Client (List Notice × τ)} {judge : Call → Option String} {xs ys : List Image}
  {p q p₁ q₂ : Process (List Notice × τ)} {notices notices₁ notices₂ : List Notice}
  {a a₁ a₂ : Except LoaderError (List MapOutcome)}

theorem Concluded.newcomers_append (first : Concluded xs notices₁ p a₁ p₁) (ys : List Image) :
    newcomers p.loader.known [] (xs ++ ys) =
      newcomers p.loader.known [] xs ++ newcomers p₁.loader.known [] ys := by
  rw [Loader.newcomers_append]
  refine congrArg _ (newcomers_congr fun i _ => ?_)
  rw [first.unknown]
  simp

theorem Concluded.append (each : ∀ s ∈ p.loader.handlersOf .bound, s.batch = false)
    (joint : Concluded (xs ++ ys) notices p a q)
    (decided : refusals notices =
      verdicts judge (p.loader.handlersOf .bound) (newcomers p.loader.known [] (xs ++ ys)))
    (first : Concluded xs notices₁ p a₁ p₁)
    (decided₁ : refusals notices₁ =
      verdicts judge (p.loader.handlersOf .bound) (newcomers p.loader.known [] xs))
    (second : Concluded ys notices₂ p₁ a₂ q₂)
    (decided₂ : refusals notices₂ =
      verdicts judge (p₁.loader.handlersOf .bound) (newcomers p₁.loader.known [] ys)) :
    q₂.registry.value.toList = q.registry.value.toList ∧
      (∀ addr, q₂.loader.known.get? addr = q.loader.known.get? addr) ∧
      Loader.adds (notices₁ ++ notices₂) = Loader.adds notices := by
  have bound : ∀ s ∈ p.loader.handlersOf .bound, s.state = .bound := fun _ => state_of_mem_handlersOf
  rw [first.subscribers.handlersOf] at decided₂
  have parts := first.newcomers_append ys
  have kept (known : Table UInt64 Bool) (images : List Image) :=
    filter_verdicts judge (distinct_newcomers known [] images) bound (.inr each)
  have refused (left : List Image) (addr : UInt64) :
      addr ∈ (verdicts judge (p.loader.handlersOf .bound) left).map (·.addr) ↔ _ :=
    mem_verdicts judge bound (.inr each) addr
  refine ⟨?_, fun addr => ?_, ?_⟩
  · rw [second.records, first.records, joint.records, decided, decided₁, decided₂, kept, kept, kept, parts,
      List.filter_append, List.map_append, List.append_assoc]
  · -- an address that the first list made known is not among the newcomers of the second
    have both : addr ∈ (refusals notices).map (·.addr) ↔
        addr ∈ (refusals notices₁).map (·.addr) ∨ addr ∈ (refusals notices₂).map (·.addr) := by
      rw [decided, decided₁, decided₂, refused, refused, refused, parts]
      simp only [List.mem_append, or_and_right, exists_or]
    rw [second.known, joint.known, knownAfter, first.known, knownAfter_append]
    by_cases e₁ : addr ∈ (refusals notices₁).map (·.addr) <;>
      by_cases e₂ : addr ∈ (refusals notices₂).map (·.addr) <;> simp [both, e₁, e₂]
  · rw [adds_append, first.adds, second.adds, joint.adds, decided, decided₁, decided₂, kept, kept, kept,
      parts, first.subscribers.addCallbacks, List.filter_append, List.flatMap_append]

/-- Two lists mapped one after the other leave what they leave when mapped as one, and the add callbacks
are called for the same images in the same order. -/
theorem mapImages_append (xs ys : List Image) (t t₁ t₂ : ThreadId) (passive : ∀ call, Passive behave call)
    (decides : Decides judge behave) (each : ∀ s ∈ p.loader.handlersOf .bound, s.batch = false)
    (reached : ∀ i ∈ xs ++ ys, Reached i.addr p) :
    (∀ a q a₁ p₁ a₂ q₂, mapImages (noticing behave) t (xs ++ ys) p = .ok a q →
      mapImages (noticing behave) t₁ xs p = .ok a₁ p₁ → mapImages (noticing behave) t₂ ys p₁ = .ok a₂ q₂ →
      q₂.registry.value.toList = q.registry.value.toList ∧
        (∀ addr, q₂.loader.known.get? addr = q.loader.known.get? addr) ∧
        ∃ notices notices', q.client.1 = p.client.1 ++ notices ∧ q₂.client.1 = p.client.1 ++ notices' ∧
          adds notices' = adds notices) ∧
    (Registry.available p → (∀ call, Returns (behave call)) →
      (∃ a q, mapImages (noticing behave) t (xs ++ ys) p = .ok a q) ∧
        ∃ a₁ p₁, mapImages (noticing behave) t₁ xs p = .ok a₁ p₁ ∧
          ∃ a₂ q₂, mapImages (noticing behave) t₂ ys p₁ = .ok a₂ q₂) := by
  refine ⟨fun a q a₁ p₁ a₂ q₂ joint first second => ?_, fun available returns => ?_⟩
  · have covered : ∀ i ∈ xs ++ ys, Covered i.addr 0 p := fun i hi => (reached i hi).covered
    obtain ⟨coveredFirst, coveredSecond⟩ := List.forall_mem_append.1 covered
    obtain ⟨notices, joint, decided⟩ := mapImages_concluded passive covered joint
    obtain ⟨notices₁, first', decided₁⟩ := mapImages_concluded passive coveredFirst first
    obtain ⟨notices₂, second, decided₂⟩ := mapImages_concluded passive
      (fun i hi => serve_covered passive (r := .map xs) (coveredSecond i hi) first) second
    obtain ⟨records, known, added⟩ := joint.append each (decided judge decides) first'
      (decided₁ judge decides) second (decided₂ judge decides)
    refine ⟨records, known, notices, notices₁ ++ notices₂, joint.notes, ?_, added⟩
    rw [second.notes, first'.notes, List.append_assoc]
  · have maps (t : ThreadId) := (pieces_returns (σ := List Notice × τ) t).parts.mapImages
      fun call => returns_noticing (returns call)
    obtain ⟨a, q, joint, -⟩ := maps t (xs ++ ys) p available
    obtain ⟨a₁, p₁, first, available₁⟩ := maps t₁ xs p available
    obtain ⟨a₂, q₂, second, -⟩ := maps t₂ ys p₁ available₁
    exact ⟨⟨a, q, joint⟩, a₁, p₁, first, a₂, q₂, second⟩

def former : List Image := [imageAt 2, imageAt 1, .new 3 .dylib "plain" 0]

def latter : List Image := [imageAt 3, imageAt 4, imageAt 2, imageAt 1]

theorem mapImages_append_repeated :
    ∃ p, (∀ i ∈ former ++ latter, Reached i.addr p) ∧ Registry.available p ∧
      (∀ s ∈ p.loader.handlersOf .bound, s.batch = false) ∧ addrs p = [5] ∧
      ∃ a q a₁ p₁ a₂ q₂,
        mapImages (noticing (judging strict (.named "a"))) (.named "a") (former ++ latter) p =
          .ok a q ∧
        mapImages (noticing (judging strict (.named "a"))) (.named "a") former p = .ok a₁ p₁ ∧
        mapImages (noticing (judging strict (.named "a"))) (.named "b") latter p₁ =
          .ok a₂ q₂ ∧
        q₂.registry.value.toList = q.registry.value.toList ∧ addrs q = [5, 1, 4] ∧
        (∀ addr, q₂.loader.known.get? addr = q.loader.known.get? addr) ∧
        ∃ notices, q₂.client.1 = p.client.1 ++ notices ∧ adds notices = [(0, imageAt 1), (0, imageAt 4)] := by
  have only (call : Call) : (content call).Only fun _ => true := trivial
  have reached (addr : UInt64) : Reached addr (Process.unmanaged {} (([], ()) : List Notice × Unit)) :=
    .empty rfl rfl
  have reached addr := (reached addr).next content only (.named "a") 1 (.mapOne (imageAt 5))
    (by decide +kernel)
  have reached addr := (reached addr).next content only (.named "a") 1 (.onState ⟨.bound, false, 0⟩)
    (by decide +kernel)
  have reached addr := (reached addr).next content only (.named "a") 1 (.onAdd 0) (by decide +kernel)
  refine ⟨_, fun i _ => reached i.addr, by decide +kernel, by decide +kernel, by decide +kernel, ?_⟩
  generalize hp : endState _ _ = p at reached
  have each : ∀ s ∈ p.loader.handlersOf .bound, s.batch = false := by
    subst hp
    decide +kernel
  obtain ⟨same, answered⟩ := mapImages_append former latter (.named "a") (.named "a") (.named "b")
    (passive_judging strict (.named "a"))
    (decides_judging strict (.named "a")) each fun i _ => reached i.addr
  obtain ⟨⟨a, q, joint⟩, a₁, p₁, first, a₂, q₂, second⟩ := answered (by subst hp; decide +kernel)
    (returns_judging strict (.named "a"))
  obtain ⟨records, known, notices, notices', notes, notes', added⟩ := same a q a₁ p₁ a₂ q₂ joint first second
  have none : p.client.1 = [] := by
    subst hp
    decide +kernel
  rw [none, List.nil_append] at notes
  refine ⟨a, q, a₁, p₁, a₂, q₂, joint, first, second, records, ?_, known, notices', notes', ?_⟩
  · rw [← endState_of_ok joint]
    subst hp
    decide +kernel
  · rw [added, ← notes, ← endState_of_ok joint]
    subst hp
    decide +kernel

/-- An add callback that maps the image at 3 when it hears of that at 1. -/
def adopting (call : Call) : Deed (List Notice × Unit) :=
  match call with
  | .add _ image =>
    if image.addr = 1 then .request (.mapOne (imageAt 3)) fun _ => .answer none else .answer none
  | _ => .answer none

/-- That the bound handlers map nothing is not enough: where an add callback does, its image comes behind all
of the joint list, but in front of the second list when that is mapped later. -/
theorem mapImages_append_adopting :
    ∃ p, (∀ addr, Reached addr p) ∧
      p.loader.handlersOf .bound = [⟨.bound, false, 0⟩] ∧
      Decides (fun _ => none) (reentrant adopting (.named "a") 2) ∧
      (∀ h records, Passive (reentrant adopting (.named "a") 2) (.state h .bound records)) ∧
      ∃ a q a₁ p₁ a₂ q₂,
        mapImages (noticing (reentrant adopting (.named "a") 2)) (.named "a") ([imageAt 1] ++ [imageAt 2]) p =
          .ok a q ∧
        mapImages (noticing (reentrant adopting (.named "a") 2)) (.named "a") [imageAt 1] p = .ok a₁ p₁ ∧
        mapImages (noticing (reentrant adopting (.named "a") 2)) (.named "a") [imageAt 2] p₁ = .ok a₂ q₂ ∧
        addrs q = [1, 2, 3] ∧ addrs q₂ = [1, 3, 2] := by
  have only (call : Call) : (content call).Only fun _ => true := trivial
  have reached (addr : UInt64) : Reached addr (Process.unmanaged {} (([], ()) : List Notice × Unit)) :=
    .empty rfl rfl
  have reached addr := (reached addr).next content only (.named "a") 1 (.onState ⟨.bound, false, 0⟩)
    (by decide +kernel)
  have reached addr := (reached addr).next content only (.named "a") 1 (.onAdd 0) (by decide +kernel)
  refine ⟨_, reached, by decide +kernel, ?_, fun h records => ?_, ?_⟩
  · intro h records p a q answered
    cases answered
    rfl
  · exact passive_reentrant adopting (.state h .bound records) trivial trivial (.named "a") 2
  · generalize hp : endState _ _ = p
    let maps (images : List Image) :=
      mapImages (noticing (reentrant adopting (.named "a") 2)) (.named "a") images
    obtain ⟨a, joint⟩ := exists_ok (x := maps ([imageAt 1] ++ [imageAt 2])) (p := p)
      (by subst hp; decide +kernel)
    obtain ⟨a₁, first⟩ := exists_ok (x := maps [imageAt 1]) (p := p) (by subst hp; decide +kernel)
    obtain ⟨a₂, second⟩ := exists_ok (x := maps [imageAt 2]) (p := endState (maps [imageAt 1]) p)
      (by subst hp; decide +kernel)
    refine ⟨a, _, a₁, _, a₂, _, joint, first, second, ?_, ?_⟩
    all_goals
      subst hp
      decide +kernel

end ImageLoader.Loader
