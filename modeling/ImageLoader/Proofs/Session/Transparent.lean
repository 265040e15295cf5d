import ImageLoader.Debugger
import ImageLoader.Proofs.Lock
import ImageLoader.Proofs.Loader.InStep
import ImageLoader.Proofs.Loader.Operation
/-! Sessions are transparent. Whether an access to the registry goes to its native lock or past it, it
answers from the same list and changes it alike; so operations that do not have to wait give the same
replies, call the same handlers with the same images and leave the same tables, wherever sessions start
and end between them. -/

namespace ImageLoader

open Act Loader

variable {σ α β κ : Type}

theorem Gate.config_asked (g : Gate) (id : LockId) (need : Hold) : (g.asked id need).config = g.config := by
  unfold asked endState acquire
  by_cases h : g.governs id <;> by_cases hs : g.satisfies id need <;> simp only [h, hs]
  · rfl
  · cases g.hook <;> rfl
  · rfl
  · rfl

namespace Session

variable {p q r p' q' : Process σ}

/-- All that the registry, the loader and the handlers go by is the same. -/
structure Alike (p q : Process σ) : Prop where
  images : q.registry.value = p.registry.value
  loader : q.loader = p.loader
  client : q.client = p.client
  config : q.gate.config = p.gate.config
  hook : q.gate.hook = p.gate.hook

namespace Alike

theorem refl (p : Process σ) : Alike p p := ⟨rfl, rfl, rfl, rfl, rfl⟩

theorem symm (h : Alike p q) : Alike q p :=
  ⟨h.images.symm, h.loader.symm, h.client.symm, h.config.symm, h.hook.symm⟩

theorem trans (h : Alike p q) (h' : Alike q r) : Alike p r :=
  ⟨h'.images.trans h.images, h'.loader.trans h.loader, h'.client.trans h.client,
    h'.config.trans h.config, h'.hook.trans h.hook⟩

end Alike

theorem alike_refuse (busy : LockId) (p : Process σ) : Alike p (Debugger.refuse busy p) := by
  unfold Debugger.refuse
  split <;> exact ⟨rfl, rfl, rfl, rfl, rfl⟩

theorem markTaken_config (taken : List Taken) (g : Gate) :
    (Debugger.markTaken taken g).config = g.config ∧ (Debugger.markTaken taken g).hook = g.hook := by
  induction taken generalizing g with
  | nil => exact ⟨rfl, rfl⟩
  | cons k rest ih => exact ih (g.markHeld k.id k.hold)

theorem alike_start (t : ThreadId) (p : Process σ) : Alike p (Debugger.start t p).2 := by
  unfold Debugger.start
  split
  · exact .refl p
  · split
    · exact alike_refuse _ p
    · split
      · refine Alike.trans ?_ (alike_refuse _ _)
        exact ⟨rfl, rfl, rfl, rfl, rfl⟩
      · exact ⟨rfl, rfl, rfl, (markTaken_config _ _).1, (markTaken_config _ _).2⟩

theorem alike_freeTaken (taken : List Taken) (p : Process σ) :
    Alike p (taken.foldl Debugger.freeTaken p) := by
  induction taken generalizing p with
  | nil => exact .refl p
  | cons k rest ih =>
    refine Alike.trans ?_ (ih (Debugger.freeTaken p k))
    cases k <;> exact ⟨rfl, rfl, rfl, rfl, rfl⟩

theorem alike_finish (p : Process σ) : Alike p (Debugger.finish p) := by
  unfold Debugger.finish
  split
  · exact .refl p
  · have freed := alike_freeTaken p.taken.reverse (Debugger.enterMode .off p)
    exact ⟨freed.images, freed.loader, freed.client, freed.config, freed.hook⟩

theorem registry_refuse (busy : LockId) (p : Process σ) :
    (Debugger.refuse busy p).registry = p.registry := by
  unfold Debugger.refuse
  split <;> rfl

theorem tidy_start (t : ThreadId) (h : p.registry.lock.Tidy) :
    (Debugger.start t p).2.registry.lock.Tidy := by
  unfold Debugger.start
  split
  · exact h
  · split
    · rw [registry_refuse]
      exact h
    · split
      · rw [registry_refuse]
        exact h
      · change ((p.registry.lock.take? t).getD p.registry.lock).Tidy
        cases taken : p.registry.lock.take? t with
        | none => exact h
        | some m => exact Mutex.tidy_take _ _ h taken

theorem tidy_freeTaken (taken : List Taken) (h : p.registry.lock.Tidy) :
    (taken.foldl Debugger.freeTaken p).registry.lock.Tidy := by
  induction taken generalizing p with
  | nil => exact h
  | cons k rest ih =>
    apply ih
    cases k with
    | headerLock => exact fun _ => rfl
    | _ => exact h

theorem tidy_finish (h : p.registry.lock.Tidy) : (Debugger.finish p).registry.lock.Tidy := by
  unfold Debugger.finish
  split
  · exact h
  · exact tidy_freeTaken (p := Debugger.enterMode .off p) p.taken.reverse h

inductive Visit
  | start (t : ThreadId)
  | finish
  deriving DecidableEq, Repr

def Visit.attend : Visit → Process σ → Process σ
  | .start t, p => (Debugger.start t p).2
  | .finish, p => Debugger.finish p

def attendAll (visits : List Visit) (p : Process σ) : Process σ := visits.foldl (fun p v => v.attend p) p

theorem alike_attendAll (visits : List Visit) (p : Process σ) : Alike p (attendAll visits p) := by
  induction visits generalizing p with
  | nil => exact .refl p
  | cons v rest ih =>
    refine Alike.trans ?_ (ih (v.attend p))
    cases v with
    | start t => exact alike_start t p
    | finish => exact alike_finish p

theorem tidy_attendAll (visits : List Visit) (h : p.registry.lock.Tidy) :
    (attendAll visits p).registry.lock.Tidy := by
  induction visits generalizing p with
  | nil => exact h
  | cons v rest ih =>
    apply ih
    cases v with
    | start t => exact tidy_start t h
    | finish => exact tidy_finish h

/-- Two processes have been alike and are so again, and the same was logged by both since. -/
structure Follow (p q p' q' : Process σ) : Prop where
  alike : Alike p' q'
  lenient : p'.gate.hook = .record
  logged : ∃ lines, p'.log = p.log ++ lines ∧ q'.log = q.log ++ lines

theorem Follow.trans {p₂ q₂ : Process σ} (h : Follow p q p' q') (h' : Follow p' q' p₂ q₂) :
    Follow p q p₂ q₂ := by
  obtain ⟨lines, hp, hq⟩ := h.logged
  obtain ⟨lines', hp', hq'⟩ := h'.logged
  refine ⟨h'.alike, h'.lenient, lines ++ lines', ?_⟩
  simp only [hp', hq', hp, hq, List.append_assoc, and_self]

abbrev Ending (σ α : Type) := EStateM.Result Stop (Process σ) α

/-- An action that was begun in `p` and in `q` ends alike in both, or has to wait in one of them. -/
inductive Together (p q : Process σ) : Ending σ α → Ending σ α → Prop
  | waits (id : LockId) (p' : Process σ) (b : Ending σ α) : Together p q (.error (.blocked id) p') b
  | waits' (id : LockId) (a : Ending σ α) (q' : Process σ) : Together p q a (.error (.blocked id) q')
  | ok {p' q' : Process σ} (a : α) : Follow p q p' q' → Together p q (.ok a p') (.ok a q')
  | error {p' q' : Process σ} (e : Stop) : Follow p q p' q' → Together p q (.error e p') (.error e q')

theorem Together.after {a b : Ending σ α} (h : Follow p q p' q') (h' : Together p' q' a b) :
    Together p q a b := by
  induction h' with
  | waits id p₂ b => exact .waits id p₂ b
  | waits' id a q₂ => exact .waits' id a q₂
  | ok a follow => exact .ok a (h.trans follow)
  | error e follow => exact .error e (h.trans follow)

/-- In processes that are alike the action does the same, unless it has to wait in one of them. -/
def Blind (x : ProcessAct σ α) : Prop :=
  ∀ p q, Alike p q → p.gate.hook = .record → Together p q (x p) (x q)

theorem closed_blind : Closed (ε := Stop) (s := Process σ) Blind where
  pure a := by
    intro p q alike lenient
    exact .ok a ⟨alike, lenient, [], by simp⟩
  bind {α β x f} hx hf := by
    intro p q alike lenient
    have first := hx p q alike lenient
    rw [bind_apply, bind_apply]
    generalize x p = a at first
    generalize x q = b at first
    induction first with
    | waits id p' b => exact .waits id p' _
    | waits' id a q' => exact .waits' id _ q'
    | ok a follow => exact .after follow (hf a _ _ follow.alike follow.lenient)
    | error e follow => exact .error e follow

theorem reads_blind : Reads (σ := σ) Blind := by
  intro α f same h p q alike lenient
  have here := h p p q alike lenient
  rw [bind_apply, bind_apply]
  change Together p q (f p p) (f q q)
  rwa [same p q alike.config alike.loader]

theorem blind_modify {f : Process σ → Process σ}
    (h : ∀ p q, Alike p q → p.gate.hook = .record → Follow p q (f p) (f q)) :
    Blind (modify f : ProcessAct σ Unit) :=
  fun p q alike lenient => .ok () (h p q alike lenient)

/-- What an access does where its violations are only noted: it waits, or the list is changed and little
else. -/
theorem access_cases (lenient : p.gate.hook = .record) (t : ThreadId) (f : ImageList → β × ImageList) :
    Registry.access t f p = .error (.blocked .headerLock) p ∨
      ∃ g lock, g.config = p.gate.config ∧ g.hook = .record ∧
        Registry.access t f p =
          .ok (f p.registry.value).1 { p with gate := g, registry := ⟨lock, (f p.registry.value).2⟩ } := by
  by_cases governs : p.gate.governs .headerLock
  · right
    rw [Registry.access_governed governs, Gate.acquire_bypass_of_satisfies governs (.inr lenient)]
    refine ⟨(p.gate.asked .headerLock .exclusive).countSkip, p.registry.lock, ?_, ?_, rfl⟩
    · exact Gate.config_asked p.gate _ _
    · exact (p.gate.asked_spec _ _).2.1.trans lenient
  · rw [Registry.access_native (by simpa using governs)]
    by_cases busy : p.registry.lock.busy
    · exact .inl (if_pos busy)
    · exact .inr ⟨p.gate, {}, rfl, lenient, if_neg busy⟩

theorem blind_access (t : ThreadId) (f : ImageList → β × ImageList) :
    Blind (Registry.access t f : ProcessAct σ β) := by
  intro p q alike lenient
  have lenient' := alike.hook.trans lenient
  rcases access_cases lenient t f with waits | ⟨g, lock, config, hook, done⟩
  · exact waits ▸ .waits _ _ _
  rcases access_cases lenient' t f with waits | ⟨g', lock', config', hook', done'⟩
  · exact waits ▸ .waits' _ _ _
  rw [done, done', alike.images]
  refine .ok _ ⟨⟨?_, alike.loader, alike.client, ?_, ?_⟩, hook, [], ?_⟩
  · rfl
  · exact config'.trans (alike.config.trans config.symm)
  · exact hook'.trans hook.symm
  · simp

theorem pieces_blind (t : ThreadId) : Pieces (σ := σ) Blind t where
  closed := closed_blind
  reads := reads_blind
  say level text := blind_modify fun p q alike lenient =>
    ⟨⟨alike.images, alike.loader, alike.client, alike.config, alike.hook⟩, lenient, _, rfl, rfl⟩
  access := blind_access t
  revise f := blind_modify fun p q alike lenient =>
    ⟨⟨alike.images, congrArg f alike.loader, alike.client, alike.config, alike.hook⟩, lenient, [], by simp⟩

theorem blind_client (order : Enumeration) (body : Call → Handler β κ) (t : ThreadId) (depth : Nat)
    (call : Call) : Blind (Handler.client order body t depth call) := by
  refine (pieces_blind t).client ?_ ?_ ?_ order body depth call
  · intro p q alike lenient
    exact .error .aborted ⟨alike, lenient, [], by simp⟩
  · intro next h p q alike lenient
    have here := h p.client.own p q alike lenient
    rw [bind_apply, bind_apply]
    change Together p q (next p.client.own p) (next q.client.own q)
    rwa [alike.client]
  · intro f
    refine blind_modify fun p q alike lenient => ⟨?_, lenient, [], by simp⟩
    exact ⟨alike.images, alike.loader, congrArg f alike.client, alike.config, alike.hook⟩

/-- The registry's lock is as it was, wherever the action ended. -/
def Steady (x : ProcessAct σ α) : Prop :=
  ∀ p, p.registry.lock.Tidy → (endState x p).registry.lock = p.registry.lock

theorem closed_steady : Closed (ε := Stop) (s := Process σ) Steady where
  pure a := fun p _ => rfl
  bind {α β x f} hx hf := by
    intro p tidy
    have first := hx p tidy
    unfold endState at first ⊢
    rw [bind_apply]
    cases e : x p with
    | ok a p' =>
      rw [e] at first
      exact (hf a p' (first ▸ tidy)).trans first
    | error cause p' =>
      rw [e] at first
      exact first

/-- Wherever an access ends, it has touched no lock. -/
theorem exists_endState_access (t : ThreadId) (f : ImageList → β × ImageList)
    (tidy : p.registry.lock.Tidy) :
    ∃ g images lines, endState (Registry.access t f) p =
      { p with gate := g, registry := ⟨p.registry.lock, images⟩ }.note lines := by
  have unsaid (q : Process σ) : q = q.note [] := by simp [Process.note]
  unfold endState
  by_cases governs : p.gate.governs .headerLock
  · rw [Registry.access_governed governs]
    cases Gate.acquire .headerLock .exclusive p.gate with
    | ok a g => exact ⟨_, _, [], unsaid _⟩
    | error e g =>
      cases e with
      | fatal cause => exact ⟨_, _, _, rfl⟩
      | blocked id => exact ⟨_, _, [], unsaid _⟩
      | aborted => exact ⟨_, _, [], unsaid _⟩
  · rw [Registry.access_native (by simpa using governs)]
    by_cases busy : p.registry.lock.busy
    · rw [if_pos busy]
      exact ⟨_, _, [], unsaid _⟩
    · rw [if_neg busy, tidy (by simpa using busy)]
      exact ⟨_, _, [], unsaid _⟩

theorem steady_access (t : ThreadId) (f : ImageList → β × ImageList) :
    Steady (Registry.access t f : ProcessAct σ β) := by
  intro p tidy
  obtain ⟨g, images, lines, ends⟩ := exists_endState_access t f tidy
  rw [ends]
  rfl

theorem pieces_steady (t : ThreadId) : Pieces (σ := σ) Steady t where
  closed := closed_steady
  reads _ h p tidy := h p p tidy
  say _ _ _ _ := rfl
  access := steady_access t
  revise _ _ _ := rfl

theorem steady_client (order : Enumeration) (body : Call → Handler β κ) (t : ThreadId) (depth : Nat)
    (call : Call) : Steady (Handler.client order body t depth call) := by
  refine (pieces_steady t).client ?_ ?_ ?_ order body depth call
  · exact fun p _ => rfl
  · exact fun next h p tidy => h p.client.own p tidy
  · exact fun f p _ => rfl

/-- An operation in a run: what its caller was told, or why it stopped, what was logged, and the registry's
lock before and after it. -/
structure Event (β : Type) where
  operation : Operation β
  result : Except Stop operation.Reply
  lines : List LogLine
  found : Mutex
  left : Mutex

namespace Event

def waited (e : Event β) : Bool :=
  match e.result with
  | .error (.blocked _) => true
  | _ => false

def shown (e : Event β) : (Σ operation : Operation β, Except Stop operation.Reply) × List LogLine :=
  (⟨e.operation, e.result⟩, e.lines)

end Event

/-- Makes the operations one after another, with the debugger's visits `visits k` before operation `k`. One
that stops ends the run. -/
def play (order : Enumeration) (body : Call → Handler β κ) (depth : Nat) :
    (visits : Nat → List Visit) → List (ThreadId × Operation β) → Process (Memory κ) →
      List (Event β) × Process (Memory κ)
  | visits, [], p => ([], attendAll (visits 0) p)
  | visits, (t, operation) :: rest, p =>
    let p := attendAll (visits 0) p
    let event (result : Except Stop operation.Reply) (q : Process (Memory κ)) : Event β :=
      ⟨operation, result, q.log.drop p.log.length, p.registry.lock, q.registry.lock⟩
    match perform order (Handler.client order body t depth) t operation p with
    | .ok a q =>
      let (events, r) := play order body depth (fun k => visits (k + 1)) rest q
      (event (.ok a) q :: events, r)
    | .error e q => ([event (.error e) q], q)

variable {order : Enumeration} {body : Call → Handler β κ} {depth : Nat}

theorem play_alike {p q : Process (Memory κ)} (operations : List (ThreadId × Operation β))
    (visits visits' : Nat → List Visit) (alike : Alike p q) (lenient : p.gate.hook = .record)
    (free : ∀ e ∈ (play order body depth visits operations p).1, e.waited = false)
    (free' : ∀ e ∈ (play order body depth visits' operations q).1, e.waited = false) :
    (play order body depth visits operations p).1.map Event.shown =
        (play order body depth visits' operations q).1.map Event.shown ∧
      Alike (play order body depth visits operations p).2 (play order body depth visits' operations q).2 := by
  induction operations generalizing p q visits visits' with
  | nil =>
    exact ⟨rfl, (alike_attendAll _ p).symm.trans (alike.trans (alike_attendAll _ q))⟩
  | cons first rest ih =>
    obtain ⟨t, operation⟩ := first
    have visited := (alike_attendAll (visits 0) p).symm.trans (alike.trans (alike_attendAll (visits' 0) q))
    have lenient := (alike_attendAll (visits 0) p).hook.trans lenient
    have together := (pieces_blind t).perform order (blind_client order body t depth) operation _ _
      visited lenient
    unfold play at free free' ⊢
    generalize attendAll (visits 0) p = p at *
    generalize attendAll (visits' 0) q = q at *
    dsimp only at free free' ⊢
    generalize perform order (Handler.client order body t depth) t operation p = a at together free ⊢
    generalize perform order (Handler.client order body t depth) t operation q = b at together free' ⊢
    induction together with
    | waits id p' b => simp [Event.waited] at free
    | waits' id a q' => simp [Event.waited] at free'
    | ok a follow =>
      obtain ⟨lines, hp, hq⟩ := follow.logged
      simp only [List.forall_mem_cons] at free free'
      obtain ⟨same, ends⟩ := ih _ _ follow.alike follow.lenient free.2 free'.2
      refine ⟨?_, ends⟩
      simp only [List.map_cons, same, Event.shown, hp, hq, List.drop_left]
    | error e follow =>
      obtain ⟨lines, hp, hq⟩ := follow.logged
      refine ⟨?_, follow.alike⟩
      simp only [List.map_cons, List.map_nil, Event.shown, hp, hq, List.drop_left]

theorem play_steady {p : Process (Memory κ)} (operations : List (ThreadId × Operation β))
    (visits : Nat → List Visit) (tidy : p.registry.lock.Tidy) :
    ∀ e ∈ (play order body depth visits operations p).1, e.left = e.found := by
  induction operations generalizing p visits with
  | nil => simp [play]
  | cons first rest ih =>
    obtain ⟨t, operation⟩ := first
    have tidy := tidy_attendAll (visits 0) tidy
    have steady := (pieces_steady t).perform order (steady_client order body t depth) operation _ tidy
    unfold play
    generalize attendAll (visits 0) p = p at *
    unfold endState at steady
    dsimp only
    cases e : perform order (Handler.client order body t depth) t operation p with
    | ok a q =>
      simp only [e] at steady
      simp only [List.forall_mem_cons]
      exact ⟨steady, ih _ (steady ▸ tidy)⟩
    | error cause q =>
      simp only [e] at steady
      simpa using steady

/-- Two runs of the same operations from the same state, with sessions that start and end at any places
between them, show the same, call the same handlers with the same images, and leave the same images and
tables; and every operation leaves the registry's lock as it found it. No operation may have to wait in
either run. In the first state violations are only noted, and the lock has no owner if it is free, which is
so in every state that a process comes to. -/
theorem play_transparent (order : Enumeration) (body : Call → Handler β κ) (depth : Nat)
    (operations : List (ThreadId × Operation β)) (visits visits' : Nat → List Visit)
    (p : Process (Memory κ)) (lenient : p.gate.hook = .record) (tidy : p.registry.lock.Tidy)
    (free : ∀ e ∈ (play order body depth visits operations p).1, e.waited = false)
    (free' : ∀ e ∈ (play order body depth visits' operations p).1, e.waited = false) :
    (play order body depth visits operations p).1.map Event.shown =
        (play order body depth visits' operations p).1.map Event.shown ∧
      Alike (play order body depth visits operations p).2 (play order body depth visits' operations p).2 ∧
      (∀ e ∈ (play order body depth visits operations p).1, e.left = e.found) ∧
      ∀ e ∈ (play order body depth visits' operations p).1, e.left = e.found := by
  obtain ⟨shown, alike⟩ := play_alike operations visits visits' (.refl p) lenient free free'
  exact ⟨shown, alike, play_steady operations visits tidy, play_steady operations visits' tidy⟩

/-- Handlers that count the images: the one at 2 is refused as the second, and what is removed is mapped
again. -/
def counting : Call → Handler Unit Unit
  | .state _ _ images => .ask .imageCount fun n =>
    .answer (if n = 2 ∧ images.any (·.addr = 2) then some "one is enough" else none)
  | .add _ _ => .answer none
  | .remove _ image => .ask (.load (.mapOne image)) fun _ => .answer none

def errands : List (ThreadId × Operation Unit) :=
  [(.named "a", .load (.onState ⟨.bound, false, 0⟩)), (.named "a", .load (.onRemove 1)),
    (.named "a", .load (.map [imageAt 1, imageAt 2])), (.named "b", .registry .snapshot),
    (.named "b", .load (.unmap 1)), (.named "a", .knownImages)]

/-- The debugger comes before the images are mapped and leaves before one of them is unmapped. -/
def oneVisit : Nat → List Visit
  | 2 => [.start (.named "d")]
  | 4 => [.finish]
  | _ => []

def forgiving : Process (Memory Unit) :=
  { gate := { managed := Process.managedLocks, hook := .record }, client := ⟨[], ()⟩ }

theorem play_transparent_oneVisit :
    (play .newestFirst counting 2 (fun _ => []) errands forgiving).1.map Event.shown =
        (play .newestFirst counting 2 oneVisit errands forgiving).1.map Event.shown ∧
      (play .newestFirst counting 2 oneVisit errands forgiving).2.client.calls =
        (play .newestFirst counting 2 (fun _ => []) errands forgiving).2.client.calls ∧
      (play .newestFirst counting 2 (fun _ => []) errands forgiving).2.client.calls.length = 4 ∧
      (play .newestFirst counting 2 (fun _ => []) errands forgiving).2.gate.counters.bypassed = 0 ∧
      (play .newestFirst counting 2 oneVisit errands forgiving).2.gate.counters.bypassed = 10 := by
  obtain ⟨shown, alike, -⟩ := play_transparent .newestFirst counting 2 errands (fun _ => []) oneVisit
    forgiving rfl (fun _ => rfl) (by decide +kernel) (by decide +kernel)
  exact ⟨shown, congrArg Memory.calls alike.client, by decide +kernel, by decide +kernel, by decide +kernel⟩

end Session

end ImageLoader
