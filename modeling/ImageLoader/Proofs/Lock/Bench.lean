import Mathlib.Logic.Function.Basic
import ImageLoader.Proofs.Lock.Kinds
/-! Locks of every kind on one gate, whose mode and tables may change between any two calls. While the gate
governs a lock, acquiring and releasing it succeed and do nothing but count: a bypass for each acquisition,
a skip for each release, and a violation for each acquisition that the recorded hold falls short of. -/

namespace ImageLoader

open Act

variable {α β : Type} {id : LockId} {t : ThreadId} {mode : RwMode} {c : LockCall}

/-- The recorded hold is missing, or it is shared where an exclusive one is needed. -/
def Hold.short (held : Option Hold) (need : Hold) : Bool :=
  match held with
  | none => true
  | some .shared => need = .exclusive
  | some .exclusive => false

theorem Gate.violates_eq_short (g : Gate) (id : LockId) (need : Hold) :
    g.violates id need = (g.governs id && Hold.short (g.held.get? id) need) := by
  rw [violates, satisfies]
  rcases g.held.get? id with _ | _ | _ <;> cases need <;> rfl

/-- How the debugger must hold a lock of this kind for its acquisition in this mode. -/
def LockKind.need : LockKind → RwMode → Hold
  | .rwLock, mode => .ofMode mode
  | _, _ => .exclusive

def LockCall.ask (k : LockKind) (id : LockId) : LockCall → Gate → Gate
  | .acquire mode, g => g.asked id (k.need mode)
  | .tryAcquire mode, g => g.asked id (k.need mode)
  | .release _, g => (Gate.release id g).2
  | _, g => g

theorem LockCall.hook_ask (k : LockKind) (c : LockCall) (g : Gate) : (c.ask k id g).hook = g.hook := by
  cases c with
  | acquire mode => exact (g.asked_spec _ _).2.1
  | tryAcquire mode => exact (g.asked_spec _ _).2.1
  | release mode => exact g.release_hook id
  | _ => rfl

namespace Gated

variable {L : Type} {need : Hold} {take release : L → Option L} {kind : LockKind} {s : Gated L}

theorem blocking_governed (governs : s.gate.governs id) (lenient : s.gate.hook = .record) :
    blocking id need take s = .ok () { s with gate := s.gate.asked id need } := by
  rw [blocking, Gate.acquire_bypass_of_satisfies governs (.inr lenient)]

theorem trying_governed (governs : s.gate.governs id) (lenient : s.gate.hook = .record) :
    trying id need take s = .ok true { s with gate := s.gate.asked id need } := by
  rw [trying, Gate.acquire_bypass_of_satisfies governs (.inr lenient)]

theorem releasing_governed (governs : s.gate.governs id) :
    releasing id kind release s = .ok (.ok ()) { s with gate := s.gate.countSkip } := by
  rw [releasing, Gate.release_governed governs]

end Gated

theorem RecursiveMutex.native_noteAcquired (t : ThreadId) (m : RecursiveMutex) :
    (m.noteAcquired t).native = m.native := by
  unfold noteAcquired
  split <;> rfl

namespace LockKind

variable {k : LockKind} {l l' : k.State} {s : Gated k.State}

/-- The lock has been initialized; only recursive ones may lack that. -/
def Ready : (k : LockKind) → k.State → Prop
  | .recursiveMutex, l => RecursiveMutex.isInitialized l
  | _, _ => True

theorem ready_of_take? (taken : k.take? t mode l = some l') : k.Ready l' := by
  cases k with
  | recursiveMutex =>
    obtain ⟨n, -, taken⟩ := Option.bind_eq_some_iff.1 taken
    obtain ⟨n', -, taken⟩ := Option.bind_eq_some_iff.1 taken
    obtain rfl := Option.some.inj taken
    exact congrArg Option.isSome (RecursiveMutex.native_noteAcquired t _)
  | _ => trivial

theorem Ready.release (ready : k.Ready l) (released : k.release? t mode l = some l') : k.Ready l' := by
  cases k with
  | recursiveMutex =>
    obtain ⟨-, released⟩ := Option.ite_none_right_eq_some.1 released
    obtain rfl := Option.some.inj released
    exact Option.isSome_map.trans ready
  | _ => trivial

theorem Ready.of_eq (ready : k.Ready l) (same : l' = l) : k.Ready l' := same ▸ ready

theorem Ready.ite_getD (ready : k.Ready l) {native : Option k.State} {governs : Bool}
    (done : ∀ l', native = some l' → k.Ready l') :
    k.Ready (if governs then l else native.getD l) := by
  cases governs with
  | true => exact ready
  | false =>
    cases e : native with
    | none => exact ready
    | some l' => exact done l' e

section

variable (ready : k.Ready s.lock)
include ready

theorem call_acquire_eq : k.call id t (.acquire mode) s =
    ((fun _ => true) <$> Gated.blocking id (k.need mode) (k.take? t mode)) s := by
  cases k with
  | recursiveMutex => exact RecursiveMutex.map_usable_eq _ ready
  | _ => rfl

theorem call_tryAcquire_eq : k.call id t (.tryAcquire mode) s =
    Gated.trying id (k.need mode) (k.take? t mode) s := by
  cases k with
  | recursiveMutex => exact RecursiveMutex.usable_eq ready
  | _ => rfl

theorem call_release_eq : k.call id t (.release mode) s =
    (Except.isOk <$> Gated.releasing id k (k.release? t mode)) s := by
  cases k with
  | recursiveMutex => exact RecursiveMutex.map_usable_eq _ ready
  | _ => rfl

theorem endState_acquire : endState (k.call id t (.acquire mode)) s =
    ⟨s.gate.asked id (k.need mode),
      if s.gate.governs id then s.lock else (k.take? t mode s.lock).getD s.lock⟩ := by
  rw [endState, call_acquire_eq ready]
  exact (endState_map _ _ s).trans (Gated.endState_blocking s)

theorem endState_tryAcquire : endState (k.call id t (.tryAcquire mode)) s =
    ⟨s.gate.asked id (k.need mode),
      if s.gate.governs id then s.lock else (k.take? t mode s.lock).getD s.lock⟩ := by
  rw [endState, call_tryAcquire_eq ready]
  exact Gated.endState_trying s

theorem endState_release : endState (k.call id t (.release mode)) s =
    ⟨(Gate.release id s.gate).2,
      if s.gate.governs id then s.lock else (k.release? t mode s.lock).getD s.lock⟩ := by
  rw [endState, call_release_eq ready]
  exact (endState_map _ _ s).trans (Gated.endState_releasing s)

theorem gate_call (c : LockCall) : (endState (k.call id t c) s).gate = c.ask k id s.gate := by
  cases c with
  | acquire mode => exact congrArg Gated.gate (endState_acquire ready)
  | tryAcquire mode => exact congrArg Gated.gate (endState_tryAcquire ready)
  | release mode => exact congrArg Gated.gate (endState_release ready)
  | beginWait =>
    cases k with
    | monitor =>
      refine (congrArg Gated.gate (endState_map _ _ s)).trans ?_
      unfold endState
      rcases Monitor.beginWait_cases id t s with ⟨e, refused⟩ | ⟨m, -, begun⟩
      · rw [refused]
        rfl
      · rw [begun]
        rfl
    | _ => rfl
  | endWait =>
    cases k with
    | monitor =>
      refine (congrArg Gated.gate (endState_map _ _ s)).trans ?_
      unfold endState
      rcases Monitor.endWait_cases id t s with ⟨-, waits⟩ | ⟨m, -, ended⟩
      · rw [waits]
        rfl
      · rw [ended]
        rfl
    | _ => rfl
  | init => cases k <;> rfl
  | assertLocked => exact congrArg Gated.gate (endState_call_of_asserts rfl)
  | assertUnlocked => exact congrArg Gated.gate (endState_call_of_asserts rfl)
  | assertReading => exact congrArg Gated.gate (endState_call_of_asserts rfl)
  | assertWriting => exact congrArg Gated.gate (endState_call_of_asserts rfl)

theorem Ready.call (c : LockCall) : k.Ready (endState (k.call id t c) s).lock := by
  cases k with
  | recursiveMutex =>
    cases c with
    | acquire mode =>
      rw [endState_acquire ready]
      exact ready.ite_getD fun l' => ready_of_take?
    | tryAcquire mode =>
      rw [endState_tryAcquire ready]
      exact ready.ite_getD fun l' => ready_of_take?
    | release mode =>
      rw [endState_release ready]
      exact ready.ite_getD fun l' => ready.release
    | assertLocked => exact ready.of_eq (congrArg Gated.lock (endState_call_of_asserts rfl))
    | assertUnlocked => exact ready.of_eq (congrArg Gated.lock (endState_call_of_asserts rfl))
    | init => rfl
    | _ => exact ready
  | _ => trivial

/-- Who acquires a lock that the gate governs is told so, and nothing but the gate's counts changes. -/
theorem call_acquires_governed (governs : s.gate.governs id) (lenient : s.gate.hook = .record)
    (acquires : c.acquires) : ∃ g, k.call id t c s = .ok true { s with gate := g } := by
  cases c with
  | acquire mode =>
    rw [call_acquire_eq ready, map_apply, Gated.blocking_governed governs lenient]
    exact ⟨_, rfl⟩
  | tryAcquire mode =>
    rw [call_tryAcquire_eq ready, Gated.trying_governed governs lenient]
    exact ⟨_, rfl⟩
  | _ => cases acquires

theorem call_release_governed (governs : s.gate.governs id) :
    k.call id t (.release mode) s = .ok true { s with gate := s.gate.countSkip } := by
  rw [call_release_eq ready, map_apply, Gated.releasing_governed governs]
  rfl

end

end LockKind

theorem Monitor.wait_governed {s : Gated Monitor} (governs : s.gate.governs id)
    (others : LockAct Monitor Unit) :
    Monitor.wait id t others s = .ok (.error (.waitDuringDebugger id.name)) s := by
  have refused : Monitor.beginWait id t s = .ok (.error (.waitDuringDebugger id.name)) s := if_pos governs
  rw [wait, bind_apply, refused]
  rfl

/-- A visit to a value whose lock the gate governs is an acquisition and a release of that lock. -/
theorem Guarded.withValue_governed {s : Gated (Guarded α)} (governs : s.gate.governs id)
    (lenient : s.gate.hook = .record) (f : α → β × α) :
    Guarded.withValue id t f s = .ok (f s.lock.value).1
      ⟨(s.gate.asked id .exclusive).countSkip, { s.lock with value := (f s.lock.value).2 }⟩ := by
  have locked : onLock (Mutex.lock id t) s = .ok () { s with gate := s.gate.asked id .exclusive } := by
    have taken : Mutex.lock id t ⟨s.gate, s.lock.lock⟩ = _ := Gated.blocking_governed governs lenient
    rw [onLock, Gated.focus, taken]
  have still := ((s.gate.asked_spec id .exclusive).1.governs id).trans governs
  have unlocked (g : Guarded α) : discard (onLock (Mutex.unlock id t)) ⟨s.gate.asked id .exclusive, g⟩ =
      .ok () ⟨(s.gate.asked id .exclusive).countSkip, g⟩ := by
    have freed : Mutex.unlock id t ⟨s.gate.asked id .exclusive, g.lock⟩ = _ :=
      Gated.releasing_governed still
    rw [discard_apply, onLock, Gated.focus, freed]
  rw [withValue, bind_apply, locked]
  dsimp only
  rw [bind_apply, update]
  dsimp only
  rw [bind_apply, unlocked]
  rfl

/-- Locks on one gate, each of its own kind. -/
structure Bench (kind : LockId → LockKind) where
  gate : Gate
  locks : (id : LockId) → (kind id).State

inductive Move
  | call (id : LockId) (t : ThreadId) (c : LockCall)
  | setMode (mode : DebuggerMode)
  | manage (id : LockId)
  | markHeld (id : LockId) (hold : Hold)
  | clearHeld
  deriving DecidableEq, Repr

namespace Bench

variable {kind : LockId → LockKind} {b : Bench kind}

def gated (b : Bench kind) (id : LockId) : Gated (kind id).State := ⟨b.gate, b.locks id⟩

def put (b : Bench kind) (id : LockId) (s : Gated (kind id).State) : Bench kind :=
  ⟨s.gate, Function.update b.locks id s.lock⟩

def call (id : LockId) (t : ThreadId) (c : LockCall) : EStateM Stop (Bench kind) Bool := fun b =>
  match (kind id).call id t c (b.gated id) with
  | .ok told s => .ok told (b.put id s)
  | .error e s => .error e (b.put id s)

/-- The bench after a move. A call that stops has done what it did until then. -/
def make (b : Bench kind) : Move → Bench kind
  | .call id t c => endState (call id t c) b
  | .setMode mode => { b with gate := (b.gate.setMode mode).1 }
  | .manage id => { b with gate := b.gate.manage id }
  | .markHeld id hold => { b with gate := b.gate.markHeld id hold }
  | .clearHeld => { b with gate := b.gate.clearHeld }

def run (moves : List Move) (b : Bench kind) : Bench kind := moves.foldl make b

/-- The moves of a run, each with the bench that it found. -/
def stages : List Move → Bench kind → List (Bench kind × Move)
  | [], _ => []
  | m :: rest, b => (b, m) :: stages rest (b.make m)

def bypasses : Bench kind × Move → Bool
  | (b, .call id _ c) => c.acquires && b.gate.governs id
  | _ => false

def skips : Bench kind × Move → Bool
  | (b, .call id _ (.release _)) => b.gate.governs id
  | _ => false

/-- Whether the move acquires a lock that is the debugger's at the moment, and the hold that the gate has on
record falls short. -/
def violates : Bench kind × Move → Bool
  | (b, .call id _ (.acquire mode)) =>
    b.gate.governs id && Hold.short (b.gate.held.get? id) ((kind id).need mode)
  | (b, .call id _ (.tryAcquire mode)) =>
    b.gate.governs id && Hold.short (b.gate.held.get? id) ((kind id).need mode)
  | _ => false

theorem endState_call (b : Bench kind) (id : LockId) (t : ThreadId) (c : LockCall) :
    endState (call id t c) b = b.put id (endState ((kind id).call id t c) (b.gated id)) := by
  unfold endState call
  cases (kind id).call id t c (b.gated id) <;> rfl

theorem gate_call (ready : (kind id).Ready (b.locks id)) (t : ThreadId) (c : LockCall) :
    (b.make (.call id t c)).gate = c.ask (kind id) id b.gate := by
  rw [make, endState_call]
  exact LockKind.gate_call (s := b.gated id) ready c

theorem call_eq_ok {told : Bool} {g : Gate}
    (h : (kind id).call id t c (b.gated id) = .ok told { b.gated id with gate := g }) :
    call id t c b = .ok told { b with gate := g } := by
  rw [call, h]
  dsimp only [put, gated]
  rw [Function.update_eq_self]

/-- Violations are only noted, and every lock is initialized. -/
structure Fit (b : Bench kind) : Prop where
  lenient : b.gate.hook = .record
  ready : ∀ id, (kind id).Ready (b.locks id)

theorem Fit.make (fit : b.Fit) (m : Move) : (b.make m).Fit := by
  cases m with
  | call id t c =>
    rw [Bench.make, endState_call]
    refine ⟨?_, fun other => ?_⟩
    · change (endState ((kind id).call id t c) (b.gated id)).gate.hook = .record
      rw [LockKind.gate_call (fit.ready id)]
      exact (c.hook_ask _ _).trans fit.lenient
    · by_cases same : other = id
      · subst same
        dsimp only [put]
        rw [Function.update_self]
        exact LockKind.Ready.call (fit.ready other) c
      · dsimp only [put]
        rw [Function.update_of_ne same]
        exact fit.ready other
  | _ => exact ⟨fit.lenient, fit.ready⟩

theorem counters_make (fit : b.Fit) (m : Move) : (b.make m).gate.counters =
    { bypassed := b.gate.counters.bypassed + if bypasses (b, m) then 1 else 0
      skipped := b.gate.counters.skipped + if skips (b, m) then 1 else 0
      violations := b.gate.counters.violations + if violates (b, m) then 1 else 0 } := by
  simp only [bypasses, skips, violates]
  cases m with
  | call id t c =>
    rw [gate_call (fit.ready id)]
    cases c with
    | acquire mode =>
      rw [LockCall.ask, Gate.counters_asked fit.lenient, Gate.violates_eq_short]
      simp [LockCall.acquires]
    | tryAcquire mode =>
      rw [LockCall.ask, Gate.counters_asked fit.lenient, Gate.violates_eq_short]
      simp [LockCall.acquires]
    | release mode =>
      rw [LockCall.ask, Gate.release_counters]
      by_cases governs : b.gate.governs id <;> simp [LockCall.acquires, governs]
    | _ =>
      simp only [LockCall.acquires, Bool.false_and, Bool.false_eq_true, if_false, UInt64.add_zero]
      rfl
  | _ =>
    simp only [Bool.false_eq_true, if_false, UInt64.add_zero]
    rfl

theorem count_cons {α : Type} (counter : UInt64) (P : α → Bool) (a : α) (l : List α) :
    counter + (if P a then 1 else 0) + .ofNat (l.countP P) = counter + .ofNat ((a :: l).countP P) := by
  rw [List.countP_cons, UInt64.ofNat_add, UInt64.add_assoc, UInt64.add_comm (if P a then 1 else 0)]
  cases P a <;> rfl

/-- What calls on a lock come to that the gate governs. -/
structure Excused (b : Bench kind) (id : LockId) (t : ThreadId) : Prop where
  acquires : ∀ c, c.acquires → ∃ g, call id t c b = .ok true { b with gate := g }
  releases : ∀ mode, ∃ g, call id t (.release mode) b = .ok true { b with gate := g }
  waits : ∀ (m : Monitor) (others : LockAct Monitor Unit),
    Monitor.wait id t others ⟨b.gate, m⟩ = .ok (.error (.waitDuringDebugger id.name)) ⟨b.gate, m⟩
  /-- A visit to a guarded value asks the gate as an acquisition does and then a release. -/
  visits : ∀ {α β : Type} (g : Guarded α) (f : α → β × α),
    Guarded.withValue id t f ⟨b.gate, g⟩ = .ok (f g.value).1
      ⟨(run [.call id t (.acquire .write), .call id t (.release .write)] b).gate,
        { g with value := (f g.value).2 }⟩

theorem Fit.excused (fit : b.Fit) (governs : b.gate.governs id) (t : ThreadId) : b.Excused id t where
  acquires c acquires := by
    obtain ⟨g, done⟩ := LockKind.call_acquires_governed (s := b.gated id) (t := t) (fit.ready id) governs
      fit.lenient acquires
    exact ⟨g, call_eq_ok done⟩
  releases mode := ⟨_, call_eq_ok (LockKind.call_release_governed (s := b.gated id) (fit.ready id) governs)⟩
  waits m others := Monitor.wait_governed (s := ⟨b.gate, m⟩) governs others
  visits g f := by
    have asked : (b.make (.call id t (.acquire .write))).gate = b.gate.asked id .exclusive := by
      rw [gate_call (fit.ready id), LockCall.ask]
      cases kind id <;> rfl
    have still := ((b.gate.asked_spec id .exclusive).1.governs id).trans governs
    rw [Guarded.withValue_governed (s := ⟨b.gate, g⟩) governs fit.lenient, run, List.foldl_cons,
      List.foldl_cons, List.foldl_nil, gate_call ((fit.make _).ready id), asked, LockCall.ask,
      Gate.release_governed still]

/-- While the gate governs a lock its operations succeed and change no lock, and over a run they are what
the gate counts, in 64 bits. -/
theorem run_governed (fit : b.Fit) (moves : List Move) :
    (∀ stage ∈ stages moves b, ∀ id t, stage.1.gate.governs id → stage.1.Excused id t) ∧
      (run moves b).gate.counters =
        { bypassed := b.gate.counters.bypassed + .ofNat ((stages moves b).countP bypasses)
          skipped := b.gate.counters.skipped + .ofNat ((stages moves b).countP skips)
          violations := b.gate.counters.violations + .ofNat ((stages moves b).countP violates) } := by
  induction moves generalizing b with
  | nil => exact ⟨by simp [stages], by simp [run, stages]⟩
  | cons m rest ih =>
    obtain ⟨excused, counted⟩ := ih (fit.make m)
    refine ⟨?_, ?_⟩
    · rw [stages, List.forall_mem_cons]
      exact ⟨fun id t governs => fit.excused governs t, excused⟩
    · rw [run, List.foldl_cons]
      refine counted.trans ?_
      rw [counters_make fit m, stages]
      simp only [count_cons]

def unused : Bench fun
    | .runtimeLock => .rwLock
    | .loadMethodLock => .recursiveMutex
    | .classInitLock => .monitor
    | _ => .mutex where
  gate := { hook := .record }
  locks _ := LockKind.fresh _

/-- A debugger that holds runtimeLock for reading comes and goes. Reading is no violation and writing is, and
what is done to classLock is not counted. -/
def attachment : List Move :=
  [.manage .runtimeLock, .markHeld .runtimeLock .shared, .setMode .partly,
    .call .runtimeLock (.named "a") (.acquire .read),
    .call .runtimeLock (.named "b") (.tryAcquire .write),
    .call .classLock (.named "b") (.acquire .write), .call .runtimeLock (.named "b") (.release .write),
    .clearHeld, .setMode .off, .call .runtimeLock (.named "c") (.acquire .write)]

theorem run_governed_attachment :
    unused.Fit ∧ (run attachment unused).gate.counters =
      { bypassed := 2, skipped := 1, violations := 1 } := by
  have fit : unused.Fit := ⟨rfl, fun id => by cases id <;> trivial⟩
  exact ⟨fit, (run_governed fit attachment).2.trans (by decide)⟩

end Bench

end ImageLoader
