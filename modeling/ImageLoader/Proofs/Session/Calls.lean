import ImageLoader.Process
import ImageLoader.Proofs.Lock
/-! Calls on the locks of a process. Each changes one lock and what the gate counts. The native halves of
the managed locks are what a debugger session is about: no call touches them while the gate governs
them, and every call keeps them tidy. -/

namespace ImageLoader

open Act Process

variable {σ : Type}

def Process.lockCall (id : LockId) (t : ThreadId) (call : LockCall) : ProcessAct σ Unit :=
  match id with
  | .runtimeLock =>
    onLock (·.locks.runtimeLock) (fun p l => { p with locks := { p.locks with runtimeLock := l } })
      (call.onRwLock id t)
  | .selLock =>
    onLock (·.locks.selLock) (fun p l => { p with locks := { p.locks with selLock := l } })
      (call.onRwLock id t)
  | .cacheUpdateLock =>
    onLock (·.locks.cacheUpdateLock)
      (fun p m => { p with locks := { p.locks with cacheUpdateLock := m } }) (call.onMutex id t)
  | .classLock =>
    onLock (·.locks.classLock) (fun p m => { p with locks := { p.locks with classLock := m } })
      (call.onMutex id t)
  | .methodListLock =>
    onLock (·.locks.methodListLock)
      (fun p m => { p with locks := { p.locks with methodListLock := m } }) (call.onMutex id t)
  | .loadMethodLock =>
    onLock (·.locks.loadMethodLock)
      (fun p m => { p with locks := { p.locks with loadMethodLock := m } }) (call.onRecursive id t)
  | .classInitLock =>
    onLock (·.locks.classInitLock)
      (fun p m => { p with locks := { p.locks with classInitLock := m } }) (call.onMonitor id t)
  | .headerLock => onRegistry (Guarded.onLock (call.onMutex id t))
  | .added _ => pure ()

/-- The native halves of the managed locks, with their owners and modes. -/
structure Natives where
  runtimeLock : RwLock
  selLock : RwLock
  cacheUpdateLock : Mutex
  headerLock : Mutex
  deriving DecidableEq, Repr

namespace Natives

structure Tidy (n : Natives) : Prop where
  runtimeLock : n.runtimeLock.Tidy
  selLock : n.selLock.Tidy
  cacheUpdateLock : n.cacheUpdateLock.Tidy
  headerLock : n.headerLock.Tidy

def busy (n : Natives) : LockId → Bool
  | .runtimeLock => n.runtimeLock.busy
  | .selLock => n.selLock.busy
  | .cacheUpdateLock => n.cacheUpdateLock.busy
  | .headerLock => n.headerLock.busy
  | _ => false

def free (n : Natives) : Taken → Natives
  | .runtimeLock _ => { n with runtimeLock := n.runtimeLock.free }
  | .cacheUpdateLock => { n with cacheUpdateLock := n.cacheUpdateLock.free }
  | .selLock _ => { n with selLock := n.selLock.free }
  | .headerLock => { n with headerLock := n.headerLock.free }

end Natives

def Process.natives (p : Process σ) : Natives :=
  ⟨p.locks.runtimeLock, p.locks.selLock, p.locks.cacheUpdateLock, p.registry.lock⟩

namespace Session

/-- What a call on a lock leaves as it was. -/
structure CallFrame (p q : Process σ) : Prop where
  gate : Gate.Agrees p.gate q.gate
  taken : q.taken = p.taken
  governed : (∀ id ∈ managedLocks, p.gate.governs id) → q.natives = p.natives
  tidy : p.natives.Tidy → q.natives.Tidy

section

variable {L α : Type} {get : Process σ → L} {set : Process σ → L → Process σ} {x : LockAct L α}

theorem endState_onLock (get : Process σ → L) (set : Process σ → L → Process σ) (x : LockAct L α)
    (p : Process σ) :
    ∃ lines, endState (onLock get set x) p =
      (set { p with gate := (endState x ⟨p.gate, get p⟩).gate }
        (endState x ⟨p.gate, get p⟩).lock).note lines := by
  have unsaid (q : Process σ) : q = q.note [] := by simp [note]
  unfold endState onLock
  cases x ⟨p.gate, get p⟩ with
  | ok a s => exact ⟨[], unsaid _⟩
  | error e s =>
    cases e with
    | fatal cause => exact ⟨_, rfl⟩
    | blocked lock => exact ⟨[], unsaid _⟩
    | aborted => exact ⟨[], unsaid _⟩

theorem gate_onLock (gate : ∀ p l, (set p l).gate = p.gate) (p : Process σ) :
    (endState (onLock get set x) p).gate = (endState x ⟨p.gate, get p⟩).gate := by
  obtain ⟨lines, e⟩ := endState_onLock get set x p
  rw [e]
  exact gate { p with gate := (endState x ⟨p.gate, get p⟩).gate } _

/-- Where a lock that is not managed lies in a process. -/
structure Apart (set : Process σ → L → Process σ) : Prop where
  gate : ∀ p l, (set p l).gate = p.gate
  taken : ∀ p l, (set p l).taken = p.taken
  natives : ∀ p l, (set p l).natives = p.natives

/-- Where a managed lock lies in a process. -/
structure Managed (id : LockId) (Tidy : L → Prop) (get : Process σ → L)
    (set : Process σ → L → Process σ) : Prop where
  managed : id ∈ managedLocks
  gate : ∀ p l, (set p l).gate = p.gate
  taken : ∀ p l, (set p l).taken = p.taken
  same : ∀ (p : Process σ) g, (set { p with gate := g } (get p)).natives = p.natives
  clean : ∀ (p : Process σ), p.natives.Tidy → Tidy (get p)
  tidy : ∀ (p : Process σ) g l, p.natives.Tidy → Tidy l → (set { p with gate := g } l).natives.Tidy

theorem Apart.frame (apart : Apart set) (keeps : KeepsGate x) (p : Process σ) :
    CallFrame p (endState (onLock get set x) p) := by
  obtain ⟨lines, e⟩ := endState_onLock get set x p
  have stays := keeps ⟨p.gate, get p⟩
  generalize endState x ⟨p.gate, get p⟩ = s at e stays
  have natives := apart.natives { p with gate := s.gate } s.lock
  rw [e]
  refine ⟨?_, apart.taken { p with gate := s.gate } s.lock, fun _ => natives, fun h => ?_⟩
  · exact apart.gate { p with gate := s.gate } s.lock ▸ stays
  · exact natives.symm ▸ h

theorem Managed.frame {id : LockId} {Tidy : L → Prop} (lies : Managed id Tidy get set)
    (obeys : Obeys id Tidy x) (p : Process σ) : CallFrame p (endState (onLock get set x) p) := by
  obtain ⟨lines, e⟩ := endState_onLock get set x p
  have stays := obeys.gate ⟨p.gate, get p⟩
  have still := obeys.governed ⟨p.gate, get p⟩
  have clean := obeys.tidy ⟨p.gate, get p⟩
  generalize endState x ⟨p.gate, get p⟩ = s at e stays still clean
  rw [e]
  refine ⟨?_, lies.taken { p with gate := s.gate } s.lock, fun governs => ?_, fun h => ?_⟩
  · exact lies.gate { p with gate := s.gate } s.lock ▸ stays
  · rw [still (governs id lies.managed)]
    exact lies.same p s.gate
  · exact lies.tidy p s.gate s.lock h (clean (lies.clean p h))

end

theorem endState_guarded {α β : Type} (x : LockAct Mutex α) (s : Gated (Guarded β)) :
    endState (Guarded.onLock x) s =
      ⟨(endState x ⟨s.gate, s.lock.lock⟩).gate,
        { s.lock with lock := (endState x ⟨s.gate, s.lock.lock⟩).lock }⟩ := by
  unfold endState Guarded.onLock Gated.focus
  dsimp only
  cases x ⟨s.gate, s.lock.lock⟩ <;> rfl

theorem obeys_guarded {α β : Type} {id : LockId} {x : LockAct Mutex α} (h : Obeys id Mutex.Tidy x) :
    Obeys id (fun g : Guarded β => g.lock.Tidy) (Guarded.onLock x) := by
  refine ⟨fun s => ?_, fun s governs => ?_, fun s tidy => ?_⟩ <;> rw [endState_guarded]
  · exact h.gate ⟨s.gate, s.lock.lock⟩
  · exact congrArg (fun m => { s.lock with lock := m }) (h.governed ⟨s.gate, s.lock.lock⟩ governs)
  · exact h.tidy ⟨s.gate, s.lock.lock⟩ tidy

theorem lockCall_frame (id : LockId) (t : ThreadId) (call : LockCall) (p : Process σ) :
    CallFrame p (endState (lockCall id t call) p) := by
  cases id <;> simp only [lockCall]
  case runtimeLock =>
    refine Managed.frame ?_ (call.obeys_onRwLock _ t) p
    exact ⟨by decide, fun _ _ => rfl, fun _ _ => rfl, fun _ _ => rfl, fun _ h => h.1,
      fun _ _ _ h new => ⟨new, h.2, h.3, h.4⟩⟩
  case selLock =>
    refine Managed.frame ?_ (call.obeys_onRwLock _ t) p
    exact ⟨by decide, fun _ _ => rfl, fun _ _ => rfl, fun _ _ => rfl, fun _ h => h.2,
      fun _ _ _ h new => ⟨h.1, new, h.3, h.4⟩⟩
  case cacheUpdateLock =>
    refine Managed.frame ?_ (call.obeys_onMutex _ t) p
    exact ⟨by decide, fun _ _ => rfl, fun _ _ => rfl, fun _ _ => rfl, fun _ h => h.3,
      fun _ _ _ h new => ⟨h.1, h.2, new, h.4⟩⟩
  case headerLock =>
    refine Managed.frame ?_ (obeys_guarded (call.obeys_onMutex _ t)) p
    exact ⟨by decide, fun _ _ => rfl, fun _ _ => rfl, fun _ _ => rfl, fun _ h => h.4,
      fun _ _ _ h new => ⟨h.1, h.2, h.3, new⟩⟩
  case classLock =>
    refine Apart.frame ?_ (call.obeys_onMutex _ t).gate p
    exact ⟨fun _ _ => rfl, fun _ _ => rfl, fun _ _ => rfl⟩
  case methodListLock =>
    refine Apart.frame ?_ (call.obeys_onMutex _ t).gate p
    exact ⟨fun _ _ => rfl, fun _ _ => rfl, fun _ _ => rfl⟩
  case loadMethodLock =>
    refine Apart.frame ?_ (call.keepsGate_onRecursive _ t) p
    exact ⟨fun _ _ => rfl, fun _ _ => rfl, fun _ _ => rfl⟩
  case classInitLock =>
    refine Apart.frame ?_ (call.keepsGate_onMonitor _ t) p
    exact ⟨fun _ _ => rfl, fun _ _ => rfl, fun _ _ => rfl⟩
  case added name => exact ⟨.refl _, rfl, fun _ => rfl, fun h => h⟩

theorem asked_lockCall {id : LockId} (managed : id ∈ managedLocks) (t : ThreadId) {call : LockCall}
    (h : call.acquires) (p : Process σ) :
    ∃ need, (endState (lockCall id t call) p).gate = p.gate.asked id need := by
  simp only [managedLocks, List.mem_cons, List.not_mem_nil, or_false] at managed
  rcases managed with rfl | rfl | rfl | rfl <;> simp only [lockCall]
  · obtain ⟨need, asked⟩ := LockCall.asked_onRwLock t h
    refine ⟨need, (gate_onLock ?_ p).trans (asked _)⟩
    exact fun _ _ => rfl
  · obtain ⟨need, asked⟩ := LockCall.asked_onRwLock t h
    refine ⟨need, (gate_onLock ?_ p).trans (asked _)⟩
    exact fun _ _ => rfl
  · obtain ⟨need, asked⟩ := LockCall.asked_onMutex t h
    refine ⟨need, (gate_onLock ?_ p).trans (asked _)⟩
    exact fun _ _ => rfl
  · obtain ⟨need, asked⟩ := LockCall.asked_onMutex t h
    refine ⟨need, (gate_onLock ?_ p).trans ?_⟩
    · exact fun _ _ => rfl
    · rw [endState_guarded]
      exact asked _

end Session

end ImageLoader
