import ImageLoader.Debugger
import ImageLoader.Proofs.Loader.Compose
import ImageLoader.Proofs.Registry.Run
import ImageLoader.Proofs.Session.Calls
/-! What the threads of a process do, in any order: calls on its locks, requests to its registry and to
its loader whose handlers do such things in turn, starts and ends of debugger sessions, and whatever
touches no lock and no table of the gate. All of it comes down to single steps. -/

namespace ImageLoader

open Act

variable {σ β : Type}

namespace Session

/-- No lock has changed and no table of the gate. -/
structure Bystands (p q : Process σ) : Prop where
  gate : Gate.Agrees p.gate q.gate
  locks : q.locks = p.locks
  header : q.registry.lock = p.registry.lock
  taken : q.taken = p.taken

/-- One step; sessions may end only where `ends`. -/
inductive Step (ends : Bool) : Process σ → Process σ → Prop
  | lock (id : LockId) (t : ThreadId) (call : LockCall) (p : Process σ) :
    Step ends p (endState (Process.lockCall id t call) p)
  | other {p q : Process σ} : Bystands p q → Step ends p q
  | start (t : ThreadId) (p : Process σ) : Step ends p (Debugger.start t p).2
  | finish (p : Process σ) : ends → Step ends p (Debugger.finish p)

/-- Operations of any threads one after another. Those that stop count for what they did before. -/
inductive Trail (ends : Bool) : Process σ → Process σ → Prop
  | none (p : Process σ) : Trail ends p p
  | join {p q r : Process σ} : Trail ends p q → Trail ends q r → Trail ends p r
  | step {p q : Process σ} : Step ends p q → Trail ends p q
  | registry {β : Type} (t : ThreadId) (r : Registry.Request β) (p : Process σ) :
    Trail ends p (endState (Registry.serve t r) p)
  | loader (client : Client σ) (t : ThreadId) (r : Loader.Request) (p : Process σ) :
    (∀ call q, Trail ends q (endState (client call) q)) →
    Trail ends p (endState (Loader.serve client t r) p)

variable {ends : Bool}

theorem moves_modify_other {f : Process σ → Process σ} (h : ∀ p, Bystands p (f p)) :
    Moves (Step ends) (modify f : ProcessAct σ Unit) := moves_modify fun p => .other (h p)

theorem onRegistry_bind {α : Type} (x : LockAct (Guarded ImageList) α)
    (f : α → LockAct (Guarded ImageList) β) :
    (Process.onRegistry (x >>= f) : ProcessAct σ β) =
      Process.onRegistry x >>= fun a => Process.onRegistry (f a) := by
  funext p
  rw [bind_apply]
  unfold Process.onRegistry Process.onLock
  rw [bind_apply]
  cases x ⟨p.gate, p.registry⟩ with
  | ok a s => rfl
  | error e s => rfl

theorem discard_onLock {α γ : Type} (x : LockAct Mutex γ) :
    (discard (Guarded.onLock x) : LockAct (Guarded α) Unit) = Guarded.onLock (discard x) := by
  funext s
  rw [discard_apply]
  unfold Guarded.onLock Gated.focus
  rw [discard_apply]
  cases x ⟨s.gate, s.lock.lock⟩ <;> rfl

/-- An access is an acquisition, a look at the list that touches no lock, and a release. -/
theorem moves_access (t : ThreadId) (f : ImageList → β × ImageList) :
    Moves (Step ends) (Registry.access t f : ProcessAct σ β) := by
  have closed := closed_moves (ε := Stop) (Step (σ := σ) ends)
  unfold Registry.access Guarded.withValue
  rw [onRegistry_bind]
  refine closed.bind (fun p => .single (.lock .headerLock t (.acquire .write) p)) fun _ => ?_
  rw [onRegistry_bind]
  refine closed.bind (fun p => .single (.other ⟨.refl _, rfl, rfl, rfl⟩)) fun b => ?_
  rw [onRegistry_bind, discard_onLock]
  refine closed.bind (fun p => .single (.lock .headerLock t (.release .write) p)) fun _ => ?_
  exact fun p => .single (.other ⟨.refl _, rfl, rfl, rfl⟩)

theorem moves_registry (t : ThreadId) (r : Registry.Request β) :
    Moves (Step ends) (Registry.serve t r : ProcessAct σ (Registry.Answer β)) := by
  rw [Registry.serve_eq_access]
  exact moves_access t _

theorem moves_say (level : LogLevel) (text : String) :
    Moves (Step ends) (Process.say level text : ProcessAct σ Unit) :=
  moves_modify_other fun _ => ⟨.refl _, rfl, rfl, rfl⟩

theorem pieces_moves (t : ThreadId) :
    Loader.Pieces (fun act => Moves (Step (σ := σ) ends) act) t where
  closed := closed_moves _
  reads := Loader.reads_of_get (closed_moves _) (moves_get _)
  say := moves_say
  access := moves_access t
  revise _ := moves_modify_other fun _ => ⟨.refl _, rfl, rfl, rfl⟩

theorem Trail.path {p q : Process σ} (h : Trail ends p q) : Relation.ReflTransGen (Step ends) p q := by
  induction h with
  | none p => exact .refl
  | join _ _ before after => exact before.trans after
  | step h => exact .single h
  | registry t r p => exact moves_registry t r p
  | loader client t r p _ calls => exact (pieces_moves t).serve calls r p

theorem Trail.of_path {p q : Process σ} (h : Relation.ReflTransGen (Step ends) p q) :
    Trail ends p q := by
  induction h with
  | refl => exact .none p
  | tail _ h ih => exact ih.join (.step h)

end Session

end ImageLoader
