import ImageLoader.Loader.Load
import ImageLoader.Proofs.Act
/-! Handlers that call the loader themselves. What a handler does is a program: it looks at the process,
does what is not the loader's and makes requests, and its answer may depend on all of it. A request to
the loader calls handlers, whose requests call handlers again; a run that finishes has nested its calls
to some depth, and every depth is allowed. -/

namespace ImageLoader.Loader

variable {σ : Type}

inductive Request
  | map (images : List Image)
  | mapOne (image : Image)
  | unmap (addr : UInt64)
  | onState (h : StateRegistration)
  | onAdd (c : HandlerId)
  | onRemove (c : HandlerId)

namespace Request

abbrev Reply : Request → Type
  | .map _ => Except LoaderError (List MapOutcome)
  | .mapOne _ => Except LoaderError MapOutcome
  | .unmap _ => Option ImageRecord
  | .onState _ => Unit
  | .onAdd _ => Unit
  | .onRemove _ => Unit

def isMap : Request → Bool
  | .map _ => true
  | .mapOne _ => true
  | _ => false

end Request

def serve (client : Client σ) (t : ThreadId) : (r : Request) → ProcessAct σ r.Reply
  | .map images => mapImages client t images
  | .mapOne image => mapImage client t image
  | .unmap addr => unmapImage client t addr
  | .onState h => registerState client t h
  | .onAdd c => registerAdd client t c
  | .onRemove c => registerRemove c

structure SameTables (p q : Process σ) : Prop where
  images : q.registry.value = p.registry.value
  loader : q.loader = p.loader

inductive Deed (σ : Type)
  | answer (reason : Option String)
  | look (next : Process σ → Deed σ)
  | change (f : Process σ → Process σ) (next : Deed σ)
  | request (r : Request) (next : r.Reply → Deed σ)

namespace Deed

def run (serve : (r : Request) → ProcessAct σ r.Reply) : Deed σ → ProcessAct σ (Option String)
  | .answer reason => pure reason
  | .look next => do (next (← get)).run serve
  | .change f next => do
    modify f
    next.run serve
  | .request r next => do (next (← serve r)).run serve

/-- Every request that the program can make is allowed, and it changes the images and the loader's
tables by requests only. -/
def Only (allowed : Request → Bool) : Deed σ → Prop
  | .answer _ => True
  | .look next => ∀ p, (next p).Only allowed
  | .change f next => (∀ p, SameTables p (f p)) ∧ next.Only allowed
  | .request r next => allowed r ∧ ∀ a, (next a).Only allowed

theorem Only.mono {allowed allowed' : Request → Bool} (weaker : ∀ r, allowed r → allowed' r) {d : Deed σ}
    (hd : d.Only allowed) : d.Only allowed' := by
  induction d with
  | answer reason => exact hd
  | look next ih => exact fun p => ih p (hd p)
  | change f next ih => exact ⟨hd.1, ih hd.2⟩
  | request r next ih => exact ⟨weaker r hd.1, fun a => ih a (hd.2 a)⟩

end Deed

/-- The client whose handlers do `body`, nesting calls at most `depth` deep; a deeper call is not
answered. -/
def reentrant (body : Call → Deed σ) (t : ThreadId) : (depth : Nat) → Client σ
  | 0 => fun _ => throw .aborted
  | depth + 1 => fun call => (body call).run (serve (reentrant body t depth) t)

theorem Deed.keeps_run {I : Process σ → Prop} {allowed : Request → Bool}
    {serve : (r : Request) → ProcessAct σ r.Reply}
    (same : ∀ {p q}, I p → SameTables p q → I q)
    (requests : ∀ r : Request, allowed r → Act.Keeps I (serve r)) (d : Deed σ) (only : d.Only allowed) :
    Act.Keeps I (d.run serve) := by
  have closed := Act.closed_keeps (ε := Stop) I
  induction d with
  | answer reason => exact closed.pure _
  | look next ih => exact closed.bind (Act.keeps_get _) fun p => ih p (only p)
  | change f next ih =>
    exact closed.bind (Act.keeps_modify fun p hp => same hp (only.1 p)) fun _ => ih only.2
  | request r next ih => exact closed.bind (requests r only.1) fun a => ih a (only.2 a)

/-- Calls keep what requests keep whose own calls keep it, at every depth of nesting. What is kept may
depend on where in a request the call is made. -/
theorem keeps_reentrant {ι : Type} {I : ι → Process σ → Prop} {allowed : Request → Bool}
    {body : Call → Deed σ} (only : ∀ call, (body call).Only allowed)
    (same : ∀ {i p q}, I i p → SameTables p q → I i q) (t : ThreadId)
    (requests : ∀ client : Client σ, (∀ i call, Act.Keeps (I i) (client call)) →
      ∀ i r, allowed r → Act.Keeps (I i) (serve client t r))
    (depth : Nat) (i : ι) (call : Call) : Act.Keeps (I i) (reentrant body t depth call) := by
  induction depth generalizing i call with
  | zero =>
    intro p hp a q h
    cases h
  | succ depth ih => exact Deed.keeps_run same (requests _ ih i) _ (only call)

/-- What comes of `start` by requests that finish, and by what other parts of the process do between
them. -/
inductive Run (body : Call → Deed σ) (start : Process σ) : Process σ → Prop
  | start : Run body start start
  | request {p q : Process σ} (t : ThreadId) (depth : Nat) (r : Request) (a : r.Reply) :
    Run body start p → serve (reentrant body t depth) t r p = .ok a q → Run body start q
  | other {p q : Process σ} : Run body start p → SameTables p q → Run body start q

theorem Run.next {body : Call → Deed σ} {start p : Process σ} (run : Run body start p) (t : ThreadId)
    (depth : Nat) (r : Request) (h : Act.finishes (serve (reentrant body t depth) t r) p) :
    Run body start (Act.endState (serve (reentrant body t depth) t r) p) :=
  have ⟨a, served⟩ := Act.exists_ok h
  .request t depth r a run served

end ImageLoader.Loader
