import ImageLoader.Proofs.Loader.Compose
import ImageLoader.Proofs.Registry.Run
/-! What can be asked of the registry and the loader of a process, and handlers that ask it while they are
called. A handler goes by the call that it gets, by what it remembers and by the replies to what it asks,
and by nothing else. -/

namespace ImageLoader.Loader

open Act

variable {σ β κ : Type}

inductive Operation (β : Type)
  | registry (r : Registry.Request β)
  | load (r : Request)
  | isKnown (addr : UInt64)
  | knownImages
  | sectionData (addr : UInt64) (segname sectname : String)
  | pathContaining (a : UInt64)
  | nameOf (addr : UInt64)
  | imageCount

abbrev Operation.Reply : Operation β → Type
  | .registry _ => Registry.Answer β
  | .load r => r.Reply
  | .isKnown _ => Bool
  | .knownImages => List UInt64
  | .sectionData _ _ _ => Option Extent
  | .pathContaining _ => Option String
  | .nameOf _ => Option String
  | .imageCount => Nat

/-- An order to go through the known addresses in, settled by the table that they are kept in. -/
structure Enumeration where
  list : Table UInt64 Bool → List UInt64
  perm : ∀ known, (list known).Perm known.keys

def Enumeration.newestFirst : Enumeration := ⟨Table.keys, fun _ => .refl _⟩

def perform (order : Enumeration) (client : Client σ) (t : ThreadId) :
    (op : Operation β) → ProcessAct σ op.Reply
  | .registry r => Registry.serve t r
  | .load r => serve client t r
  | .isKnown addr => do pure (isKnown (← get) addr)
  | .knownImages => do pure (order.list (← get).loader.known)
  | .sectionData addr segname sectname => sectionData? t addr segname sectname
  | .pathContaining a => pathContaining? t a
  | .nameOf addr => nameOf? t addr
  | .imageCount => imageCount t

/-- What a handler does: it answers, reads or changes what it remembers, or asks something. -/
inductive Handler (β κ : Type)
  | answer (reason : Option String)
  | recollect (next : κ → Handler β κ)
  | remember (k : κ) (next : Handler β κ)
  | ask (op : Operation β) (next : op.Reply → Handler β κ)

structure Memory (κ : Type) where
  calls : List Call := []
  own : κ

def Process.memorize (f : Memory κ → Memory κ) : ProcessAct (Memory κ) Unit :=
  modify fun p => { p with client := f p.client }

namespace Handler

def run (perform : (op : Operation β) → ProcessAct (Memory κ) op.Reply) :
    Handler β κ → ProcessAct (Memory κ) (Option String)
  | .answer reason => pure reason
  | .recollect next => do (next (← get).client.own).run perform
  | .remember k next => do
    Process.memorize fun m => { m with own := k }
    next.run perform
  | .ask op next => do (next (← perform op)).run perform

/-- The client whose handlers do `body`, nesting calls at most `depth` deep; a deeper call is not
answered. -/
def client (order : Enumeration) (body : Call → Handler β κ) (t : ThreadId) :
    (depth : Nat) → Client (Memory κ)
  | 0 => fun _ => throw .aborted
  | depth + 1 => fun call => do
    Process.memorize fun m => { m with calls := m.calls ++ [call] }
    (body call).run (perform order (client order body t depth) t)

end Handler

namespace Pieces

variable {P : ∀ {α : Type}, ProcessAct σ α → Prop} {t : ThreadId} {client : Client σ}

theorem inspect (h : Pieces P t) (f : ImageList → β) : P (Registry.inspect t f) := h.access _

theorem perform (h : Pieces P t) (order : Enumeration) (hc : ∀ call, P (client call))
    (op : Operation β) : P (perform order client t op) := by
  cases op with
  | registry r =>
    change P (Registry.serve t r)
    rw [Registry.serve_eq_access]
    exact h.access r.onImages
  | load r => exact h.serve hc r
  | isKnown addr =>
    refine h.reads (fun p q _ loader => ?_) fun p => h.closed.pure _
    rw [Loader.isKnown, Loader.isKnown, loader]
  | knownImages => exact h.reads (fun p q _ loader => by rw [loader]) fun p => h.closed.pure _
  | sectionData addr segname sectname => exact h.closed.bind (h.inspect _) fun _ => h.closed.pure _
  | pathContaining a => exact h.inspect _
  | nameOf addr => exact h.inspect _
  | imageCount => exact h.inspect _

end Pieces

/-- The property holds of the calls of handlers, at every depth of nesting. -/
theorem Pieces.client {P : ∀ {α : Type}, ProcessAct (Memory κ) α → Prop} {t : ThreadId}
    (h : Pieces P t) (aborts : P (throw .aborted : ProcessAct (Memory κ) (Option String)))
    (recollects : ∀ next : κ → ProcessAct (Memory κ) (Option String), (∀ k, P (next k)) →
      P (get >>= fun p => next p.client.own))
    (memorizes : ∀ f, P (Process.memorize f)) (order : Enumeration) (body : Call → Handler β κ)
    (depth : Nat) (call : Call) : P (Handler.client order body t depth call) := by
  induction depth generalizing call with
  | zero => exact aborts
  | succ depth ih =>
    refine h.closed.bind (memorizes _) fun _ => ?_
    induction body call with
    | answer reason => exact h.closed.pure _
    | recollect next run => exact recollects _ run
    | remember k next run => exact h.closed.bind (memorizes _) fun _ => run
    | ask op next run => exact h.closed.bind (h.perform order ih op) run

end ImageLoader.Loader
