import ImageLoader.Gate
/-! Lock operations through the gate. A kind of lock gives the native halves, `take` and `release` on
its state; what the gate adds is the same for all kinds. -/

namespace ImageLoader

structure Gated (L : Type) where
  gate : Gate
  lock : L

abbrev LockAct (L : Type) := EStateM Stop (Gated L)

namespace Gated

variable {L M : Type}

/-- Acquires, and stops the run where the caller would have to wait. -/
def blocking (id : LockId) (need : Hold) (take : L → Option L) : LockAct L Unit := fun s =>
  match Gate.acquire id need s.gate with
  | .ok .native g =>
    match take s.lock with
    | some l => .ok () ⟨g, l⟩
    | none => .error (.blocked id) ⟨g, s.lock⟩
  | .ok .bypass g => .ok () ⟨g, s.lock⟩
  | .error e g => .error e ⟨g, s.lock⟩

/-- Acquires without waiting; a bypassed acquisition succeeds. -/
def trying (id : LockId) (need : Hold) (take : L → Option L) : LockAct L Bool := fun s =>
  match Gate.acquire id need s.gate with
  | .ok .native g =>
    match take s.lock with
    | some l => .ok true ⟨g, l⟩
    | none => .ok false ⟨g, s.lock⟩
  | .ok .bypass g => .ok true ⟨g, s.lock⟩
  | .error e g => .error e ⟨g, s.lock⟩

/-- Releases, unless `release` refuses the caller; a skipped release succeeds. -/
def releasing (id : LockId) (kind : LockKind) (release : L → Option L) :
    LockAct L (Except LockError Unit) := fun s =>
  match Gate.release id s.gate with
  | (.skip, g) => .ok (.ok ()) ⟨g, s.lock⟩
  | (.native, g) =>
    match release s.lock with
    | some l => .ok (.ok ()) ⟨g, l⟩
    | none => .ok (.error (.notOwner kind id.name)) ⟨g, s.lock⟩

/-- Fatal where the lock is not as `expected`, if assertions are checked. -/
def asserting (expected : L → Bool) (e : FatalError) : LockAct L Unit := fun s =>
  if s.gate.config.lockAssertions && !expected s.lock then .error (.fatal e) s else .ok () s

def reading (f : L → M) : LockAct L M := fun s => .ok (f s.lock) s

def focus {α : Type} (get : L → M) (set : L → M → L) (x : LockAct M α) : LockAct L α := fun s =>
  match x ⟨s.gate, get s.lock⟩ with
  | .ok a u => .ok a ⟨u.gate, set s.lock u.lock⟩
  | .error e u => .error e ⟨u.gate, set s.lock u.lock⟩

end Gated

end ImageLoader
