import ImageLoader.Process
/-! Debugger sessions. Starting one takes the managed locks that are free, past the gate and without
waiting: the runtime and cache locks are required, the others decide between a full and a partial
session. Ending it frees what was taken, on whatever thread that happens. -/

namespace ImageLoader

/-- Takes the lock for writing, or else for reading. -/
def RwLock.grab? (t : ThreadId) (l : RwLock) : Option (RwMode × RwLock) :=
  match l.take? t .write with
  | some l => some (.write, l)
  | none => (l.take? t .read).map (.read, ·)

namespace Taken

def id : Taken → LockId
  | .runtimeLock _ => .runtimeLock
  | .cacheUpdateLock => .cacheUpdateLock
  | .selLock _ => .selLock
  | .headerLock => .headerLock

def hold : Taken → Hold
  | .runtimeLock mode => .ofMode mode
  | .selLock mode => .ofMode mode
  | .cacheUpdateLock => .exclusive
  | .headerLock => .exclusive

end Taken

namespace Debugger

variable {σ : Type}

def markTaken (taken : List Taken) (g : Gate) : Gate :=
  taken.foldl (fun g k => g.markHeld k.id k.hold) g

def enterMode (mode : DebuggerMode) (p : Process σ) : Process σ :=
  let (gate, lines) := p.gate.setMode mode
  { p with gate }.note lines

def refuse (busy : LockId) (p : Process σ) : Process σ :=
  if p.gate.config.printDebuggerMode then
    p.note [⟨.info, s!"objrt: debugger mode refused, {busy.name} is busy"⟩]
  else p

/-- Starts a session and tells its mode; a session that runs goes on. -/
def start (t : ThreadId) (p : Process σ) : DebuggerMode × Process σ :=
  if p.gate.mode ≠ .off then (p.gate.mode, p)
  else match p.locks.runtimeLock.grab? t with
    | none => (.off, refuse .runtimeLock p)
    | some (runtimeMode, runtimeLock) =>
      match p.locks.cacheUpdateLock.take? t with
      | none =>
        (.off, refuse .cacheUpdateLock
          { p with locks := { p.locks with runtimeLock := runtimeLock.free } })
      | some cacheUpdateLock =>
        let sel := p.locks.selLock.grab? t
        let header := p.registry.lock.take? t
        let taken := [.runtimeLock runtimeMode, .cacheUpdateLock] ++
          (sel.map fun s => Taken.selLock s.1).toList ++ (header.map fun _ => Taken.headerLock).toList
        let mode :=
          if runtimeMode = .write && sel.any (·.1 = .write) && header.isSome then .full else .partly
        let selLock := (sel.map (·.2)).getD p.locks.selLock
        (mode, enterMode mode
          { p with
            gate := markTaken taken p.gate
            locks := { p.locks with runtimeLock, cacheUpdateLock, selLock }
            registry := { p.registry with lock := header.getD p.registry.lock }
            taken })

def freeTaken (p : Process σ) : Taken → Process σ
  | .runtimeLock _ => { p with locks := { p.locks with runtimeLock := p.locks.runtimeLock.free } }
  | .cacheUpdateLock =>
    { p with locks := { p.locks with cacheUpdateLock := p.locks.cacheUpdateLock.free } }
  | .selLock _ => { p with locks := { p.locks with selLock := p.locks.selLock.free } }
  | .headerLock => { p with registry := { p.registry with lock := p.registry.lock.free } }

/-- Ends the session, if one runs. The mode is off before the locks are freed. -/
def finish (p : Process σ) : Process σ :=
  if p.gate.mode = .off then p
  else
    let p := enterMode .off p
    let p := p.taken.reverse.foldl freeTaken p
    { p with taken := [], gate := p.gate.clearHeld }

/-- Whether some thread holds a lock that guards what a debugger reads. -/
def isRuntimeLocked (p : Process σ) : Bool :=
  p.locks.runtimeLock.isLocked || p.locks.methodListLock.isLocked || p.locks.classLock.isLocked ||
    p.locks.cacheUpdateLock.isLocked

end Debugger

end ImageLoader
