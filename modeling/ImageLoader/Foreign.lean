import ImageLoader.Debugger
import ImageLoader.Loader.Sync
import ImageLoader.ObjectWalk
/-! The entry points for C callers. Absent values are null, counts and sizes stop at the largest
32-bit number, and a fatal error has no caller to return to. -/

namespace ImageLoader.Foreign

variable {σ α : Type}

/-- A call across the boundary, which no fatal error can leave. -/
def entry (x : ProcessAct σ α) : ProcessAct σ α := fun p =>
  match x p with
  | .error (.fatal _) p => .error .aborted p
  | r => r

def largest32 : Nat := UInt32.size - 1

/-- A text from C, up to its NUL. -/
def textOf? (b : Bytes) : Option String := Bytes.text? (b.takeWhile (· ≠ 0))

/-- Where a section is, and what the caller's variable for its size, if there is one, holds afterwards. The
address is null and the variable is left alone where the image, a name or the section is missing, or a name
is not UTF-8. -/
def sectionData (t : ThreadId) (addr : UInt64) (segname sectname : Option Bytes)
    (size : Option UInt32) : ProcessAct σ (UInt64 × Option UInt32) := do
  match segname.bind textOf?, sectname.bind textOf? with
  | some segname, some sectname =>
    if addr = 0 then pure (0, size)
    else match ← Loader.sectionData? t addr segname sectname with
      | some e => pure (e.addr, size.map fun _ => UInt32.ofNat (min e.size.toNat largest32))
      | none => pure (0, size)
  | _, _ => pure (0, size)

def pathContaining? (t : ThreadId) (a : UInt64) : ProcessAct σ (Option String) :=
  Registry.findSome? t fun r => if r.image.contains a then some r.image.cPath else none

def nameOf? (t : ThreadId) (addr : UInt64) : ProcessAct σ (Option String) :=
  Registry.findSome? t fun r => if r.addr = addr then some r.image.cPath else none

def imageCount (t : ThreadId) : ProcessAct σ Nat := do pure (min (← Loader.imageCount t) largest32)

def stateCode : ImageState → Int
  | .bound => 0
  | .dependentsInitialized => 1

def state? (code : Int) : Option ImageState :=
  if code = 0 then some .bound else if code = 1 then some .dependentsInitialized else none

/-- Subscribes a state handler; an unknown state or a null handler is ignored with a warning. -/
def registerState (client : Client σ) (t : ThreadId) (code : Int) (batch : Bool)
    (handler : Option HandlerId) : ProcessAct σ Unit :=
  match state? code, handler with
  | some state, some handler => Loader.registerState client t ⟨state, batch, handler⟩
  | _, _ => Process.say .warn s!"objrt: ignoring state-change handler for state {code}"

def registerAdd (client : Client σ) (t : ThreadId) : Option HandlerId → ProcessAct σ Unit
  | some c => Loader.registerAdd client t c
  | none => pure ()

def registerRemove : Option HandlerId → ProcessAct σ Unit
  | some c => Loader.registerRemove c
  | none => pure ()

/-- Tells a debugger's user that a violation happened. -/
def announceFailure : ProcessAct σ Unit := do
  let mode := (← get).gate.mode
  if mode ≠ .off then Process.say .error s!"objrt: debugger mode failure in {mode.text} mode"

def isLoaded {ν : Type} [DecidableEq ν] (objects : ObjectList ν) (name : Option Bytes) :
    ProcessAct σ Bool := do
  match name with
  | none => pure false
  | some name =>
    let search := objects.search (name.takeWhile (· ≠ 0)) (← get).gate.config.walkLimit
    modify (Process.note search.warnings)
    pure search.found.isSome

/-- A pass over the host's objects after one was opened or closed. -/
def resync (client : Client σ) (t : ThreadId) (program : String) (objects : List Loader.Loaded) :
    ProcessAct σ Unit := do
  match ← Loader.sync client t program objects with
  | .ok _ => pure ()
  | .error e => Process.say .warn s!"objrt: {e.message}"

end ImageLoader.Foreign
