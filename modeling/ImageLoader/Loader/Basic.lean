import ImageLoader.Table
import ImageLoader.Image.Record
import ImageLoader.Loader.Error
/-! The tables of the loader: which addresses it has seen, and whom it tells about images. Handlers
and callbacks are known by number; what they do is the client's. -/

namespace ImageLoader

inductive ImageState
  /-- The image is mapped and its symbols are bound. -/
  | bound
  /-- The initializers of what the image depends on have run. -/
  | dependentsInitialized
  deriving DecidableEq, Repr

def ImageState.text : ImageState → String
  | .bound => "bound"
  | .dependentsInitialized => "dependents-initialized"

abbrev HandlerId := Nat

/-- A batch handler gets all images of a batch in one call, another handler one image per call. -/
structure StateRegistration where
  state : ImageState
  batch : Bool
  handler : HandlerId
  deriving DecidableEq, Repr

structure Loader where
  /-- Every address seen and not unmapped since, and whether its image is registered. -/
  known : Table UInt64 Bool := {}
  stateHandlers : List StateRegistration := []
  addCallbacks : List HandlerId := []
  removeCallbacks : List HandlerId := []

inductive MapOutcome
  | mapped
  | alreadyMapped
  | noMetadata
  deriving DecidableEq, Repr

def MapOutcome.label : MapOutcome → String
  | .mapped => "Mapped"
  | .alreadyMapped => "AlreadyMapped"
  | .noMetadata => "NoMetadata"

inductive Call
  | state (handler : HandlerId) (state : ImageState) (images : List ImageRecord)
  | add (callback : HandlerId) (image : Image)
  | remove (callback : HandlerId) (image : Image)
  deriving DecidableEq, Repr

/-- An image that a handler refused. -/
structure Rejection where
  addr : UInt64
  path : String
  reason : String
  deriving DecidableEq, Repr

namespace Rejection

def of (r : ImageRecord) (reason : String) : Rejection := ⟨r.addr, r.name, reason⟩

def error (r : Rejection) : LoaderError := .rejected r.path r.reason

end Rejection

def Loader.handlersOf (l : Loader) (state : ImageState) : List StateRegistration :=
  l.stateHandlers.filter (·.state = state)

end ImageLoader
