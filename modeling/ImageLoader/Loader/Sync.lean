import ImageLoader.HostObject
import ImageLoader.Loader.Load
/-! Bringing the loader in line with what the host has loaded: known images that are gone are
unmapped, and new objects are mapped as one batch. -/

namespace ImageLoader.Loader

variable {σ : Type}

structure SyncReport where
  mapped : Nat := 0
  /-- New objects without metadata. -/
  ignored : Nat := 0
  unmapped : Nat := 0
  unreadable : List String := []
  deriving DecidableEq, Repr

namespace SyncReport

def count (r : SyncReport) : MapOutcome → SyncReport
  | .mapped => { r with mapped := r.mapped + 1 }
  | .noMetadata => { r with ignored := r.ignored + 1 }
  | .alreadyMapped => r

end SyncReport

/-- Unmaps those of the addresses that are not `live`; counts the images that were registered. -/
def unmapGone (client : Client σ) (t : ThreadId) (live : List UInt64) :
    List UInt64 → ProcessAct σ Nat
  | [] => pure 0
  | a :: rest => do
    if a ∈ live then unmapGone client t live rest
    else
      let record ← unmapImage client t a
      let count ← unmapGone client t live rest
      pure (if record.isSome then count + 1 else count)

/-- An object of the host with the contents of its file, where it can be read. -/
structure Loaded where
  object : HostObject
  contents : Option Bytes

def describeAll (program : String) : List Loaded → List Image × List String
  | [] => ([], [])
  | o :: rest =>
    let (images, unreadable) := describeAll program rest
    match o.object.describe program o.contents with
    | .ok image => (image :: images, unreadable)
    | .error _ => (images, o.object.name :: unreadable)

/-- One pass over the objects of the host, in which the known addresses are enumerated in this order. The
error is that of the mapping, after the whole pass. -/
def syncOver (client : Client σ) (t : ThreadId) (program : String) (objects : List Loaded)
    (enumerated : List UInt64) : ProcessAct σ (Except LoaderError SyncReport) := do
  let p ← get
  let (batch, unreadable) :=
    describeAll program (objects.filter fun o => !isKnown p o.object.header)
  let unmapped ← unmapGone client t (objects.map (·.object.header)) enumerated
  let mapped ← if batch.isEmpty then pure (.ok []) else mapImages client t batch
  pure (mapped.map fun outcomes => outcomes.foldl SyncReport.count { unmapped, unreadable })

def sync (client : Client σ) (t : ThreadId) (program : String) (objects : List Loaded) :
    ProcessAct σ (Except LoaderError SyncReport) := do
  syncOver client t program objects (← get).loader.known.keys

end ImageLoader.Loader
