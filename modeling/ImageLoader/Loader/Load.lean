import ImageLoader.Registry
/-! Loading and unloading images, and telling the client. Images of a batch are registered first; then
the bound handlers run, each on the images still registered, and what they refuse is taken out again;
then the add callbacks run for what is left, and last the handlers for initialized dependents. Every
call may load and unload images itself.

There is no lock of the loader's own here. It would let a thread in again that holds it and keep the others
waiting, and no request is interrupted by another thread's. -/

namespace ImageLoader.Loader

variable {σ : Type}

def setKnown (addr : UInt64) (registered : Bool) : ProcessAct σ Unit :=
  modify fun p => { p with loader := { p.loader with known := p.loader.known.insert addr registered } }

def forget (addr : UInt64) : ProcessAct σ Unit :=
  modify fun p => { p with loader := { p.loader with known := p.loader.known.erase addr } }

def sayIfPrinting (text : String) : ProcessAct σ Unit := do
  if (← get).gate.config.printImages then Process.say .info text

def loadingText (r : ImageRecord) : String :=
  let mark := if r.isBundle then " (bundle)" else ""
  s!"objrt: IMAGES: loading image for {r.name}{mark}"

/-- Registers an image not seen before that carries metadata. -/
def enrol (t : ThreadId) (image : Image) : ProcessAct σ (MapOutcome × List ImageRecord) := do
  match (← get).loader.known.get? image.addr with
  | some true => pure (.alreadyMapped, [])
  | some false => pure (.noMetadata, [])
  | none =>
    if image.hasMetadata then
      let r : ImageRecord := .new image
      sayIfPrinting (loadingText r)
      setKnown image.addr true
      Registry.append t r
      pure (.mapped, [r])
    else
      setKnown image.addr false
      pure (.noMetadata, [])

def enrolAll (t : ThreadId) : List Image → ProcessAct σ (List MapOutcome × List ImageRecord)
  | [] => pure ([], [])
  | i :: rest => do
    let (outcome, new) ← enrol t i
    let (outcomes, batch) ← enrolAll t rest
    pure (outcome :: outcomes, new ++ batch)

def live (t : ThreadId) : List ImageRecord → ProcessAct σ (List ImageRecord)
  | [] => pure []
  | r :: rest => do
    let here ← Registry.contains t r.addr
    let rest ← live t rest
    pure (if here then r :: rest else rest)

/-- One call per image; every image is asked about, whatever the answers before. -/
def askEach (client : Client σ) (h : StateRegistration) :
    List ImageRecord → ProcessAct σ (List Rejection)
  | [] => pure []
  | r :: rest => do
    let answer ← client (.state h.handler h.state [r])
    let rejections ← askEach client h rest
    pure ((answer.map (Rejection.of r)).toList ++ rejections)

/-- Asks a state handler; a batch handler's reason is for every image it was given. -/
def ask (client : Client σ) (h : StateRegistration) (images : List ImageRecord) :
    ProcessAct σ (List Rejection) := do
  if h.batch then
    match ← client (.state h.handler h.state images) with
    | some reason => pure (images.map (Rejection.of · reason))
    | none => pure []
  else askEach client h images

/-- Takes refused images out; they stay known. -/
def reject (t : ThreadId) : List Rejection → ProcessAct σ Unit
  | [] => pure ()
  | r :: rest => do
    Process.say .warn s!"objrt: image {r.path} rejected: {r.reason}"
    discard (Registry.remove t r.addr)
    setKnown r.addr false
    reject t rest

/-- The bound handlers in order, with the first rejection so far. -/
def runBound (client : Client σ) (t : ThreadId) (batch : List ImageRecord) :
    List StateRegistration → Option Rejection → ProcessAct σ (Option Rejection)
  | [], refused => pure refused
  | h :: rest, refused => do
    let images ← live t batch
    if images.isEmpty then pure refused
    else
      let rejections ← ask client h images
      reject t rejections
      runBound client t batch rest (refused <|> rejections.head?)

def callAdd (client : Client σ) (image : Image) : List HandlerId → ProcessAct σ Unit
  | [] => pure ()
  | c :: rest => do
    discard (client (.add c image))
    callAdd client image rest

def callAddEach (client : Client σ) (callbacks : List HandlerId) :
    List ImageRecord → ProcessAct σ Unit
  | [] => pure ()
  | r :: rest => do
    callAdd client r.image callbacks
    callAddEach client callbacks rest

def callRemove (client : Client σ) (image : Image) : List HandlerId → ProcessAct σ Unit
  | [] => pure ()
  | c :: rest => do
    discard (client (.remove c image))
    callRemove client image rest

def sayLate : List Rejection → ProcessAct σ Unit
  | [] => pure ()
  | r :: rest => do
    Process.say .warn s!"objrt: ignoring late rejection of {r.path}: {r.reason}"
    sayLate rest

/-- The handlers for initialized dependents in order; it is too late to refuse. -/
def runDependents (client : Client σ) (batch : List ImageRecord) :
    List StateRegistration → ProcessAct σ Unit
  | [] => pure ()
  | h :: rest => do
    sayLate (← ask client h batch)
    runDependents client batch rest

def announce (client : Client σ) (t : ThreadId) (batch : List ImageRecord) :
    ProcessAct σ (Option Rejection) := do
  let refused ← runBound client t batch ((← get).loader.handlersOf .bound) none
  let batch ← live t batch
  callAddEach client (← get).loader.addCallbacks batch
  if batch.isEmpty then pure refused
  else
    runDependents client batch ((← get).loader.handlersOf .dependentsInitialized)
    pure refused

/-- Maps a batch of images. A refused image is taken out and the rest goes on; the answer is then the
first rejection, else the outcome of each image. -/
def mapImages (client : Client σ) (t : ThreadId) (images : List Image) :
    ProcessAct σ (Except LoaderError (List MapOutcome)) := do
  let (outcomes, batch) ← enrolAll t images
  if batch.isEmpty then pure (.ok outcomes)
  else
    match ← announce client t batch with
    | some r => pure (.error r.error)
    | none => pure (.ok outcomes)

def mapImage (client : Client σ) (t : ThreadId) (image : Image) :
    ProcessAct σ (Except LoaderError MapOutcome) := do
  match ← mapImages client t [image] with
  | .ok outcomes => pure (.ok (outcomes.headD .alreadyMapped))
  | .error e => pure (.error e)

/-- Unmaps the image at `addr`. It is forgotten before the remove callbacks run, and leaves the
registry after them. -/
def unmapImage (client : Client σ) (t : ThreadId) (addr : UInt64) :
    ProcessAct σ (Option ImageRecord) := do
  let registered := (← get).loader.known.get? addr
  forget addr
  if registered = some true then
    match ← Registry.find? t addr with
    | none => pure none
    | some r =>
      callRemove client r.image (← get).loader.removeCallbacks
      sayIfPrinting s!"objrt: IMAGES: unloading image for {r.name}"
      Registry.remove t addr
  else pure none

def sayAlreadyLoaded : List Rejection → ProcessAct σ Unit
  | [] => pure ()
  | r :: rest => do
    Process.say .warn s!"objrt: handler rejected already-loaded image {r.path} ({r.reason})"
    sayAlreadyLoaded rest

/-- Subscribes a state handler, and calls it at once for the images already registered. -/
def registerState (client : Client σ) (t : ThreadId) (h : StateRegistration) :
    ProcessAct σ Unit := do
  modify fun p =>
    { p with loader := { p.loader with stateHandlers := p.loader.stateHandlers ++ [h] } }
  let existing ← Registry.snapshot t
  if existing.isEmpty then pure ()
  else sayAlreadyLoaded (← ask client h existing)

/-- Subscribes an add callback, and calls it at once for the images already registered. -/
def registerAdd (client : Client σ) (t : ThreadId) (c : HandlerId) : ProcessAct σ Unit := do
  modify fun p => { p with loader := { p.loader with addCallbacks := p.loader.addCallbacks ++ [c] } }
  callAddEach client [c] (← Registry.snapshot t)

def registerRemove (c : HandlerId) : ProcessAct σ Unit :=
  modify fun p =>
    { p with loader := { p.loader with removeCallbacks := p.loader.removeCallbacks ++ [c] } }

def isKnown (p : Process σ) (addr : UInt64) : Bool := (p.loader.known.get? addr).isSome

def sectionData? (t : ThreadId) (addr : UInt64) (segname sectname : String) :
    ProcessAct σ (Option Extent) := do
  let found ← Registry.findSome? t fun r =>
    if r.addr = addr then some (r.image.sectionData? segname sectname) else none
  pure found.join

def pathContaining? (t : ThreadId) (a : UInt64) : ProcessAct σ (Option String) :=
  Registry.pathContaining? t a

def nameOf? (t : ThreadId) (addr : UInt64) : ProcessAct σ (Option String) :=
  Registry.findSome? t fun r => if r.addr = addr then some r.name else none

def imageCount (t : ThreadId) : ProcessAct σ Nat := Registry.count t

end ImageLoader.Loader
