import ImageLoader.Foreign
import ImageLoader.Scenario.LockStep
import ImageLoader.Scenario.Scene
/-! Performing a step. A step that would have to wait is not started. Handlers perform steps too; since
a rule with steps fires once, calls are nested no deeper than there are such rules. -/

namespace ImageLoader.Scenario

def gateStep (id : LockId) : GateOp → SceneAct Reply
  | .manage => onGate do modify (·.manage id); pure .done
  | .isManaged => onGate do pure (.flag ((← get).isManaged id))
  | .markHeld hold => onGate do modify (·.markHeld id hold); pure .done
  | .held => onGate do pure (.ofText (((← get).held.get? id).map (·.label)))
  | .acquire need => onGate do pure (.text (← Gate.acquire id need).label)
  | .release => onGate do pure (.text (← modifyGet (Gate.release id)).label)

def heldTexts (g : Gate) : List String :=
  (g.held.entries.map fun e => s!"{e.1.name}:{e.2.label}").mergeSort

def describePart (p : Process Scene) : Part → String
  | .gate => p.gate.describe
  | .loader => p.loader.describe
  | .registry => p.describeRegistry
  | .process => p.describe

def processStep (t : ThreadId) : ProcessOp → SceneAct Reply
  | .setMode mode => do modify (Debugger.enterMode mode); pure .done
  | .clearHeld => onGate do
    let texts := heldTexts (← get)
    modify (·.clearHeld)
    pure (.texts texts)
  | .setHook hook => onGate do modify ({ · with hook }); pure .done
  | .resetCounters => onGate do modify (·.resetCounters); pure .done
  | .config => do pure (.config (← get).gate.config)
  | .describe part => do pure (.text (describePart (← get) part))
  | .startDebugger => do pure (.text (← modifyGet (Debugger.start t)).text)
  | .endDebugger => do modify Debugger.finish; pure .done
  | .debuggerMode => do pure (.text (← get).gate.mode.text)
  | .isRuntimeLocked => do pure (.flag (Debugger.isRuntimeLocked (← get)))

def registryStep (t : ThreadId) : RegistryOp → SceneAct Reply
  | .append image => do
    match ← takeImages [image] with
    | .ok images =>
      images.forM fun i => Registry.append t (.new i)
      pure .done
    | .error e => pure (.loaderError e)
  | .remove addr => .ofRecord <$> Registry.remove t addr
  | .find addr => .ofRecord <$> Registry.find? t addr
  | .contains addr => .flag <$> Registry.contains t addr
  | .setRealized addr value => .flag <$> Registry.setRealized t addr value
  | .pathContaining addr => .ofText <$> Registry.pathContaining? t addr
  | .first => .ofRecord <$> Registry.first? t
  | .last => .ofRecord <$> Registry.last? t
  | .count => (.number ·) <$> Registry.count t
  | .isEmpty => .flag <$> Registry.isEmpty t
  | .list => .records <$> Registry.snapshot t

def mapStep (client : Client Scene) (t : ThreadId) (images : List Image) : SceneAct Reply := do
  match ← Loader.mapImages client t images with
  | .ok outcomes => pure (.texts (outcomes.map (·.label)))
  | .error e => pure (.loaderError e)

def mapOneStep (client : Client Scene) (t : ThreadId) (image : Image) : SceneAct Reply := do
  match ← Loader.mapImage client t image with
  | .ok outcome => pure (.text outcome.label)
  | .error e => pure (.loaderError e)

def loaderStep (client : Client Scene) (t : ThreadId) : LoaderOp → SceneAct Reply
  | .map images => do
    match ← takeImages images with
    | .ok images => mapStep client t images
    | .error e => pure (.loaderError e)
  | .mapOne image => do
    match ← takeImages [image] with
    | .ok [image] => mapOneStep client t image
    | .ok _ => pure .unsupported
    | .error e => pure (.loaderError e)
  | .unmap addr => .ofRecord <$> Loader.unmapImage client t addr
  | .sectionData addr segname sectname =>
    .ofExtent <$> Loader.sectionData? t addr segname sectname
  | .pathContaining addr => .ofText <$> Loader.pathContaining? t addr
  | .nameOf addr => .ofText <$> Loader.nameOf? t addr
  | .isKnown addr => do pure (.flag (Loader.isKnown (← get) addr))
  | .imageCount => (.number ·) <$> Loader.imageCount t
  | .knownCount => do pure (.number (← get).loader.known.size)
  | .sharesRegistry => pure (.flag true)

/-- The objects of the host: the program alone, which has no name. -/
def hostObjects : ObjectList Unit := ⟨some (), fun _ => none, fun _ => some []⟩

/-- Opening and closing an object, each with a pass over the host's objects. Only the program can be
opened; no name means it, and so does an empty one. -/
def openObject (client : Client Scene) (t : ThreadId) (name : Option Bytes) : SceneAct Reply := do
  if (name.getD []).takeWhile (· ≠ 0) = [] then
    Foreign.resync client t "" []
    Foreign.resync client t "" []
    pure (.number 0)
  else pure .absent

/-- What a caller's variable holds before the call. -/
def untouched : UInt32 := 0xdeadbeef

def foreignStep (client : Client Scene) (t : ThreadId) : ForeignOp → SceneAct Reply
  | .sectionData addr segname sectname wantsSize => do
    let size := if wantsSize then some untouched else none
    let (found, size) ← Foreign.sectionData t addr segname sectname size
    pure (.location found size)
  | .pathContaining addr => .ofText <$> Foreign.pathContaining? t addr
  | .nameOf addr => .ofText <$> Foreign.nameOf? t addr
  | .imageCount => (.number ·) <$> Foreign.imageCount t
  | .startDebugger => do pure (.number (← modifyGet (Debugger.start t)).level)
  | .debuggerMode => do pure (.number (← get).gate.mode.level)
  | .endDebugger => do modify Debugger.finish; pure .done
  | .isRuntimeLocked => do pure (.flag (Debugger.isRuntimeLocked (← get)))
  | .announceFailure => do Foreign.announceFailure; pure .done
  | .isLoaded name => .flag <$> Foreign.isLoaded hostObjects name
  | .openObject name => openObject client t name

def syncStep (client : Client Scene) (t : ThreadId) : SceneAct Reply := do
  match ← Loader.sync client t "" [] with
  | .ok r => pure (.synced r.mapped r.unmapped)
  | .error e => pure (.loaderError e)

def addHandler? : Option Handler → SceneAct (Option HandlerId)
  | some h => some <$> addHandler h
  | none => pure none

def perform (client : Client Scene) (t : ThreadId) : Action → SceneAct Reply
  | .lock id op => onAnyLock id (lockStep id t op)
  | .gate id op => gateStep id op
  | .process op => processStep t op
  | .registry op => registryStep t op
  | .loader op => loaderStep client t op
  | .onState state batch handler => do
    Loader.registerState client t ⟨state, batch, ← addHandler handler⟩
    pure .done
  | .onAdd handler => do Loader.registerAdd client t (← addHandler handler); pure .done
  | .onRemove handler => do Loader.registerRemove (← addHandler handler); pure .done
  | .foreign op => Foreign.entry (foreignStep client t op)
  | .foreignState code batch handler => Foreign.entry do
    Foreign.registerState client t code batch (← addHandler? handler)
    pure .done
  | .foreignAdd handler => Foreign.entry do
    Foreign.registerAdd client t (← addHandler? handler)
    pure .done
  | .foreignRemove handler => Foreign.entry do
    Foreign.registerRemove (← addHandler? handler)
    pure .done
  | .sync => syncStep client t
  | .installAgain config => do pure (.configs config (← get).gate.config)

/-- Whether an action is about the registry or the loader, and so is not started while the registry's
lock is busy. -/
def Action.needsRegistry : Action → Bool
  | .registry _ => true
  | .loader _ => true
  | .onState _ _ _ => true
  | .onAdd _ => true
  | .onRemove _ => true
  | .foreign (.sectionData _ _ _ _) => true
  | .foreign (.pathContaining _) => true
  | .foreign (.nameOf _) => true
  | .foreign .imageCount => true
  | .foreign (.openObject _) => true
  | .foreignState _ _ _ => true
  | .foreignAdd _ => true
  | .foreignRemove _ => true
  | .sync => true
  | _ => false

def registryBusy (p : Process Scene) : Bool := p.registry.lock.busy && !p.gate.governs .headerLock

/-- Performs an action, unless its thread would have to wait. -/
def attempt (client : Client Scene) (t : ThreadId) (a : Action) : SceneAct Reply := fun p =>
  if a.needsRegistry && registryBusy p then .ok .wouldBlock p
  else match perform client t a p with
    | .error (.blocked _) _ => .ok .wouldBlock p
    | r => r

def handlerOf : Call → HandlerId
  | .state h _ _ => h
  | .add c _ => c
  | .remove c _ => c

def occasionOf : Call → Occasion
  | .state _ s _ => .state s
  | .add _ i => .add i.slide
  | .remove _ i => .remove i.slide

def seenIn : Call → List Seen
  | .state _ _ images => images.map fun r => ⟨r.addr, r.name⟩
  | .add _ i => [⟨i.addr, i.path⟩]
  | .remove _ i => [⟨i.addr, i.path⟩]

/-- The images as a C handler sees them: it asks for each name by address, and shows none as empty. -/
def lookUp (t : ThreadId) : List Seen → SceneAct (List Seen)
  | [] => pure []
  | i :: rest => do
    let name ← Foreign.nameOf? t i.addr
    pure (⟨i.addr, name.getD ""⟩ :: (← lookUp t rest))

def nestedSteps (step : Action → SceneAct Reply) : List Step → SceneAct Unit
  | [] => pure ()
  | s :: rest => do
    addEvent (.nested s.name (← step s.action))
    nestedSteps step rest

/-- A handler at work: it notes the call, then obeys the first rule that applies. -/
def respond (step : Action → SceneAct Reply) (t : ThreadId) (call : Call) (h : Handler) :
    SceneAct (Option String) := do
  let images ← if h.foreign then lookUp t (seenIn call) else pure (seenIn call)
  let count ← Registry.count t
  addEvent (.called h.label h.foreign (occasionOf call) images count)
  match firstRule? images h.rules with
  | none => pure none
  | some (rule, rest) =>
    setRules (handlerOf call) rest
    nestedSteps step (rule.steps.getD [])
    pure rule.reason

/-- The client of a scenario in which at most `depth` more rules can fire. -/
def client : (depth : Nat) → ThreadId → Client Scene
  | 0, _, _ => pure none
  | depth + 1, t, call => do
    match (← get).client.handlers[handlerOf call]? with
    | none => pure none
    | some h =>
      let work := respond (attempt (client depth t) t) t call h
      if h.foreign then Foreign.entry work else work

end ImageLoader.Scenario
