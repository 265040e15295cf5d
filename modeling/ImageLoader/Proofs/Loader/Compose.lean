import ImageLoader.Proofs.Loader.Handlers
/-! A property of actions that sequencing keeps holds of every request to the loader, once it holds of
the few actions of which requests are made and of what the client does when it is called. -/

namespace ImageLoader.Loader

open Act

variable {σ : Type}

def takeOut (t : ThreadId) (addr : UInt64) : ProcessAct σ Unit := do
  discard (Registry.remove t addr)
  setKnown addr false

/-- A change of the handlers and callbacks that leaves the table of known addresses alone. -/
def subscribe (f : Loader → Loader) : ProcessAct σ Unit :=
  modify fun p => { p with loader := { f p.loader with known := p.loader.known } }

theorem reject_cons (t : ThreadId) (r : Rejection) (rest : List Rejection) :
    (reject t (r :: rest) : ProcessAct σ Unit) =
      Process.say .warn s!"objrt: image {r.path} rejected: {r.reason}" >>= fun _ =>
        takeOut t r.addr >>= fun _ => reject t rest := by
  simp only [reject, takeOut, bind_assoc]

/-- Tells the client about those of a batch that were not refused. -/
def introduce (client : Client σ) (t : ThreadId) (batch : List ImageRecord) : ProcessAct σ Unit := do
  let batch ← live t batch
  callAddEach client (← get).loader.addCallbacks batch
  if batch.isEmpty then pure ()
  else runDependents client batch ((← get).loader.handlersOf .dependentsInitialized)

theorem announce_eq (client : Client σ) (t : ThreadId) (batch : List ImageRecord) :
    announce client t batch = get >>= fun p =>
      runBound client t batch (p.loader.handlersOf .bound) none >>= fun refused =>
        introduce client t batch >>= fun _ => pure refused := by
  simp only [announce, introduce, bind_assoc]
  refine bind_congr fun _ => bind_congr fun _ => bind_congr fun _ => bind_congr fun _ => bind_congr fun _ => ?_
  split <;> simp only [bind_assoc, pure_bind]

/-- The property holds of what looks at the configuration and the loader's tables, and at nothing else, and
goes on in a way that has it. -/
def Reads (P : ∀ {α : Type}, ProcessAct σ α → Prop) : Prop :=
  ∀ {α : Type} {f : Process σ → ProcessAct σ α},
    (∀ p q, q.gate.config = p.gate.config → q.loader = p.loader → f q = f p) → (∀ p, P (f p)) →
    P (get >>= f)

theorem reads_of_get {P : ∀ {α : Type}, ProcessAct σ α → Prop} (closed : Closed P)
    (get : P (get : ProcessAct σ (Process σ))) : Reads P :=
  fun _ h => closed.bind get h

theorem holds_sayIfPrinting {P : ∀ {α : Type}, ProcessAct σ α → Prop} (closed : Closed P) (reads : Reads P)
    (say : ∀ level text, P (Process.say level text)) (text : String) :
    P (sayIfPrinting text : ProcessAct σ Unit) := by
  refine reads (fun p q config _ => by rw [config]) fun p => ?_
  split
  · exact say _ _
  · exact closed.pure _

/-- The property holds of what a request does to tell its client about images, but for what the client does
then. -/
structure Tells (P : ∀ {α : Type}, ProcessAct σ α → Prop) (t : ThreadId) : Prop where
  closed : Closed P
  reads : Reads P
  say : ∀ level text, P (Process.say level text)
  inspect : ∀ {β : Type} (f : ImageList → β), P (Registry.inspect t f)
  subscribe : ∀ f, P (subscribe f)

namespace Tells

variable {P : ∀ {α : Type}, ProcessAct σ α → Prop} {t : ThreadId} {client : Client σ}

theorem sayIfPrinting (h : Tells P t) (text : String) : P (sayIfPrinting text : ProcessAct σ Unit) :=
  holds_sayIfPrinting h.closed h.reads h.say text

theorem live (h : Tells P t) (batch : List ImageRecord) : P (live t batch) := by
  induction batch with
  | nil => exact h.closed.pure _
  | cons r rest ih =>
    exact h.closed.bind (h.inspect _) fun _ => h.closed.bind ih fun _ => h.closed.pure _

theorem askEach (h : Tells P t) (hc : ∀ call, P (client call)) (s : StateRegistration)
    (images : List ImageRecord) : P (askEach client s images) := by
  induction images with
  | nil => exact h.closed.pure _
  | cons r rest ih =>
    exact h.closed.bind (hc _) fun _ => h.closed.bind ih fun _ => h.closed.pure _

theorem ask (h : Tells P t) (hc : ∀ call, P (client call)) (s : StateRegistration)
    (images : List ImageRecord) : P (ask client s images) := by
  unfold Loader.ask
  split
  · refine h.closed.bind (hc _) fun answer => ?_
    cases answer <;> exact h.closed.pure _
  · exact h.askEach hc s images

theorem callAdd (h : Tells P t) (hc : ∀ call, P (client call)) (image : Image)
    (callbacks : List HandlerId) : P (callAdd client image callbacks) := by
  induction callbacks with
  | nil => exact h.closed.pure _
  | cons c rest ih => exact h.closed.bind (h.closed.discard (hc _)) fun _ => ih

theorem callAddEach (h : Tells P t) (hc : ∀ call, P (client call)) (callbacks : List HandlerId)
    (batch : List ImageRecord) : P (callAddEach client callbacks batch) := by
  induction batch with
  | nil => exact h.closed.pure _
  | cons r rest ih => exact h.closed.bind (h.callAdd hc r.image callbacks) fun _ => ih

theorem callRemove (h : Tells P t) (image : Image) (hc : ∀ c, P (client (.remove c image)))
    (callbacks : List HandlerId) : P (callRemove client image callbacks) := by
  induction callbacks with
  | nil => exact h.closed.pure _
  | cons c rest ih => exact h.closed.bind (h.closed.discard (hc _)) fun _ => ih

theorem sayLate (h : Tells P t) (rejections : List Rejection) : P (sayLate rejections) := by
  induction rejections with
  | nil => exact h.closed.pure _
  | cons r rest ih => exact h.closed.bind (h.say _ _) fun _ => ih

theorem sayAlreadyLoaded (h : Tells P t) (rejections : List Rejection) :
    P (sayAlreadyLoaded rejections) := by
  induction rejections with
  | nil => exact h.closed.pure _
  | cons r rest ih => exact h.closed.bind (h.say _ _) fun _ => ih

theorem runDependents (h : Tells P t) (hc : ∀ call, P (client call)) (batch : List ImageRecord)
    (handlers : List StateRegistration) : P (runDependents client batch handlers) := by
  induction handlers with
  | nil => exact h.closed.pure _
  | cons s rest ih =>
    exact h.closed.bind (h.ask hc s batch) fun _ => h.closed.bind (h.sayLate _) fun _ => ih

theorem introduce (h : Tells P t) (hc : ∀ call, P (client call)) (batch : List ImageRecord) :
    P (introduce client t batch) := by
  refine h.closed.bind (h.live batch) fun left => ?_
  refine h.reads (fun p q _ loader => by rw [loader]) fun p => ?_
  refine h.closed.bind (h.callAddEach hc _ left) fun _ => ?_
  split
  · exact h.closed.pure _
  · exact h.reads (fun p q _ loader => by rw [loader]) fun p => h.runDependents hc left _

theorem registerState (h : Tells P t) (hc : ∀ call, P (client call)) (s : StateRegistration) :
    P (registerState client t s) := by
  refine h.closed.bind (h.subscribe fun l => { l with stateHandlers := l.stateHandlers ++ [s] })
    fun _ => h.closed.bind (h.inspect _) fun existing => ?_
  split
  · exact h.closed.pure _
  · exact h.closed.bind (h.ask hc s existing) fun _ => h.sayAlreadyLoaded _

theorem registerAdd (h : Tells P t) (hc : ∀ call, P (client call)) (c : HandlerId) :
    P (registerAdd client t c) :=
  h.closed.bind (h.subscribe fun l => { l with addCallbacks := l.addCallbacks ++ [c] }) fun _ =>
    h.closed.bind (h.inspect _) fun existing => h.callAddEach hc [c] existing

theorem registerRemove (h : Tells P t) (c : HandlerId) : P (registerRemove c) :=
  h.subscribe fun l => { l with removeCallbacks := l.removeCallbacks ++ [c] }

end Tells

/-- The property holds of the parts of a mapping and of a subscription. -/
structure Parts (P : ∀ {α : Type}, ProcessAct σ α → Prop) (t : ThreadId) : Prop extends Tells P t where
  enrol : ∀ image, P (enrol t image)
  takeOut : ∀ addr, P (takeOut t addr)

namespace Parts

variable {P : ∀ {α : Type}, ProcessAct σ α → Prop} {t : ThreadId} {client : Client σ}

theorem enrolAll (h : Parts P t) (images : List Image) : P (enrolAll t images) := by
  induction images with
  | nil => exact h.closed.pure _
  | cons i rest ih =>
    exact h.closed.bind (h.enrol i) fun _ => h.closed.bind ih fun _ => h.closed.pure _

theorem reject (h : Parts P t) (rejections : List Rejection) : P (reject t rejections) := by
  induction rejections with
  | nil => exact h.closed.pure _
  | cons r rest ih =>
    rw [reject_cons]
    exact h.closed.bind (h.say _ _) fun _ => h.closed.bind (h.takeOut _) fun _ => ih

theorem runBound (h : Parts P t) (hc : ∀ call, P (client call)) (batch : List ImageRecord)
    (handlers : List StateRegistration) (refused : Option Rejection) :
    P (runBound client t batch handlers refused) := by
  induction handlers generalizing refused with
  | nil => exact h.closed.pure _
  | cons s rest ih =>
    refine h.closed.bind (h.live batch) fun images => ?_
    split
    · exact h.closed.pure _
    · exact h.closed.bind (h.ask hc s images) fun rejections =>
        h.closed.bind (h.reject rejections) fun _ => ih _

theorem announce (h : Parts P t) (hc : ∀ call, P (client call)) (batch : List ImageRecord) :
    P (announce client t batch) := by
  rw [announce_eq]
  refine h.reads (fun p q _ loader => by rw [loader]) fun p => ?_
  refine h.closed.bind (h.runBound hc batch _ _) fun refused => ?_
  exact h.closed.bind (h.introduce hc batch) fun _ => h.closed.pure _

theorem mapImages (h : Parts P t) (hc : ∀ call, P (client call)) (images : List Image) :
    P (mapImages client t images) := by
  refine h.closed.bind (h.enrolAll images) fun enrolled => ?_
  rcases enrolled with ⟨outcomes, batch⟩
  dsimp only
  split
  · exact h.closed.pure _
  · refine h.closed.bind (h.announce hc _) fun refused => ?_
    cases refused <;> exact h.closed.pure _

theorem mapImage (h : Parts P t) (hc : ∀ call, P (client call)) (image : Image) :
    P (mapImage client t image) := by
  refine h.closed.bind (h.mapImages hc [image]) fun outcomes => ?_
  cases outcomes <;> exact h.closed.pure _

theorem serve (h : Parts P t) (hc : ∀ call, P (client call)) (r : Request)
    (notUnmap : ∀ addr, r ≠ .unmap addr) : P (serve client t r) := by
  cases r with
  | map images => exact h.mapImages hc images
  | mapOne image => exact h.mapImage hc image
  | unmap addr => exact absurd rfl (notUnmap addr)
  | onState s => exact h.registerState hc s
  | onAdd c => exact h.registerAdd hc c
  | onRemove c => exact h.registerRemove c

end Parts

/-- The property holds of the pieces of which every request is made. -/
structure Pieces (P : ∀ {α : Type}, ProcessAct σ α → Prop) (t : ThreadId) : Prop where
  closed : Closed P
  reads : Reads P
  say : ∀ level text, P (Process.say level text)
  access : ∀ {β : Type} (f : ImageList → β × ImageList), P (Registry.access t f)
  revise : ∀ f : Loader → Loader, P (modify fun p => { p with loader := f p.loader })

namespace Pieces

variable {P : ∀ {α : Type}, ProcessAct σ α → Prop} {t : ThreadId} {client : Client σ}

theorem setKnown (h : Pieces P t) (addr : UInt64) (registered : Bool) :
    P (setKnown addr registered : ProcessAct σ Unit) :=
  h.revise fun l => { l with known := l.known.insert addr registered }

theorem forget (h : Pieces P t) (addr : UInt64) : P (forget addr : ProcessAct σ Unit) :=
  h.revise fun l => { l with known := l.known.erase addr }

theorem enrol (h : Pieces P t) (image : Image) : P (enrol t image) := by
  refine h.reads (fun p q config loader => by rw [loader]) fun p => ?_
  rcases p.loader.known.get? image.addr with _ | _ | _
  · dsimp only
    split
    · refine h.closed.bind (holds_sayIfPrinting h.closed h.reads h.say _) fun _ => ?_
      exact h.closed.bind (h.setKnown _ _) fun _ => h.closed.bind (h.access _) fun _ => h.closed.pure _
    · exact h.closed.bind (h.setKnown _ _) fun _ => h.closed.pure _
  · exact h.closed.pure _
  · exact h.closed.pure _

theorem parts (h : Pieces P t) : Parts P t where
  closed := h.closed
  reads := h.reads
  say := h.say
  inspect _ := h.access _
  enrol := h.enrol
  takeOut _ := h.closed.bind (h.closed.discard (h.access _)) fun _ => h.setKnown _ _
  subscribe f := h.revise fun l => { f l with known := l.known }

theorem unmapImage (h : Pieces P t) (hc : ∀ c image, P (client (.remove c image))) (addr : UInt64) :
    P (unmapImage client t addr) := by
  refine h.reads (fun p q _ loader => by rw [loader]) fun p => ?_
  refine h.closed.bind (h.forget _) fun _ => ?_
  split
  · refine h.closed.bind (h.access _) fun found => ?_
    cases found with
    | none => exact h.closed.pure _
    | some r =>
      refine h.reads (fun p q _ loader => by rw [loader]) fun p => ?_
      refine h.closed.bind (h.parts.callRemove _ (hc · _) _) fun _ => ?_
      exact h.closed.bind (h.parts.sayIfPrinting _) fun _ => h.access _
  · exact h.closed.pure _

theorem serve (h : Pieces P t) (hc : ∀ call, P (client call)) (r : Request) : P (serve client t r) := by
  by_cases unmap : ∃ addr, r = .unmap addr
  · obtain ⟨addr, rfl⟩ := unmap
    exact h.unmapImage (fun _ _ => hc _) addr
  · exact h.parts.serve hc r fun addr e => unmap ⟨addr, e⟩

end Pieces

end ImageLoader.Loader
