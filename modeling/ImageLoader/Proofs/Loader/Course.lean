import ImageLoader.Proofs.Loader.InStep
/-! Clients that keep notes. Somewhere in what a handler does its client notes the call; the rest of it
leaves the notes alone, but for the calls that its own requests lead to. A course is a run with the
requests that were made in it, nested ones apart. -/

namespace ImageLoader.Loader

open Act

variable {σ κ τ : Type}

def addrs (p : Process σ) : List UInt64 := p.registry.value.toList.map (·.addr)

structure SameNotes (p q : Process (κ × τ)) : Prop extends SameTables p q where
  notes : q.client.1 = p.client.1

namespace SameNotes

variable {p q r : Process (κ × τ)}

theorem refl (p : Process (κ × τ)) : SameNotes p p := ⟨⟨rfl, rfl⟩, rfl⟩

theorem trans (h : SameNotes p q) (h' : SameNotes q r) : SameNotes p r :=
  ⟨⟨h'.images.trans h.images, h'.loader.trans h.loader⟩, h'.notes.trans h.notes⟩

end SameNotes

theorem Untouched.sameNotes {p q : Process (κ × τ)} (h : Untouched p q) : SameNotes p q :=
  ⟨h.toSameTables, congrArg Prod.fst h.client⟩

namespace Deed

/-- The program leaves the notes alone, its requests apart. -/
def Spares : Deed (κ × τ) → Prop
  | .answer _ => True
  | .look next => ∀ p, (next p).Spares
  | .change f next => (∀ p, (f p).client.1 = p.client.1) ∧ next.Spares
  | .request _ next => ∀ a, (next a).Spares

/-- One program after the other; the answer is that of the second. -/
def followedBy : Deed σ → Deed σ → Deed σ
  | .answer _, d => d
  | .look next, d => .look fun p => (next p).followedBy d
  | .change f next, d => .change f (next.followedBy d)
  | .request r next, d => .request r fun a => (next a).followedBy d

theorem run_followedBy (serve : (r : Request) → ProcessAct σ r.Reply) (d e : Deed σ) :
    (d.followedBy e).run serve = d.run serve >>= fun _ => e.run serve := by
  induction d with
  | answer reason => rfl
  | look next ih => simp only [followedBy, run, ih, bind_assoc]
  | change f next ih => simp only [followedBy, run, ih, bind_assoc]
  | request r next ih => simp only [followedBy, run, ih, bind_assoc]

theorem Only.followedBy {allowed : Request → Bool} {d e : Deed σ} (hd : d.Only allowed)
    (he : e.Only allowed) : (d.followedBy e).Only allowed := by
  induction d with
  | answer reason => exact he
  | look next ih => exact fun p => ih p (hd p)
  | change f next ih => exact ⟨hd.1, ih hd.2⟩
  | request r next ih => exact ⟨hd.1, fun a => ih a (hd.2 a)⟩

end Deed

def noted (note : Call → Process (κ × τ) → κ) (call : Call) (p : Process (κ × τ)) : Process (κ × τ) :=
  { p with client := (note call p, p.client.2) }

/-- Handlers that note the call between what they do `first` and what they do `last`. -/
def noting (note : Call → Process (κ × τ) → κ) (first last : Call → Deed (κ × τ)) (call : Call) :
    Deed (κ × τ) :=
  (first call).followedBy (.change (noted note call) (last call))

theorem only_noting {note : Call → Process (κ × τ) → κ} {first last : Call → Deed (κ × τ)}
    {allowed : Request → Bool} {call : Call} (only : (first call).Only allowed ∧ (last call).Only allowed) :
    (noting note first last call).Only allowed := only.1.followedBy ⟨fun _ => ⟨rfl, rfl⟩, only.2⟩

/-- What handlers may ask for: to map, where they may ask at all. -/
def Request.nestable (nests : Bool) (r : Request) : Bool := nests && r.isMap

/-- Handlers that leave the notes alone but where they note the call. They ask for nothing that is not
to be nested, and remove callbacks for nothing at all. -/
structure Orderly (nests : Bool) (first last : Call → Deed (κ × τ)) : Prop where
  only : ∀ call, (first call).Only (Request.nestable nests) ∧ (last call).Only (Request.nestable nests)
  removing : ∀ c image, (first (.remove c image)).Only (fun _ => false) ∧
    (last (.remove c image)).Only fun _ => false
  spares : ∀ call, (first call).Spares ∧ (last call).Spares

theorem Orderly.maps {nests : Bool} {first last : Call → Deed (κ × τ)} (h : Orderly nests first last)
    (note : Call → Process (κ × τ) → κ) (call : Call) : (noting note first last call).Only Request.isMap :=
  (only_noting (h.only call)).mono fun _ nestable => (Bool.and_eq_true_iff.1 nestable).2

inductive Course (body : Call → Deed (κ × τ)) (start : Process (κ × τ)) :
    List Request → Process (κ × τ) → Prop
  | start : Course body start [] start
  | request {requests : List Request} {p q : Process (κ × τ)} (t : ThreadId) (depth : Nat)
    (r : Request) (a : r.Reply) : Course body start requests p →
    serve (reentrant body t depth) t r p = .ok a q → Course body start (requests ++ [r]) q
  | other {requests : List Request} {p q : Process (κ × τ)} : Course body start requests p →
    SameNotes p q → Course body start requests q

theorem Course.next {body : Call → Deed (κ × τ)} {start p : Process (κ × τ)} {requests : List Request}
    (course : Course body start requests p) (t : ThreadId) (depth : Nat) (r : Request)
    (h : finishes (serve (reentrant body t depth) t r) p) :
    Course body start (requests ++ [r]) (endState (serve (reentrant body t depth) t r) p) :=
  have ⟨a, served⟩ := exists_ok h
  .request t depth r a course served

/-- The records of `p` are still there, and what was known is still known. -/
structure Lasting (p q : Process σ) : Prop where
  records : ∀ r ∈ p.registry.value.toList, r ∈ q.registry.value.toList
  known : ∀ a b, p.loader.known.get? a = some b → q.loader.known.get? a = some b

namespace Lasting

variable {p q r : Process σ}

theorem trans (h : Lasting p q) (h' : Lasting q r) : Lasting p r :=
  ⟨fun s hs => h'.records s (h.records s hs), fun a b hb => h'.known a b (h.known a b hb)⟩

theorem of_same (h : SameTables p q) : Lasting p q := by
  refine ⟨fun s hs => ?_, fun a b hb => ?_⟩
  · rwa [h.images]
  · rwa [h.loader]

theorem refl (p : Process σ) : Lasting p p := .of_same ⟨rfl, rfl⟩

end Lasting

/-- A program leads from what holds before it to what holds after it, and takes no record away, where its
requests do so. -/
theorem Deed.leads_run {serve : (r : Request) → ProcessAct (κ × τ) r.Reply} {allowed : Request → Bool}
    {I : Process (κ × τ) → Prop} (same : ∀ {p q}, I p → SameNotes p q → I q)
    (requests : ∀ r, allowed r → ∀ p a q, I p → serve r p = .ok a q → I q ∧ Lasting p q)
    (d : Deed (κ × τ)) (only : d.Only allowed) (spares : d.Spares) :
    ∀ p a q, I p → d.run serve p = .ok a q → I q ∧ Lasting p q := by
  induction d with
  | answer reason =>
    intro p a q hp h
    cases h
    exact ⟨hp, .refl p⟩
  | look next ih =>
    intro p a q hp h
    exact ih p (only p) (spares p) p a q hp h
  | change f next ih =>
    intro p a q hp h
    have changed : SameNotes p (f p) := ⟨only.1 p, spares.1 p⟩
    obtain ⟨hq, lasting⟩ := ih only.2 spares.2 (f p) a q (same hp changed) h
    exact ⟨hq, .trans (.of_same changed.toSameTables) lasting⟩
  | request r next ih =>
    intro p a q hp h
    obtain ⟨b, p₁, served, h⟩ := bind_eq_ok.1 h
    obtain ⟨h₁, first⟩ := requests r only.1 p b p₁ hp served
    obtain ⟨hq, second⟩ := ih b (only.2 b) (spares b) p₁ a q h₁ h
    exact ⟨hq, first.trans second⟩

theorem Deed.sameNotes_run {serve : (r : Request) → ProcessAct (κ × τ) r.Reply} {d : Deed (κ × τ)}
    (only : d.Only fun _ => false) (spares : d.Spares) {p q : Process (κ × τ)} {a : Option String}
    (h : d.run serve p = .ok a q) : SameNotes p q :=
  (d.leads_run (I := SameNotes p) (fun hp same => hp.trans same)
    (fun _ (never : false = true) => nomatch never) only spares p a q (.refl p) h).1

section

variable {note : Call → Process (κ × τ) → κ} {client : Client (κ × τ)} {t : ThreadId}
  {p q : Process (κ × τ)}

/-- All that a call does to the tables and the notes is to be noted. -/
def Quiet (note : Call → Process (κ × τ) → κ) (client : Client (κ × τ)) (call : Call) : Prop :=
  ∀ {p a q}, client call p = .ok a q → ∃ p', SameNotes p p' ∧ SameNotes (noted note call p') q

theorem quiet_reentrant {nests : Bool} {first last : Call → Deed (κ × τ)}
    (orderly : Orderly nests first last) (depth : Nat) (c : HandlerId) (image : Image) :
    Quiet note (reentrant (noting note first last) t depth) (.remove c image) := by
  have only := orderly.removing c image
  have spares := orderly.spares (.remove c image)
  intro p a q h
  cases depth with
  | zero => cases h
  | succ depth =>
    change ((first (.remove c image)).followedBy _).run _ p = _ at h
    rw [Deed.run_followedBy] at h
    obtain ⟨_, p₁, before, h⟩ := bind_eq_ok.1 h
    exact ⟨p₁, Deed.sameNotes_run only.1 spares.1 before, Deed.sameNotes_run only.2 spares.2 h⟩

theorem callRemove_leads {K : List HandlerId → Process (κ × τ) → Prop} {image : Image}
    (quiet : ∀ c, Quiet note client (.remove c image))
    (same : ∀ {cs p q}, K cs p → SameNotes p q → K cs q)
    (told : ∀ {c cs p}, K (c :: cs) p → K cs (noted note (.remove c image) p))
    {callbacks : List HandlerId} {a : Unit} (hp : K callbacks p)
    (h : callRemove client image callbacks p = .ok a q) : K [] q := by
  induction callbacks generalizing p with
  | nil =>
    cases h
    exact hp
  | cons c rest ih =>
    obtain ⟨_, p₁, called, h⟩ := bind_eq_ok.1 h
    obtain ⟨_, called⟩ := discard_eq_ok.1 called
    obtain ⟨p', before, after⟩ := quiet c called
    exact ih (same (told (same hp before)) after) h

end

end ImageLoader.Loader
