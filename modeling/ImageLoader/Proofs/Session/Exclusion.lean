import ImageLoader.Proofs.Lock.Exclusion
import ImageLoader.Proofs.Session.Held
/-! Mutual exclusion in a process. The debugger's sessions take locks past the gate, which is off then,
and their ends free those and no others; so what the records of a lock say of its deals stays true across
them. -/

namespace ImageLoader

open Act Process

variable {σ : Type} {p q before : Process σ} {t : ThreadId} {id : LockId}

def LockId.kind : LockId → LockKind
  | .runtimeLock => .rwLock
  | .selLock => .rwLock
  | .loadMethodLock => .recursiveMutex
  | .classInitLock => .monitor
  | _ => .mutex

/-- A call whose answer is not looked at. -/
def LockKind.plain (id : LockId) (t : ThreadId) (c : LockCall) : (k : LockKind) → LockAct k.State Unit
  | .mutex => c.onMutex id t
  | .recursiveMutex => c.onRecursive id t
  | .monitor => c.onMonitor id t
  | .rwLock => c.onRwLock id t

theorem LockKind.endState_call (k : LockKind) (id : LockId) (t : ThreadId) (c : LockCall)
    (s : Gated k.State) : endState (k.call id t c) s = endState (k.plain id t c) s := by
  cases k <;> cases c <;>
    first
    | exact endState_map _ _ s
    | exact (endState_discard _ s).symm
    | exact (endState_map _ _ s).trans (endState_discard _ s).symm

namespace Process

def lock (p : Process σ) : (id : LockId) → id.kind.State
  | .runtimeLock => p.locks.runtimeLock
  | .selLock => p.locks.selLock
  | .cacheUpdateLock => p.locks.cacheUpdateLock
  | .classLock => p.locks.classLock
  | .methodListLock => p.locks.methodListLock
  | .loadMethodLock => p.locks.loadMethodLock
  | .classInitLock => p.locks.classInitLock
  | .headerLock => p.registry.lock
  | .added _ => ({} : Mutex)

def gated (p : Process σ) (id : LockId) : Gated id.kind.State := ⟨p.gate, p.lock id⟩

theorem lock_congr (locks : q.locks = p.locks) (header : q.registry.lock = p.registry.lock)
    (id : LockId) : q.lock id = p.lock id := by
  cases id with
  | runtimeLock => exact congrArg Locks.runtimeLock locks
  | selLock => exact congrArg Locks.selLock locks
  | cacheUpdateLock => exact congrArg Locks.cacheUpdateLock locks
  | classLock => exact congrArg Locks.classLock locks
  | methodListLock => exact congrArg Locks.methodListLock locks
  | loadMethodLock => exact congrArg Locks.loadMethodLock locks
  | classInitLock => exact congrArg Locks.classInitLock locks
  | headerLock => exact header
  | added name => rfl

def setLock (p : Process σ) : (id : LockId) → id.kind.State → Process σ
  | .runtimeLock, l => { p with locks := { p.locks with runtimeLock := l } }
  | .selLock, l => { p with locks := { p.locks with selLock := l } }
  | .cacheUpdateLock, l => { p with locks := { p.locks with cacheUpdateLock := l } }
  | .classLock, l => { p with locks := { p.locks with classLock := l } }
  | .methodListLock, l => { p with locks := { p.locks with methodListLock := l } }
  | .loadMethodLock, l => { p with locks := { p.locks with loadMethodLock := l } }
  | .classInitLock, l => { p with locks := { p.locks with classInitLock := l } }
  | .headerLock, l => { p with registry := { p.registry with lock := l } }
  | .added _, _ => p

theorem lock_setLock (own : ∀ name, id ≠ .added name) (p : Process σ) (l : id.kind.State) :
    (p.setLock id l).lock id = l := by
  cases id
  case added name => exact absurd rfl (own name)
  all_goals rfl

theorem lock_setLock_ne {id' : LockId} (other : id' ≠ id) (p : Process σ) (l : id'.kind.State) :
    (p.setLock id' l).lock id = p.lock id := by
  cases id' <;> cases id <;> first | rfl | exact absurd rfl other

theorem onRegistry_onLock {α : Type} (x : LockAct Mutex α) :
    (onRegistry (Guarded.onLock x) : ProcessAct σ α) =
      onLock (·.registry.lock) (fun p m => { p with registry := { p.registry with lock := m } }) x := by
  funext p
  unfold onRegistry onLock Guarded.onLock Gated.focus
  dsimp only
  cases x ⟨p.gate, p.registry.lock⟩ <;> rfl

theorem lockCall_eq (own : ∀ name, id ≠ .added name) (t : ThreadId) (c : LockCall) :
    (lockCall id t c : ProcessAct σ Unit) =
      onLock (·.lock id) (·.setLock id ·) (id.kind.plain id t c) := by
  cases id
  case headerLock => exact onRegistry_onLock _
  case added name => exact absurd rfl (own name)
  all_goals rfl

theorem endState_lockCall (own : ∀ name, id ≠ .added name) (t : ThreadId) (c : LockCall)
    (p : Process σ) : ∃ lines, endState (lockCall id t c) p =
      ({ p with gate := (endState (id.kind.call id t c) (p.gated id)).gate }.setLock id
        (endState (id.kind.call id t c) (p.gated id)).lock).note lines := by
  rw [LockKind.endState_call, lockCall_eq own]
  exact Session.endState_onLock (·.lock id) (·.setLock id ·) (id.kind.plain id t c) p

theorem lock_lockCall (own : ∀ name, id ≠ .added name) (t : ThreadId) (c : LockCall)
    (p : Process σ) : (endState (lockCall id t c) p).lock id =
      (endState (id.kind.call id t c) (p.gated id)).lock := by
  obtain ⟨lines, e⟩ := endState_lockCall own t c p
  rw [e]
  exact lock_setLock own _ _

theorem lock_lockCall_ne {id' : LockId} (other : id' ≠ id) (t : ThreadId) (c : LockCall)
    (p : Process σ) : (endState (lockCall id' t c) p).lock id = p.lock id := by
  by_cases own : ∀ name, id' ≠ .added name
  · obtain ⟨lines, e⟩ := endState_lockCall own t c p
    rw [e]
    exact (lock_setLock_ne other _ _).trans (lock_congr rfl rfl id)
  · simp only [ne_eq, not_forall, not_not] at own
    obtain ⟨name, rfl⟩ := own
    rfl

end Process

namespace Session

/-- The locks that are not managed are as they were. -/
structure Elsewhere (p q : Process σ) : Prop where
  classLock : q.locks.classLock = p.locks.classLock
  methodListLock : q.locks.methodListLock = p.locks.methodListLock
  loadMethodLock : q.locks.loadMethodLock = p.locks.loadMethodLock
  classInitLock : q.locks.classInitLock = p.locks.classInitLock

theorem Elsewhere.lock (h : Elsewhere p q) (unmanaged : id ∉ managedLocks) : q.lock id = p.lock id := by
  cases id with
  | classLock => exact h.classLock
  | methodListLock => exact h.methodListLock
  | loadMethodLock => exact h.loadMethodLock
  | classInitLock => exact h.classInitLock
  | added name => rfl
  | _ => exact absurd (by decide) unmanaged

theorem lock_of_natives (h : q.natives = p.natives) (managed : id ∈ managedLocks) :
    q.lock id = p.lock id := by
  cases id with
  | runtimeLock => exact congrArg Natives.runtimeLock h
  | selLock => exact congrArg Natives.selLock h
  | cacheUpdateLock => exact congrArg Natives.cacheUpdateLock h
  | headerLock => exact congrArg Natives.headerLock h
  | _ => simp [managedLocks] at managed

theorem elsewhere_refuse (busy : LockId) (p : Process σ) : Elsewhere p (Debugger.refuse busy p) := by
  unfold Debugger.refuse
  split <;> exact ⟨rfl, rfl, rfl, rfl⟩

theorem elsewhere_start (t : ThreadId) (p : Process σ) : Elsewhere p (Debugger.start t p).2 := by
  unfold Debugger.start
  split
  · exact ⟨rfl, rfl, rfl, rfl⟩
  · split
    · exact elsewhere_refuse _ _
    · split
      · obtain ⟨classLock, methodListLock, loadMethodLock, classInitLock⟩ :=
          elsewhere_refuse .cacheUpdateLock
            { p with locks := { p.locks with runtimeLock := RwLock.free {} } }
        exact ⟨classLock, methodListLock, loadMethodLock, classInitLock⟩
      · exact ⟨rfl, rfl, rfl, rfl⟩

theorem elsewhere_freeTaken (taken : List Taken) (p : Process σ) :
    Elsewhere p (taken.foldl Debugger.freeTaken p) := by
  induction taken generalizing p with
  | nil => exact ⟨rfl, rfl, rfl, rfl⟩
  | cons k rest ih =>
    obtain ⟨classLock, methodListLock, loadMethodLock, classInitLock⟩ := ih (Debugger.freeTaken p k)
    cases k <;> exact ⟨classLock, methodListLock, loadMethodLock, classInitLock⟩

theorem elsewhere_finish (p : Process σ) : Elsewhere p (Debugger.finish p) := by
  unfold Debugger.finish
  split
  · exact ⟨rfl, rfl, rfl, rfl⟩
  · obtain ⟨classLock, methodListLock, loadMethodLock, classInitLock⟩ :=
      elsewhere_freeTaken p.taken.reverse (Debugger.enterMode .off p)
    exact ⟨classLock, methodListLock, loadMethodLock, classInitLock⟩

theorem RwLock.take?_free {l : RwLock} (free : l.busy = false) (t : ThreadId) (mode : RwMode) :
    l.take? t mode = some ⟨true, some t, some mode⟩ := if_neg (by rw [free]; decide)

theorem Mutex.take?_free {m : Mutex} (free : m.busy = false) (t : ThreadId) :
    m.take? t = some ⟨true, some t⟩ := if_neg (by rw [free]; decide)

/-- A session takes a managed lock that is free as a thread would that found the gate off. -/
theorem Begun.take (begun : Begun t p q) (managed : id ∈ managedLocks)
    (free : p.natives.busy id = false) : id.kind.take? t .write (p.lock id) = some (q.lock id) := by
  have natives := begun.natives
  have unbusy : ¬p.natives.busy id = true := by rw [free]; decide
  simp only [managedLocks, List.mem_cons, List.not_mem_nil, or_false] at managed
  rcases managed with rfl | rfl | rfl | rfl
  · exact (RwLock.take?_free free t .write).trans (congrArg (some ·.runtimeLock) natives.symm)
  · have grabbed := (congrArg Natives.selLock natives).trans (if_neg unbusy)
    exact (RwLock.take?_free free t .write).trans (congrArg some grabbed.symm)
  · exact (Mutex.take?_free free t).trans (congrArg (some ·.cacheUpdateLock) natives.symm)
  · have grabbed := (congrArg Natives.headerLock natives).trans (if_neg unbusy)
    exact (Mutex.take?_free free t).trans (congrArg some grabbed.symm)

theorem Begun.leave (begun : Begun t p q) (managed : id ∈ managedLocks)
    (busy : p.natives.busy id = true) : q.lock id = p.lock id := by
  have natives := begun.natives
  simp only [managedLocks, List.mem_cons, List.not_mem_nil, or_false] at managed
  rcases managed with rfl | rfl | rfl | rfl
  · cases begun.runtimeLock.symm.trans busy
  · exact (congrArg Natives.selLock natives).trans (if_pos busy)
  · cases begun.cacheUpdateLock.symm.trans busy
  · exact (congrArg Natives.headerLock natives).trans (if_pos busy)

theorem lock_fresh (tidy : p.natives.Tidy) (managed : id ∈ managedLocks)
    (free : p.natives.busy id = false) : p.lock id = id.kind.fresh := by
  simp only [managedLocks, List.mem_cons, List.not_mem_nil, or_false] at managed
  rcases managed with rfl | rfl | rfl | rfl
  · exact tidy.runtimeLock free
  · exact tidy.selLock free
  · exact tidy.cacheUpdateLock free
  · exact tidy.headerLock free

/-- A start takes a lock natively, or leaves it alone. -/
theorem lock_start (calm : Calm p) (t : ThreadId) (id : LockId) :
    (id ∈ (Debugger.start t p).2.taken.map (·.id) ∧
        id.kind.take? t .write (p.lock id) = some ((Debugger.start t p).2.lock id)) ∨
      (id ∉ (Debugger.start t p).2.taken.map (·.id) ∧
        (Debugger.start t p).2.lock id = p.lock id) := by
  rcases start_cases calm t with ⟨-, still⟩ | ⟨-, begun⟩
  · right
    rw [still.taken, calm.taken]
    refine ⟨by simp, ?_⟩
    by_cases managed : id ∈ managedLocks
    · exact lock_of_natives still.natives managed
    · exact (elsewhere_start t p).lock managed
  · rw [begun.taken, mem_takes begun.runtimeLock begun.cacheUpdateLock]
    by_cases managed : id ∈ managedLocks
    · cases busy : p.natives.busy id with
      | false => exact .inl ⟨⟨managed, rfl⟩, begun.take managed busy⟩
      | true => exact .inr ⟨by simp, begun.leave managed busy⟩
    · exact .inr ⟨fun h => managed h.1, (elsewhere_start t p).lock managed⟩

/-- The end of a session frees what the session took, and leaves alone every other lock. -/
theorem lock_finish (calm : Calm before) (begun : Begun t before q) (still : Still q p)
    (id : LockId) :
    (id ∈ p.taken.map (·.id) ∧ (Debugger.finish p).lock id = id.kind.fresh) ∨
      (id ∉ p.taken.map (·.id) ∧ (Debugger.finish p).lock id = p.lock id) := by
  obtain ⟨natives, ended⟩ := finish_begun calm begun still
  rw [still.taken, begun.taken, mem_takes begun.runtimeLock begun.cacheUpdateLock]
  by_cases managed : id ∈ managedLocks
  · have restored := lock_of_natives natives managed
    cases busy : before.natives.busy id with
    | false => exact .inl ⟨⟨managed, rfl⟩, restored.trans (lock_fresh calm.tidy managed busy)⟩
    | true =>
      have held := (lock_of_natives still.natives managed).trans (begun.leave managed busy)
      exact .inr ⟨by simp, restored.trans held.symm⟩
  · exact .inr ⟨fun h => managed h.1, (elsewhere_finish p).lock managed⟩

/-- A run of a process with what it does to the lock `id`: calls of any threads on its locks, sessions of
the debugger, and steps that touch no lock. -/
inductive Chronicle (config : Config) (own : σ) (id : LockId) : List Deal → Process σ → Prop
  | new : Chronicle config own id [] (Process.new config own)
  | lock {h : List Deal} {p : Process σ} (id' : LockId) (t : ThreadId) (c : LockCall) :
    Chronicle config own id h p →
    Chronicle config own id (h ++ if id' = id then id.kind.deals id t c (p.gated id) else [])
      (endState (lockCall id' t c) p)
  | other {h : List Deal} {p q : Process σ} : Chronicle config own id h p → Bystands p q →
    Chronicle config own id h q
  | start {h : List Deal} {p : Process σ} (t : ThreadId) : Chronicle config own id h p →
    Chronicle config own id
      (h ++ if p.gate.mode = .off ∧ id ∈ (Debugger.start t p).2.taken.map (·.id) then [.took t] else [])
      (Debugger.start t p).2
  | finish {h : List Deal} {p : Process σ} : Chronicle config own id h p →
    Chronicle config own id
      (h ++ if p.gate.mode ≠ .off ∧ id ∈ p.taken.map (·.id) then [.freed] else [])
      (Debugger.finish p)

variable {config : Config} {own : σ} {h : List Deal}

theorem Chronicle.path (run : Chronicle config own id h p) :
    Relation.ReflTransGen (Step true) (Process.new config own) p := by
  induction run with
  | new => exact .refl
  | lock id' t c _ ih => exact ih.tail (.lock id' t c _)
  | other _ stands ih => exact ih.tail (.other stands)
  | start t _ ih => exact ih.tail (.start t _)
  | finish _ ih => exact ih.tail (.finish _ rfl)

theorem exists_chronicle (id : LockId) (reached : Reachable config own p) :
    ∃ h, Chronicle config own id h p := by
  have path : Relation.ReflTransGen (Step true) (Process.new config own) p := Trail.path reached
  induction path with
  | refl => exact ⟨[], .new⟩
  | tail path step ih =>
    obtain ⟨h, run⟩ := ih (.of_path path)
    cases step with
    | lock id' t c => exact ⟨_, run.lock id' t c⟩
    | other stands => exact ⟨h, run.other stands⟩
    | start t => exact ⟨_, run.start t⟩
    | finish _ ends => exact ⟨_, run.finish⟩

theorem tracks_new (id : LockId) :
    id.kind.Tracks [] ((Process.new config own).lock id) := by
  have fresh : (Process.new config own).lock id = id.kind.fresh := by cases id <;> rfl
  rw [fresh]
  exact LockKind.tracks_fresh id.kind

theorem Chronicle.tracks (built : ∀ name, id ≠ .added name) (run : Chronicle config own id h p) :
    id.kind.Tracks h (p.lock id) := by
  induction run with
  | new => exact tracks_new id
  | @lock h p id' t c run ih =>
    by_cases same : id' = id
    · subst same
      rw [if_pos rfl, lock_lockCall built]
      exact LockKind.Tracks.call ih id' t c
    · rw [if_neg same, List.append_nil, lock_lockCall_ne same]
      exact ih
  | @other h p q run stands ih =>
    rw [lock_congr stands.locks stands.header]
    exact ih
  | @start h p t run ih =>
    by_cases off : p.gate.mode = .off
    · have calm := Reachable.calm (Trail.of_path run.path) off
      rcases lock_start calm t id with ⟨mem, taken⟩ | ⟨absent, same⟩
      · rw [if_pos ⟨off, mem⟩]
        exact LockKind.Tracks.took ih taken
      · rw [if_neg fun c => absent c.2, List.append_nil, same]
        exact ih
    · rw [if_neg fun c => off c.1, List.append_nil, Debugger.start, if_pos off]
      exact ih
  | @finish h p run ih =>
    by_cases off : p.gate.mode = .off
    · rw [if_neg fun c => c.1 off, List.append_nil, Debugger.finish, if_pos off]
      exact ih
    · rcases path_cases run.path with calm | ⟨before, t, -, calm, begun, session⟩
      · exact absurd calm.mode off
      · have still := still_of_path session (begun.managed.trans calm.managed) begun.on
        rcases lock_finish calm begun still id with ⟨mem, fresh⟩ | ⟨absent, same⟩
        · rw [if_pos ⟨off, mem⟩, fresh]
          exact LockKind.tracks_freed h
        · rw [if_neg fun c => absent c.2, List.append_nil, same]
          exact ih

/-- Locks of every kind exclude: alone behind a gate that changes in any way, and in a process, where its
sessions take them too. -/
theorem mutual_exclusion :
    (∀ (k : LockKind) (id : LockId) (h : List Deal) (s : Gated k.State),
      LockKind.LockRun k id h s → k.Exclusive id h s) ∧
    (∀ (config : Config) (own : σ) (id : LockId) (p : Process σ), (∀ name, id ≠ .added name) →
      (∀ h, Chronicle config own id h p → id.kind.Exclusive id h (p.gated id)) ∧
      (Reachable config own p → ∃ h, Chronicle config own id h p)) := by
  refine ⟨fun k id h s run => run.tracks.exclusive, fun config own id p built => ⟨fun h run => ?_, ?_⟩⟩
  · have tracks := run.tracks built
    exact LockKind.Tracks.exclusive (s := p.gated id) tracks
  · exact exists_chronicle id

def classBusy : Process Unit :=
  (Debugger.start (.named "d")
    (endState (lockCall .classLock (.named "a") (.acquire .write)) (Process.new {} ()))).2

theorem chronicle_classBusy : Chronicle {} () .classLock [.took (.named "a")] classBusy :=
  (Chronicle.new.lock .classLock (.named "a") (.acquire .write)).start (.named "d")

/-- Behind a gate of its own a reader keeps a writer out; in a session b does not get the lock that a
holds. -/
theorem mutual_exclusion_held :
    LockKind.rwLock.call .selLock (.named "b") (.tryAcquire .write)
      ⟨{}, ⟨true, some (.named "a"), some .read⟩⟩ =
        .ok false ⟨{}, ⟨true, some (.named "a"), some .read⟩⟩ ∧
    LockKind.mutex.call .classLock (.named "b") (.acquire .write) (classBusy.gated .classLock) =
      .error (.blocked .classLock) (classBusy.gated .classLock) := by
  have read : LockKind.LockRun .rwLock .selLock [.took (.named "a")]
      (⟨{}, ⟨true, some (.named "a"), some .read⟩⟩ : Gated RwLock) :=
    (LockKind.LockRun.start {}).call (.named "a") (.acquire .read)
  have alone := (mutual_exclusion (σ := Unit)).1 .rwLock .selLock _ _ read
  have inSession := (((mutual_exclusion (σ := Unit)).2 {} () .classLock classBusy (by simp)).1 _
    chronicle_classBusy).refuses (.named "a") (.named "b") (by decide) (by decide)
  exact ⟨(alone.refuses (.named "a") (.named "b") (by decide) (by decide)).tries (by decide) _,
    inSession.waits (by decide) _⟩

end Session

end ImageLoader
