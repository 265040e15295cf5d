import ImageLoader.Proofs.Lock.Ownership
import ImageLoader.Proofs.Session.Exclusion
/-! Who may give a lock of a process up. The gate lets a release through where it does not govern the lock;
then nobody but the owner is let through by the lock, and who is refused has changed nothing in the process. -/

namespace ImageLoader

open Act Process

variable {σ : Type} {p : Process σ} {id : LockId} {t : ThreadId} {mode : RwMode} {h : List Deal}
  {config : Config} {own : σ}

namespace Process

theorem onLock_eq_ok {L α : Type} {get : Process σ → L} {set : Process σ → L → Process σ} {x : LockAct L α}
    {a : α} {q : Process σ} :
    onLock get set x p = .ok a q ↔
      ∃ s, x ⟨p.gate, get p⟩ = .ok a s ∧ q = set { p with gate := s.gate } s.lock := by
  rw [onLock]
  cases done : x ⟨p.gate, get p⟩ <;> simp [eq_comm]

def unlock (id : LockId) (t : ThreadId) (mode : RwMode) : ProcessAct σ (Except LockError Unit) :=
  onLock (·.lock id) (·.setLock id ·) (id.kind.unlock id t mode)

def wait (t : ThreadId) (others : LockAct Monitor Unit) : ProcessAct σ (Except LockError Unit) :=
  onLock (·.lock .classInitLock) (·.setLock .classInitLock ·) (Monitor.wait .classInitLock t others)

theorem setLock_lock (p : Process σ) (id : LockId) : p.setLock id (p.lock id) = p := by
  cases id <;> rfl

/-- A release in a process is one of its lock, and changes nothing else. -/
theorem releases_unlock (kept : id.kind.Bookkept (p.lock id)) (native : p.gate.governs id = false) :
    id.kind.Releases id t mode (p.lock id) (unlock id t mode) p (p.setLock id) := by
  apply LockKind.releases_of_cases
  · intro bars
    have refused := LockKind.unlock_of_bars (s := p.gated id) kept native bars
    exact onLock_eq_ok.2 ⟨p.gated id, refused, (setLock_lock p id).symm⟩
  · intro free
    obtain ⟨l', done, less⟩ := LockKind.exists_unlock (s := p.gated id) kept native free
    exact ⟨l', onLock_eq_ok.2 ⟨_, done, rfl⟩, less⟩

theorem waits_wait (native : p.gate.governs .classInitLock = false) (t : ThreadId) :
    Monitor.Waits .classInitLock t (p.gated .classInitLock) (wait t) p
      fun m => { p with gate := m.gate }.setLock .classInitLock m.lock :=
  (Monitor.waits_native (m := p.gated .classInitLock) native t).lift
    (fun _ _ _ => onLock_eq_ok) (setLock_lock p .classInitLock)

end Process

namespace Session

/-- In a process a lock's records are true after these deals, and who is refused changes nothing. -/
structure Guards (id : LockId) (h : List Deal) (p : Process σ) : Prop where
  checked : id.kind.Checked id h (p.gated id)
  releases : p.gate.governs id = false → ∀ t mode,
    id.kind.Releases id t mode (p.lock id) (unlock id t mode) p (p.setLock id)

theorem guards_of_chronicle (built : ∀ name, id ≠ .added name) (run : Chronicle config own id h p) :
    Guards id h p := by
  have tracks := run.tracks built
  refine ⟨LockKind.Tracks.checked (s := p.gated id) tracks, ?_⟩
  intro native t mode
  exact releases_unlock tracks.kept native

/-- Releases and waits are refused exactly where their caller is not the owner, or names another mode; then
nothing changes, neither of a lock alone, whatever was done to its gate, nor in a process. -/
theorem ownership_checked :
    (∀ (k : LockKind) (id : LockId) (h : List Deal) (s : Gated k.State),
      k.Life id h s → k.Ready s.lock → k.Checked id h s) ∧
    (∀ (id : LockId) (t : ThreadId) (m : Gated Monitor), m.gate.governs id = false →
      Monitor.Waits id t m (Monitor.wait id t) m fun m' => m') ∧
    (∀ (config : Config) (own : σ) (id : LockId) (p : Process σ), (∀ name, id ≠ .added name) →
      (∀ h, Chronicle config own id h p → Guards id h p) ∧
      (Reachable config own p → ∃ h, Chronicle config own id h p)) ∧
    (∀ (t : ThreadId) (p : Process σ), p.gate.governs .classInitLock = false →
      Monitor.Waits .classInitLock t (p.gated .classInitLock) (wait t) p
        fun m => { p with gate := m.gate }.setLock .classInitLock m.lock) := by
  refine ⟨?_, ?_, ?_, ?_⟩
  · intro k id h s life ready
    exact (life.tracks ready).checked
  · intro id t m native
    exact Monitor.waits_native native t
  · intro config own id p built
    exact ⟨fun h => guards_of_chronicle built, exists_chronicle id⟩
  · intro t p native
    exact waits_wait native t

def entered : Gated RecursiveMutex := ⟨{}, ⟨some ⟨some (.named "a"), 2⟩, some (.named "a"), 2⟩⟩

theorem life_entered : LockKind.recursiveMutex.Life .loadMethodLock
    [.took (.named "a"), .took (.named "a")] entered :=
  (((LockKind.Life.start {}).call (.named "a") .init).call (.named "a") (.acquire .write)).call
    (.named "a") (.acquire .write)

/-- Thread b can free neither that lock nor classLock, which a holds when a session begins; a releases it
once. A wait of a ends when b has left the monitor. -/
theorem ownership_checked_entered :
    (∃ m, RecursiveMutex.unlock .loadMethodLock (.named "a") entered = .ok (.ok ()) { entered with lock := m } ∧
      m.owner = some (.named "a") ∧ m.depth = 1) ∧
    (∃ s', RecursiveMutex.unlock .loadMethodLock (.named "b") entered =
      .ok (.error (.notOwner .recursiveMutex "loadMethodLock")) s') ∧
    (∃ q, unlock .classLock (.named "b") .write classBusy = .ok (.error (.notOwner .mutex "classLock")) q) ∧
    (∃ q, wait (.named "b") (pure ()) classBusy = .ok (.error (.notOwner .monitor "classInitLock")) q) ∧
    Monitor.wait .classInitLock (.named "a")
      (do
        Monitor.enter .classInitLock (.named "b")
        discard (Monitor.exit .classInitLock (.named "b")))
      ⟨{}, ⟨true, some (.named "a")⟩⟩ = .ok (.ok ()) ⟨{}, ⟨true, some (.named "a")⟩⟩ := by
  obtain ⟨alone, waits, inProcess, elsewhere⟩ := ownership_checked (σ := Unit)
  have releases := (alone _ _ _ _ life_entered rfl).releases rfl
  have guards := ((inProcess {} () .classLock classBusy (by simp)).1 _ chronicle_classBusy).releases (by decide)
  refine ⟨?_, ?_, ?_, ?_, ?_⟩
  · have free : ¬LockKind.recursiveMutex.Bars (.named "a") .write entered.lock := by
      rintro (foreign | ⟨other, -, moded⟩)
      · exact foreign rfl
      · cases moded
    obtain ⟨m, released, less⟩ := (releases (.named "a") .write).done free
    have left := less.owned (by decide)
    exact ⟨m, released, left.1, left.2.1⟩
  · exact (releases (.named "b") .write).refused.2 (.inl (by decide))
  · exact (guards (.named "b") .write).refused.2 (.inl (by decide))
  · exact ((elsewhere (.named "b") classBusy (by decide)).refused (pure ())).2 (by decide)
  · exact (waits .classInitLock (.named "a") ⟨{}, ⟨true, some (.named "a")⟩⟩ rfl).returns rfl _ _ rfl rfl

end Session

end ImageLoader
