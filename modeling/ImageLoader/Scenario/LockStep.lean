import ImageLoader.Lock.Any
import ImageLoader.Scenario.Step
/-! The steps that work on one lock, kind by kind. -/

namespace ImageLoader.Scenario

def mutexStep (id : LockId) (t : ThreadId) : LockOp → LockAct Mutex Reply
  | .lock => do Mutex.lock id t; pure .done
  | .tryLock => .flag <$> Mutex.tryLock id t
  | .unlock => .ofUnlock <$> Mutex.unlock id t
  | _ => pure .unsupported

def recursiveStep (id : LockId) (t : ThreadId) : LockOp → LockAct RecursiveMutex Reply
  | .lock => do RecursiveMutex.lock id t; pure .done
  | .tryLock => .flag <$> RecursiveMutex.tryLock id t
  | .unlock => .ofUnlock <$> RecursiveMutex.unlock id t
  | .init => do modify fun s => { s with lock := s.lock.init }; pure .done
  | .isInitialized => Gated.reading (.flag ·.isInitialized)
  | .depth => Gated.reading (.number ·.depth)
  | _ => pure .unsupported

/-- The thread that helps in a step for two threads. -/
def helper : ThreadId := .worker 0

/-- A wait while the helper enters, notifies and leaves. -/
def waitNotify (id : LockId) (t : ThreadId) : LockAct Monitor (Except LockError Unit) :=
  Monitor.wait id t do
    Monitor.enter id helper
    discard (Monitor.exit id helper)

def monitorStep (id : LockId) (t : ThreadId) : LockOp → LockAct Monitor Reply
  | .enter => do Monitor.enter id t; pure .done
  | .tryEnter => .flag <$> Monitor.tryEnter id t
  | .exit => .ofUnlock <$> Monitor.exit id t
  | .notify => pure .done
  | .waitNotify => .ofUnlock <$> waitNotify id t
  | _ => pure .unsupported

def rwStep (id : LockId) (t : ThreadId) : LockOp → LockAct RwLock Reply
  | .acquire mode => do RwLock.acquire id t mode; pure .done
  | .tryAcquire mode => .flag <$> RwLock.tryAcquire id t mode
  | .release mode => .ofUnlock <$> RwLock.unlock id t mode
  | .heldMode => Gated.reading fun l => .ofText (l.mode.map (·.label))
  | .assertReading => do RwLock.assertReading id; pure .done
  | .assertWriting => do RwLock.assertWriting id; pure .done
  | _ => pure .unsupported

def addGuarded (id : LockId) (t : ThreadId) (n : Int64) : LockAct (Guarded Int64) Int64 :=
  Guarded.withValue id t fun v => (v + n, v + n)

def guardedStep (id : LockId) (t : ThreadId) : LockOp → LockAct (Guarded Int64) Reply
  | .withAdd n => (.number ·.toInt) <$> addGuarded id t n
  | op => Guarded.onLock (mutexStep id t op)

/-- The giver releases the lock and takes it again; then it is given to the taker. -/
def handoff (id : LockId) (giver taker : ThreadId) (mode : RwMode) :
    LockAct AnyLock (Option LockError) := do
  match ← AnyLock.release id giver mode with
  | .error e => pure (some e)
  | .ok () =>
    AnyLock.acquire id giver mode
    discard (AnyLock.release id giver mode)
    AnyLock.acquire id taker mode
    pure none

/-- Takes the lock and frees it, an inner time too where it is recursive and `nested`. -/
def hammerRound (id : LockId) (t : ThreadId) (mode : RwMode) (nested : Bool) :
    LockAct AnyLock Unit := fun s =>
  match s.lock with
  | .guarded g => AnyLock.inside .guarded g (discard (addGuarded id t 1)) s
  | .recursive _ =>
    (do AnyLock.acquire id t mode
        if nested then
          AnyLock.acquire id t mode
          discard (AnyLock.release id t mode)
        discard (AnyLock.release id t mode) : LockAct AnyLock Unit) s
  | _ =>
    (do AnyLock.acquire id t mode
        discard (AnyLock.release id t mode) : LockAct AnyLock Unit) s

/-- Rounds of one thread; readers and writers alternate. -/
def hammerRounds (id : LockId) (t : ThreadId) (nested : Bool) : Nat → LockAct AnyLock Unit
  | 0 => pure ()
  | n + 1 => do
    hammerRound id t (if n % 2 = 0 then .read else .write) nested
    hammerRounds id t nested n

def hammer (id : LockId) (rounds : Nat) (nested : Bool) : (threads : Nat) → LockAct AnyLock Unit
  | 0 => pure ()
  | k + 1 => do
    hammerRounds id (.worker k) nested rounds
    hammer id rounds nested k

def kindStep (id : LockId) (t : ThreadId) (op : LockOp) : LockAct AnyLock Reply := fun s =>
  match s.lock with
  | .mutex m => AnyLock.inside .mutex m (mutexStep id t op) s
  | .recursive m => AnyLock.inside .recursive m (recursiveStep id t op) s
  | .monitor m => AnyLock.inside .monitor m (monitorStep id t op) s
  | .rwLock l => AnyLock.inside .rwLock l (rwStep id t op) s
  | .guarded g => AnyLock.inside .guarded g (guardedStep id t op) s

def lockStep (id : LockId) (t : ThreadId) : LockOp → LockAct AnyLock Reply
  | .isLocked => Gated.reading (.flag ·.isLocked)
  | .assertLocked => do AnyLock.assertLocked id; pure .done
  | .assertUnlocked => do AnyLock.assertUnlocked id; pure .done
  | .name => pure (.text id.name)
  | .describe => Gated.reading fun l => .text (l.describe id)
  | .handoff giver taker mode => .handoff <$> handoff id giver taker mode
  | .hammer threads rounds nested => do
    hammer id rounds nested threads
    pure (.number (threads * rounds))
  | op => kindStep id t op

end ImageLoader.Scenario
