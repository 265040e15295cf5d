import ImageLoader.Report.Json
import ImageLoader.Debugger
/-! A trial debugger session on a process of its own: it starts, uses a managed lock and ends. -/

namespace ImageLoader.Report

structure Probe where
  mode : DebuggerMode
  lockedBefore : Bool
  lockedDuring : Bool
  lockedAfter : Bool
  /-- Whether the debugger's thread could take and release a lock that the debugger held. -/
  reentered : Bool
  counters : Counters
  deriving DecidableEq, Repr

namespace Probe

def prober : ThreadId := .named "main"

def onRuntimeLock {α : Type} (x : LockAct RwLock α) : ProcessAct Unit α :=
  Process.onLock (·.locks.runtimeLock)
    (fun p l => { p with locks := { p.locks with runtimeLock := l } }) x

def reenter : ProcessAct Unit Bool := do
  if (← get).gate.mode ≠ .off then
    if ← onRuntimeLock (RwLock.tryAcquire .runtimeLock prober .write) then
      return (← onRuntimeLock (RwLock.unlock .runtimeLock prober .write)).isOk
  return false

def trial : ProcessAct Unit Probe := do
  let lockedBefore := Debugger.isRuntimeLocked (← get)
  let mode ← modifyGet (Debugger.start prober)
  let lockedDuring := Debugger.isRuntimeLocked (← get)
  let reentered ← reenter
  modify Debugger.finish
  let p ← get
  return ⟨mode, lockedBefore, lockedDuring, Debugger.isRuntimeLocked p, reentered, p.gate.counters⟩

/-- The outcome of a trial and what it logs. -/
def run (config : Config) : Except Stop Probe × List LogLine :=
  match trial (Process.new config ()) with
  | .ok r p => (.ok r, p.log)
  | .error e p => (.error e, p.log)

def toJson (r : Probe) : Json :=
  .object
    [("mode", .text r.mode.text), ("runtime_locked_before", .flag r.lockedBefore),
      ("runtime_locked_during", .flag r.lockedDuring),
      ("runtime_locked_after", .flag r.lockedAfter), ("reentered", .flag r.reentered),
      ("counters",
        .object
          [("bypassed", .number r.counters.bypassed.toNat), ("skipped", .number r.counters.skipped.toNat),
            ("violations", .number r.counters.violations.toNat)])]

end Probe

end ImageLoader.Report
