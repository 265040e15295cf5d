import ImageLoader.Report.File
import ImageLoader.Report.Probe
/-! The command line: the report on an ELF file, and the trial of a debugger session, as JSON. Log
lines go to standard error. -/

namespace ImageLoader.CommandLine

inductive Task
  | sections (file : String)
  | debuggerProbe
  deriving DecidableEq, Repr

structure Options where
  verbosity : Nat := 0
  compact : Bool := false
  task : Option Task := none
  deriving DecidableEq, Repr

/-- How often a cluster such as `-vv` asks for more detail; none for any other argument. -/
def detail? (arg : String) : Option Nat :=
  match arg.toList with
  | '-' :: v :: r => if (v :: r).all (· = 'v') then some (r.length + 1) else none
  | _ => none

def parse (o : Options) : List String → Option Options
  | [] => some o
  | "sections" :: "--file" :: file :: rest => parse { o with task := some (.sections file) } rest
  | "debugger-probe" :: rest => parse { o with task := some .debuggerProbe } rest
  | "--compact" :: rest => parse { o with compact := true } rest
  | "--verbose" :: rest => parse { o with verbosity := o.verbosity + 1 } rest
  | arg :: rest =>
    match detail? arg with
    | some n => parse { o with verbosity := o.verbosity + n } rest
    | none => none

def usage : String := "usage: [-v]... [--compact] (sections --file FILE | debugger-probe)"

def severity : LogLevel → Nat
  | .error => 0
  | .warn => 1
  | .info => 2
  | .debug => 3
  | .trace => 4

/-- The log lines to show at a verbosity. -/
def shown (verbosity : Nat) (lines : List LogLine) : List LogLine :=
  lines.filter fun l => severity l.level ≤ severity (.ofVerbosity verbosity)

def layout (o : Options) : Report.Json.Layout := if o.compact then .line else .indented 0

def readContents (file : String) : IO (Except String Bytes) := do
  try
    return .ok (← IO.FS.readBinFile file).data.toList
  catch e =>
    match e with
    | .noFileOrDirectory _ _ _ => return .error missingFile
    | e => return .error (toString e)

def readConfig : IO Config := do
  let printImages ← IO.getEnv "OBJC_PRINT_IMAGES"
  let printMode ← IO.getEnv "OBJC_PRINT_DEBUGGER_MODE"
  let debugLocks ← IO.getEnv "OBJC_DEBUG_LOCKS"
  let walkLimit ← IO.getEnv "OBJC_SO_WALK_LIMIT"
  return .ofLookup fun
    | "OBJC_PRINT_IMAGES" => printImages
    | "OBJC_PRINT_DEBUGGER_MODE" => printMode
    | "OBJC_DEBUG_LOCKS" => debugLocks
    | "OBJC_SO_WALK_LIMIT" => walkLimit
    | _ => none

def runSections (o : Options) (file : String) : IO UInt32 := do
  match Report.FileReport.read file (← readContents file) with
  | .ok r => IO.println (r.toJson.render (layout o)); return 0
  | .error e => IO.eprintln e.message; return 1

def runProbe (o : Options) : IO UInt32 := do
  let (outcome, log) := Report.Probe.run (← readConfig)
  for l in shown o.verbosity log do IO.eprintln l.render
  match outcome with
  | .ok r => IO.println (r.toJson.render (layout o)); return 0
  | .error _ => return 1

def run (args : List String) : IO UInt32 := do
  match parse {} args with
  | some o =>
    match o.task with
    | some (.sections file) => runSections o file
    | some .debuggerProbe => runProbe o
    | none => IO.eprintln usage; return 2
  | none => IO.eprintln usage; return 2

end ImageLoader.CommandLine

def main (args : List String) : IO UInt32 := ImageLoader.CommandLine.run args
