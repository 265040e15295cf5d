/-! Log lines of a run. What is said at the debug level, on an acquisition past the gate, a change of the
registry or an image without metadata, is not kept. -/

namespace ImageLoader

inductive LogLevel
  | error
  | warn
  | info
  | debug
  | trace
  deriving DecidableEq, Repr

namespace LogLevel

def label : LogLevel → String
  | .error => "ERROR"
  | .warn => "WARN"
  | .info => "INFO"
  | .debug => "DEBUG"
  | .trace => "TRACE"

/-- The level that is shown after `count` requests for more detail. -/
def ofVerbosity : (count : Nat) → LogLevel
  | 0 => .warn
  | 1 => .info
  | 2 => .debug
  | _ => .trace

end LogLevel

structure LogLine where
  level : LogLevel
  text : String
  deriving DecidableEq, Repr

def LogLine.render (l : LogLine) : String := s!"{l.level.label} {l.text}"

end ImageLoader
