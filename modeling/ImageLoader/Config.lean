import ImageLoader.Text.Blank
import ImageLoader.Text.Number
/-! The settings of a runtime, read from named variables, and the build that it is of. -/

namespace ImageLoader

def defaultWalkLimit : Nat := 4096

structure Config where
  printImages : Bool := false
  printDebuggerMode : Bool := false
  debugLocks : Bool := false
  walkLimit : Nat := defaultWalkLimit
  /-- Whether the runtime was built for debugging. No variable sets it. -/
  debugBuild : Bool := true
  deriving DecidableEq, Repr

namespace Config

def asciiLower (c : Char) : Char :=
  if 'A' ≤ c ∧ c ≤ 'Z' then Char.ofNat (c.toNat + 32) else c

/-- The words for yes, in any case of their ASCII letters. -/
def parseFlag (s : String) : Bool :=
  let word := String.ofList ((Text.trim s.toList).map asciiLower)
  word = "yes" || word = "y" || word = "1" || word = "true" || word = "on"

/-- A positive 64-bit number: hexadecimal after one `0x` or `0X`, decimal otherwise. -/
def parseLimit? (s : String) : Option Nat :=
  let n := match Text.trim s.toList with
    | '0' :: 'x' :: r => Text.number? 16 UInt64.size r
    | '0' :: 'X' :: r => Text.number? 16 UInt64.size r
    | r => Text.number? 10 UInt64.size r
  n.filter (0 < ·)

def ofLookup (lookup : String → Option String) : Config where
  printImages := (lookup "OBJC_PRINT_IMAGES").any parseFlag
  printDebuggerMode := (lookup "OBJC_PRINT_DEBUGGER_MODE").any parseFlag
  debugLocks := (lookup "OBJC_DEBUG_LOCKS").any parseFlag
  walkLimit := ((lookup "OBJC_SO_WALK_LIMIT").bind parseLimit?).getD defaultWalkLimit

def lockAssertions (c : Config) : Bool := c.debugBuild || c.debugLocks

end Config

end ImageLoader
