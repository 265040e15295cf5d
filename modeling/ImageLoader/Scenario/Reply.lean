import ImageLoader.Config
import ImageLoader.Image.Record
import ImageLoader.Loader.Basic
import ImageLoader.Lock.Basic
/-! What a step of a scenario answers, and what handlers and callbacks leave behind. -/

namespace ImageLoader.Scenario

inductive Reply
  | done
  | wouldBlock
  /-- The step makes no sense for its lock. -/
  | unsupported
  | flag (b : Bool)
  | number (n : Int)
  | text (s : String)
  | texts (l : List String)
  | absent
  | lockError (e : LockError)
  | loaderError (e : LoaderError)
  | fatal (e : FatalError)
  /-- A lock was handed over, unless its holder could not release it. -/
  | handoff (refused : Option LockError)
  | config (c : Config)
  /-- The configuration of a runtime that came too late, and that of the one in place. -/
  | configs (own winning : Config)
  | record (r : ImageRecord)
  | records (l : List ImageRecord)
  | extent (e : Extent)
  /-- An address for a C caller, and what the variable for the size holds then. -/
  | location (addr : UInt64) (size : Option UInt32)
  | synced (mapped unmapped : Nat)
  deriving DecidableEq, Repr

namespace Reply

def ofUnlock : Except LockError Unit → Reply
  | .ok () => .done
  | .error e => .lockError e

def ofText : Option String → Reply
  | some s => .text s
  | none => .absent

def ofRecord : Option ImageRecord → Reply
  | some r => .record r
  | none => .absent

def ofExtent : Option Extent → Reply
  | some e => .extent e
  | none => .absent

end Reply

/-- What a call from the loader is about. -/
inductive Occasion
  | state (s : ImageState)
  | add (slide : Int64)
  | remove (slide : Int64)
  deriving DecidableEq, Repr

/-- An image as a handler sees it. -/
structure Seen where
  addr : UInt64
  name : String
  deriving DecidableEq, Repr

inductive Event
  /-- A handler was called while `count` images were registered. -/
  | called (label : String) (foreign : Bool) (on : Occasion) (images : List Seen) (count : Nat)
  /-- A handler took a step of its own. -/
  | nested (name : String) (reply : Reply)
  deriving DecidableEq, Repr

end ImageLoader.Scenario
