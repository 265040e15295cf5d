/-! JSON texts of reports: on one line, or indented by two blanks per level. -/

namespace ImageLoader.Report

inductive Json
  | null
  | flag (b : Bool)
  | number (n : Nat)
  | text (s : String)
  | list (items : List Json)
  | object (fields : List (String × Json))

namespace Json

def hexDigits (n : Nat) : List Char :=
  let digits := Nat.toDigits 16 n
  List.replicate (4 - digits.length) '0' ++ digits

def escape (c : Char) : List Char :=
  if c = '"' then ['\\', '"']
  else if c = '\\' then ['\\', '\\']
  else if c = '\n' then ['\\', 'n']
  else if c = '\r' then ['\\', 'r']
  else if c = '\t' then ['\\', 't']
  else if c = '\x08' then ['\\', 'b']
  else if c = '\x0c' then ['\\', 'f']
  else if c.toNat < 0x20 then ['\\', 'u'] ++ hexDigits c.toNat
  else [c]

def quote (s : String) : String := String.ofList ('"' :: s.toList.flatMap escape ++ ['"'])

def ofOption {α : Type} (f : α → Json) : Option α → Json
  | some a => f a
  | none => .null

/-- Where a text breaks: nowhere, or before every item at a depth. -/
inductive Layout
  | line
  | indented (depth : Nat)

namespace Layout

def inner : Layout → Layout
  | .line => .line
  | .indented d => .indented (d + 1)

def lineBreak : Layout → String
  | .line => ""
  | .indented d => "\n" ++ String.ofList (List.replicate (2 * d) ' ')

def colon : Layout → String
  | .line => ":"
  | .indented _ => ": "

/-- Items between brackets; an empty list has no breaks. -/
def wrap (l : Layout) (start stop : String) (items : List String) : String :=
  if items.isEmpty then start ++ stop
  else start ++ l.inner.lineBreak ++ ("," ++ l.inner.lineBreak).intercalate items ++ l.lineBreak ++ stop

end Layout

mutual

def render (l : Layout) : Json → String
  | .null => "null"
  | .flag b => if b then "true" else "false"
  | .number n => toString n
  | .text s => quote s
  | .list items => l.wrap "[" "]" (renderAll l.inner items)
  | .object fields => l.wrap "\x7b" "\x7d" (renderFields l.inner fields)

def renderAll (l : Layout) : List Json → List String
  | [] => []
  | j :: rest => render l j :: renderAll l rest

def renderFields (l : Layout) : List (String × Json) → List String
  | [] => []
  | (key, j) :: rest => (quote key ++ l.colon ++ render l j) :: renderFields l rest

end

def compact (j : Json) : String := j.render .line

def pretty (j : Json) : String := j.render (.indented 0)

end Json

end ImageLoader.Report
