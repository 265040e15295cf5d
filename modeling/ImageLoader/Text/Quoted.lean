import ImageLoader.Text.Obscure
/-! Quoted texts and records for diagnosis: `Name` with named fields between braces. -/

namespace ImageLoader.Text

/-- A code point in braces, after `u`. -/
def codePoint (c : Char) : List Char :=
  ['\\', 'u', '\x7b'] ++ Nat.toDigits 16 c.toNat ++ ['\x7d']

def escape (c : Char) : List Char :=
  if c = '"' then ['\\', '"']
  else if c = '\\' then ['\\', '\\']
  else if c = '\n' then ['\\', 'n']
  else if c = '\r' then ['\\', 'r']
  else if c = '\t' then ['\\', 't']
  else if c = '\x00' then ['\\', '0']
  else if isObscure c then codePoint c
  else [c]

def quote (s : String) : String := String.ofList ('"' :: s.toList.flatMap escape ++ ['"'])

/-- A record text. One shown in part ends in two dots. -/
def record (name : String) (fields : List (String × String)) (shownInPart : Bool) : String :=
  let shown := fields.map fun f => f.1 ++ ": " ++ f.2
  let all := if shownInPart then shown ++ [".."] else shown
  name ++ " \x7b " ++ ", ".intercalate all ++ " \x7d"

end ImageLoader.Text
