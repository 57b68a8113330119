import SampleLoad.Json.Basic
import SampleLoad.Number.Shortest

/-!
The compact text of a JSON value: no blanks, members in order. Control characters are escaped, by a
letter where JSON has one; everything else stands as it is.
-/

namespace SampleLoad.Json

/-- A digit of lower-case hexadecimal. -/
def hexDigit (n : Nat) : Char := Nat.digitChar (n % 16)

/-- One character inside a string. -/
def escapeChar (c : Char) : List Char :=
  if c = '"' then ['\\', '"']
  else if c = '\\' then ['\\', '\\']
  else if c = '\x08' then ['\\', 'b']
  else if c = '\x0c' then ['\\', 'f']
  else if c = '\n' then ['\\', 'n']
  else if c = '\r' then ['\\', 'r']
  else if c = '\t' then ['\\', 't']
  else if c.toNat < 32 then ['\\', 'u', '0', '0', hexDigit (c.toNat / 16), hexDigit c.toNat]
  else [c]

def quote (s : String) : String := String.ofList ('"' :: s.toList.flatMap escapeChar ++ ['"'])

mutual

/-- The text of a value. A number that is not finite has no text of its own and is written as null. -/
def print : Json → String
  | null => "null"
  | bool b => if b then "true" else "false"
  | whole n => toString n
  | float d => if d.isFinite then d.decimalText else "null"
  | str s => quote s
  | arr items => "[" ++ ",".intercalate (itemTexts items) ++ "]"
  | obj members => "\x7b" ++ ",".intercalate (memberTexts members) ++ "\x7d"

def itemTexts : List Json → List String
  | [] => []
  | item :: rest => item.print :: itemTexts rest

def memberTexts : List (String × Json) → List String
  | [] => []
  | (key, value) :: rest => (quote key ++ ":" ++ value.print) :: memberTexts rest

end

end SampleLoad.Json
