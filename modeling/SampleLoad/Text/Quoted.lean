import SampleLoad.Text.Printable

/-!
Texts between double quotes, with escapes for what would not be seen: the backslash, the quote, tab,
line feed, carriage return and NUL have escapes of one letter; other characters without a picture, and
those that extend the one before them, are written by their code point in braces.
-/

namespace SampleLoad.Quoted

/-- A code point in braces, in lower-case hexadecimal. -/
def codePointEscape (c : Char) : List Char :=
  ['\\', 'u', '\x7b'] ++ Nat.toDigits 16 c.toNat ++ ['\x7d']

/-- One character inside the quotes. -/
def escapeChar (c : Char) : List Char :=
  if c = '\x00' then ['\\', '0']
  else if c = '\t' then ['\\', 't']
  else if c = '\r' then ['\\', 'r']
  else if c = '\n' then ['\\', 'n']
  else if c = '\\' then ['\\', '\\']
  else if c = '"' then ['\\', '"']
  else if isGraphemeExtend c || !isPrintable c then codePointEscape c
  else [c]

/-- A text in quotes. -/
def text (s : String) : String :=
  String.ofList ('"' :: s.toList.flatMap escapeChar ++ ['"'])

/-- A file path in quotes; an apostrophe is escaped as well. -/
def path (s : String) : String :=
  String.ofList
    ('"' :: s.toList.flatMap (fun c => if c = '\'' then ['\\', '\''] else escapeChar c) ++ ['"'])

end SampleLoad.Quoted
