import SampleLoad.Json.Basic
import SampleLoad.Number.Reader

/-!
Reading JSON text. Whole numbers are those written without a point and without an exponent that fit in
64 bits; `-0` is the negative zero and so a floating point number. A key that comes twice keeps its place
and takes the later value.
-/

namespace SampleLoad.Json.Reader

/-- A taker takes a value off the front of the text. -/
abbrev Taker (α : Type) := List Char → Option (α × List Char)

def isBlank (c : Char) : Bool := c = ' ' || c = '\t' || c = '\n' || c = '\r'

def skipBlanks (cs : List Char) : List Char := cs.dropWhile isBlank

/-- Four hexadecimal digits. -/
def unit16 : Taker Nat
  | a :: b :: c :: d :: rest => do
    let a ← hexDigitValue? a
    let b ← hexDigitValue? b
    let c ← hexDigitValue? c
    let d ← hexDigitValue? d
    some (((a * 16 + b) * 16 + c) * 16 + d, rest)
  | _ => none

/-- The character written by a unit and, if it is the first of a pair, the unit after it. -/
def escapedCodePoint (cs : List Char) : Option (Char × List Char) := do
  let (high, rest) ← unit16 cs
  if 0xD800 ≤ high && high < 0xDC00 then
    match rest with
    | '\\' :: 'u' :: rest =>
      let (low, rest) ← unit16 rest
      if 0xDC00 ≤ low && low < 0xE000 then
        some (Char.ofNat (0x10000 + (high - 0xD800) * 0x400 + (low - 0xDC00)), rest)
      else none
    | _ => none
  else if 0xDC00 ≤ high && high < 0xE000 then none
  else some (Char.ofNat high, rest)

/-- What follows the opening quote of a string; the characters read so far are in reverse. -/
def stringTail : (fuel : Nat) → List Char → Taker String
  | 0, _, _ => none
  | _, _, [] => none
  | _, seen, '"' :: rest => some (String.ofList seen.reverse, rest)
  | fuel + 1, seen, '\\' :: c :: rest =>
    match c with
    | '"' | '\\' | '/' => stringTail fuel (c :: seen) rest
    | 'b' => stringTail fuel ('\x08' :: seen) rest
    | 'f' => stringTail fuel ('\x0c' :: seen) rest
    | 'n' => stringTail fuel ('\n' :: seen) rest
    | 'r' => stringTail fuel ('\r' :: seen) rest
    | 't' => stringTail fuel ('\t' :: seen) rest
    | 'u' =>
      match escapedCodePoint rest with
      | some (c, rest) => stringTail fuel (c :: seen) rest
      | none => none
    | _ => none
  | fuel + 1, seen, c :: rest => if c.toNat < 32 then none else stringTail fuel (c :: seen) rest

/-- The value of a run of digits. -/
def digitsValue (ds : List Char) : Nat := ds.foldl (fun n c => n * 10 + (c.toNat - 48)) 0

/-- The digits after a point, at least one. -/
def fractionDigits : Taker (List Char)
  | '.' :: rest =>
    let ds := rest.takeWhile Char.isDigit
    if ds.isEmpty then none else some (ds, rest.dropWhile Char.isDigit)
  | cs => some ([], cs)

/-- A decimal exponent. -/
def exponent (cs : List Char) : Option (Option Int × List Char) :=
  match cs with
  | c :: rest =>
    if c = 'e' || c = 'E' then
      let (negative, rest) := match rest with
        | '-' :: rest => (true, rest)
        | '+' :: rest => (false, rest)
        | rest => (false, rest)
      let ds := rest.takeWhile Char.isDigit
      if ds.isEmpty then none
      else
        let n : Int := digitsValue ds
        some (some (if negative then -n else n), rest.dropWhile Char.isDigit)
    else some (none, cs)
  | [] => some (none, [])

/-- The floating point number nearest to a decimal. -/
def nearestDouble (negative : Bool) (significand : Nat) (exp : Int) : Double :=
  let magnitude := Float.ofScientific significand (exp < 0) exp.natAbs
  ⟨(if negative then -magnitude else magnitude).toBits⟩

/-- A number. -/
def number (cs : List Char) : Option (Json × List Char) := do
  let (negative, cs) := match cs with
    | '-' :: rest => (true, rest)
    | cs => (false, cs)
  let ds := cs.takeWhile Char.isDigit
  let rest := cs.dropWhile Char.isDigit
  if ds.isEmpty || (1 < ds.length && ds.head? = some '0') then none
  else
    let (fraction, rest) ← fractionDigits rest
    let (exp, rest) ← exponent rest
    let n := digitsValue ds
    if fraction.isEmpty && exp.isNone && (if negative then 0 < n && n ≤ signedLimit else n < wordLimit) then
      some (whole (if negative then -(n : Int) else n), rest)
    else
      let d := nearestDouble negative (digitsValue (ds ++ fraction)) (exp.getD 0 - fraction.length)
      if d.isFinite then some (float d, rest) else none

/-- Puts a member into an object whose keys are distinct. -/
def putMember (key : String) (value : Json) (members : List (String × Json)) : List (String × Json) :=
  if members.any (·.1 = key) then members.map fun m => if m.1 = key then (key, value) else m
  else members ++ [(key, value)]

/-- A fixed word. -/
def word (w : String) (value : Json) (cs : List Char) : Option (Json × List Char) :=
  if w.toList.isPrefixOf cs then some (value, cs.drop w.length) else none

mutual

/-- A value; `fuel` bounds the nesting and the number of items. -/
def value : (fuel : Nat) → Taker Json
  | 0, _ => none
  | fuel + 1, cs =>
    match skipBlanks cs with
    | '"' :: rest => (stringTail (rest.length + 1) [] rest).map fun (s, rest) => (str s, rest)
    | '[' :: rest =>
      match skipBlanks rest with
      | ']' :: rest => some (arr [], rest)
      | rest => items fuel [] rest
    | '\x7b' :: rest =>
      match skipBlanks rest with
      | '\x7d' :: rest => some (obj [], rest)
      | rest => members fuel [] rest
    | cs@('t' :: _) => word "true" (bool true) cs
    | cs@('f' :: _) => word "false" (bool false) cs
    | cs@('n' :: _) => word "null" null cs
    | cs => number cs

/-- The items of an array from the next one on; those read so far are in reverse. -/
def items : (fuel : Nat) → List Json → Taker Json
  | 0, _, _ => none
  | fuel + 1, seen, cs =>
    match value fuel cs with
    | none => none
    | some (item, rest) =>
      match skipBlanks rest with
      | ',' :: rest => items fuel (item :: seen) rest
      | ']' :: rest => some (arr (item :: seen).reverse, rest)
      | _ => none

/-- The members of an object from the next one on. -/
def members : (fuel : Nat) → List (String × Json) → Taker Json
  | 0, _, _ => none
  | fuel + 1, seen, cs =>
    match skipBlanks cs with
    | '"' :: rest =>
      match stringTail (rest.length + 1) [] rest with
      | none => none
      | some (key, rest) =>
        match skipBlanks rest with
        | ':' :: rest =>
          match value fuel rest with
          | none => none
          | some (item, rest) =>
            match skipBlanks rest with
            | ',' :: rest => members fuel (putMember key item seen) rest
            | '\x7d' :: rest => some (obj (putMember key item seen), rest)
            | _ => none
        | _ => none
    | _ => none

end

end SampleLoad.Json.Reader

namespace SampleLoad.Json

/-- The value that a text holds, with nothing but blanks around it. -/
def parse? (text : String) : Option Json := do
  let cs := text.toList
  let (j, rest) ← Reader.value (2 * cs.length + 2) cs
  if (Reader.skipBlanks rest).isEmpty then some j else none

end SampleLoad.Json
