import SampleLoad.Number.Reader

/-!
Connection files. A file sets each of six settings at most once, by lines of the form `key = "text"`; blank
lines and comments may stand between. Keys and texts follow the grammar of TOML: a text is in double quotes
with escapes or in single quotes without, and in three of either it may go over several lines. Nothing
else that TOML knows is a connection setting, so nothing else is accepted.
-/

namespace SampleLoad

/-- Settings that a connection file gives. -/
structure ConnectionFile where
  url? : Option String := none
  cluster? : Option String := none
  database? : Option String := none
  user? : Option String := none
  password? : Option String := none
  timeout? : Option String := none
  deriving DecidableEq, Repr

namespace ConnectionFile

/-- A text read, and what follows it. -/
abbrev Scanned := Option (List Char × List Char)

def isSpace (c : Char) : Bool := c = ' ' || c = '\t'

def skipSpaces (cs : List Char) : List Char := cs.dropWhile isSpace

/-- Printable characters, tabs and everything beyond ASCII; no other control characters. -/
def isPlain (c : Char) : Bool := c = '\t' || (0x20 ≤ c.toNat && c.toNat ≠ 0x7F)

def isBareKeyChar (c : Char) : Bool := c.isAlphanum || c = '_' || c = '-'

/-- A line end: a line feed, or a carriage return before one. -/
def lineEnd? : List Char → Option (List Char)
  | '\n' :: rest | '\r' :: '\n' :: rest => some rest
  | _ => none

/-- The character whose code point is written in so many hexadecimal digits. -/
def codePoint? (digits : Nat) (cs : List Char) : Option (Char × List Char) :=
  if cs.length < digits then none
  else match (cs.take digits).foldlM (fun n c => (hexDigitValue? c).map (n * 16 + ·)) 0 with
    | none => none
    | some n => if n.isValidChar then some (Char.ofNat n, cs.drop digits) else none

/-- The character after a backslash. -/
def escape? : List Char → Option (Char × List Char)
  | 'b' :: rest => some ('\x08', rest)
  | 't' :: rest => some ('\t', rest)
  | 'n' :: rest => some ('\n', rest)
  | 'f' :: rest => some ('\x0c', rest)
  | 'r' :: rest => some ('\r', rest)
  | '"' :: rest => some ('"', rest)
  | '\\' :: rest => some ('\\', rest)
  | 'u' :: rest => codePoint? 4 rest
  | 'U' :: rest => codePoint? 8 rest
  | _ => none

/-- The rest of a text in double quotes; what was read is in reverse. -/
def basicTail : (fuel : Nat) → List Char → List Char → Scanned
  | 0, _, _ => none
  | _, _, [] => none
  | _, seen, '"' :: rest => some (seen.reverse, rest)
  | fuel + 1, seen, '\\' :: rest =>
    match escape? rest with
    | some (c, rest) => basicTail fuel (c :: seen) rest
    | none => none
  | fuel + 1, seen, c :: rest => if isPlain c then basicTail fuel (c :: seen) rest else none

/-- The rest of a text in single quotes. -/
def literalTail (cs : List Char) : Scanned :=
  let inside := cs.takeWhile (· ≠ '\'')
  match cs.dropWhile (· ≠ '\'') with
  | _ :: rest => if inside.all isPlain then some (inside, rest) else none
  | [] => none

/-- The quotes at the front, of which the last three end the text. At most two can belong to it. -/
def closing? (quote : Char) (cs : List Char) : Option (Scanned) :=
  let quotes := (cs.takeWhile (· = quote)).length
  if quotes < 3 then none
  else if 5 < quotes then some none
  else some (some (List.replicate (quotes - 3) quote, cs.drop quotes))

/-- The white space after a backslash at the end of a line, which is left out with the line end. -/
def continuation? (cs : List Char) : Option (List Char) :=
  match lineEnd? (skipSpaces cs) with
  | some rest => some (rest.dropWhile fun c => isSpace c || c = '\n' || c = '\r')
  | none => none

/-- The rest of a text over several lines; escapes count in one of double quotes. -/
def longTail (quote : Char) : (fuel : Nat) → List Char → List Char → Scanned
  | 0, _, _ => none
  | _, _, [] => none
  | fuel + 1, seen, c :: rest =>
    match closing? quote (c :: rest) with
    | some none => none
    | some (some (quotes, rest)) => some (seen.reverse ++ quotes, rest)
    | none =>
      match lineEnd? (c :: rest) with
      | some rest => longTail quote fuel ('\n' :: seen) rest
      | none =>
        if c = '\\' && quote = '"' then
          match escape? rest with
          | some (c, rest) => longTail quote fuel (c :: seen) rest
          | none =>
            match continuation? rest with
            | some rest => longTail quote fuel seen rest
            | none => none
        else if isPlain c then longTail quote fuel (c :: seen) rest
        else none

/-- A text of any form. A line end right after three quotes is left out. -/
def text? : List Char → Scanned
  | '"' :: '"' :: '"' :: rest => longTail '"' (rest.length + 1) [] ((lineEnd? rest).getD rest)
  | '\'' :: '\'' :: '\'' :: rest => longTail '\'' (rest.length + 1) [] ((lineEnd? rest).getD rest)
  | '"' :: rest => basicTail (rest.length + 1) [] rest
  | '\'' :: rest => literalTail rest
  | _ => none

/-- A key: letters, digits, underscores and hyphens, or a text of one line. -/
def key? : List Char → Scanned
  | '"' :: rest => basicTail (rest.length + 1) [] rest
  | '\'' :: rest => literalTail rest
  | cs => some (cs.takeWhile isBareKeyChar, cs.dropWhile isBareKeyChar)

/-- A key and its text. -/
def setting? (cs : List Char) : Option (String × String × List Char) := do
  let (key, rest) ← key? cs
  match skipSpaces rest with
  | '=' :: rest =>
    let (value, rest) ← text? (skipSpaces rest)
    some (.ofList key, .ofList value, rest)
  | _ => none

/-- What may stand behind a setting, or instead of one: a comment, and the end of the line. -/
def endOfLine? (cs : List Char) : Option (List Char) :=
  let cs := skipSpaces cs
  let cs := match cs with
    | '#' :: comment => comment.dropWhile isPlain
    | cs => cs
  match cs with
  | [] => some []
  | cs => lineEnd? cs

/-- Sets a setting that is not set yet. -/
def set? (file : ConnectionFile) (key value : String) : Option ConnectionFile :=
  match key with
  | "url" => if file.url?.isSome then none else some { file with url? := value }
  | "cluster" => if file.cluster?.isSome then none else some { file with cluster? := value }
  | "database" => if file.database?.isSome then none else some { file with database? := value }
  | "user" => if file.user?.isSome then none else some { file with user? := value }
  | "password" => if file.password?.isSome then none else some { file with password? := value }
  | "timeout" => if file.timeout?.isSome then none else some { file with timeout? := value }
  | _ => none

/-- Reads line by line. -/
def readLines : (fuel : Nat) → ConnectionFile → List Char → Option ConnectionFile
  | 0, _, _ => none
  | _, file, [] => some file
  | fuel + 1, file, cs =>
    match endOfLine? cs with
    | some rest => readLines fuel file rest
    | none => do
      let (key, value, rest) ← setting? (skipSpaces cs)
      let file ← file.set? key value
      readLines fuel file (← endOfLine? rest)

/-- Reads a connection file; a byte order mark in front is dropped. -/
def parse? (text : String) : Option ConnectionFile :=
  let cs := match text.toList with
    | '\ufeff' :: rest => rest
    | cs => cs
  readLines (cs.length + 1) {} cs

end ConnectionFile

end SampleLoad
