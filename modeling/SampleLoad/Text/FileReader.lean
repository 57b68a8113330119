import SampleLoad.Text.Utf8

/-!
Files, read as a whole. How a path leads to bytes is left to the monad; a file that is to be a text must be
UTF-8.
-/

namespace SampleLoad

/-- Reads a whole file: its bytes, or what the system says is wrong. -/
def FileReader (m : Type → Type) : Type := String → m (Except String (List UInt8))

/-- What is said of bytes that are no text. -/
def notUtf8Text : String := "stream did not contain valid UTF-8"

/-- The text that bytes stand for. -/
def textOfBytes (bytes : List UInt8) : Except String String :=
  match Utf8.decode? bytes with
  | some text => .ok text
  | none => .error notUtf8Text

/-- The text of a file. -/
def FileReader.text {m : Type → Type} [Monad m] (files : FileReader m) (path : String) :
    m (Except String String) := do
  match ← files path with
  | .error e => pure (.error e)
  | .ok bytes => pure (textOfBytes bytes)

end SampleLoad
