import SampleLoad.Command.Arguments
import SampleLoad.Command.ConnectionFile
import SampleLoad.Text.FileReader
import SampleLoad.Web.Config

/-!
Settling the connection. Each setting comes from the first source that has it: the arguments, then the
connection file, then the default.
-/

namespace SampleLoad

/-- Why the settings of a connection cannot be settled. -/
inductive SettingsError where
  | unreadable (path text : String)
  | malformed (path : String)
  | timeout (raw : String) (e : DurationError)
  deriving DecidableEq

namespace SettingsError

/-- What is said of a connection file that is none. -/
def malformedText : String := "Invalid connection file"

/-- The messages from the outside in. -/
def chain : SettingsError → List String
  | unreadable path text => ["Failed to read connection file " ++ Quoted.path path, text]
  | malformed path => ["Failed to parse " ++ Quoted.path path, malformedText]
  | timeout raw e => ("Invalid timeout '" ++ raw ++ "'") :: e.chain

end SettingsError

namespace ConnectionArguments

/-- The timeout from the first source that has one. -/
def timeout (arguments : ConnectionArguments) (file : ConnectionFile) (default : Duration) :
    Except SettingsError Duration :=
  match arguments.timeout? <|> file.timeout? with
  | none => .ok default
  | some raw =>
    match Duration.parse raw with
    | .error e => .error (.timeout raw e)
    | .ok d => .ok d

/-- The settings from arguments, file and defaults, in this order of precedence. -/
def merge (arguments : ConnectionArguments) (file : ConnectionFile) : Except SettingsError WebApiConfig :=
  let defaults : WebApiConfig := {}
  let pick (argument? inFile? : Option String) (default : String) : String :=
    (argument? <|> inFile?).getD default
  match arguments.timeout file defaults.timeout with
  | .error e => .error e
  | .ok timeout =>
    .ok {
      url := pick arguments.url? file.url? defaults.url
      cluster := pick arguments.cluster? file.cluster? defaults.cluster
      database := pick arguments.database? file.database? defaults.database
      user := pick arguments.user? file.user? defaults.user
      password := pick arguments.password? file.password? defaults.password
      timeout }

variable {m : Type → Type} [Monad m]

/-- The connection file that the arguments name; an empty one if they name none. -/
def readFile (files : FileReader m) (arguments : ConnectionArguments) :
    m (Except SettingsError ConnectionFile) := do
  match arguments.configFile? with
  | none => pure (.ok {})
  | some path =>
    match ← files.text path with
    | .error text => pure (.error (.unreadable path text))
    | .ok text =>
      match ConnectionFile.parse? text with
      | none => pure (.error (.malformed path))
      | some file => pure (.ok file)

/-- Settles the settings, reading the connection file if there is one. -/
def resolve (files : FileReader m) (arguments : ConnectionArguments) :
    m (Except SettingsError WebApiConfig) := do
  match ← arguments.readFile files with
  | .error e => pure (.error e)
  | .ok file => pure (arguments.merge file)

end ConnectionArguments

end SampleLoad
