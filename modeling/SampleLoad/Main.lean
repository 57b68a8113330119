import Std.Time.DateTime.Timestamp
import SampleLoad.Command.Run
import SampleLoad.Web.ScriptedServer

/-!
The program. It reads its command line and environment, carries out the command, and ends with status 1 if the
command failed and with 2 if there was none. It has no network of its own: its transport reaches no server, so
that without a dry run every connection is refused.
-/

namespace SampleLoad

/-- What the system says of an error, with the number of the error. -/
def systemText : IO.Error → String
  | .noFileOrDirectory _ number text | .permissionDenied _ number text | .inappropriateType _ number text =>
    text ++ " (os error " ++ toString number ++ ")"
  | e => toString e

def readSystemFile (path : String) : IO (Except String (List UInt8)) :=
  tryCatch (do return .ok (← IO.FS.readBinFile path).toList) fun e => return .error (systemText e)

/-- The time by the clock of the system. -/
def systemTime : IO Instant := do
  let elapsed := (← Std.Time.Timestamp.now).toDurationSinceUnixEpoch
  return (Instant.ofParts? elapsed.second.val elapsed.nano.val.toNat).getD default

/-- Random numbers from a seed that the system makes up. -/
def systemSource : IO RandomSource := do
  let bytes ← IO.getRandomBytes 8
  return .ofSeed (bytes.toList.foldl (fun seed b => seed * 256 + b.toUInt64) 0)

def systemWorld : World IO where
  files := readSystemFile
  transport := .unreachable
  now := systemTime
  freshSource := systemSource

/-- The variables of the environment that stand in for options. -/
def systemEnvironment : IO (String → Option String) := do
  let names := (Command.populateSpecs).filterMap (·.environmentName?)
  let values ← names.mapM fun name => do return (name, ← IO.getEnv name)
  return fun name => (values.lookup name).join

/-- How the program is called. -/
def usageText : String :=
  let options := Command.populateSpecs.map fun spec =>
    "  --" ++ spec.name ++ (if spec.value?.isSome then " <VALUE>" else "") ++ "\n"
  "Usage: sample-load <populate|sample|templates> [OPTIONS]\n\nOptions of populate:\n" ++ String.join options

end SampleLoad

open SampleLoad

def main (arguments : List String) : IO UInt32 := do
  match Command.read (← systemEnvironment) arguments with
  | .error .displayHelp =>
    IO.print usageText
    return 0
  | .error _ =>
    IO.eprint usageText
    return 2
  | .ok command =>
    match ← systemWorld.run command with
    | .ok outcome =>
      IO.print outcome.output
      return 0
    | .error e =>
      IO.eprintln e.report
      return 1
