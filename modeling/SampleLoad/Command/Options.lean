import SampleLoad.Number.Reader

/-!
Reading command lines. Options have long names only; a value stands behind an equals sign or is the next
argument, which then must not start with a hyphen. An option may be given once. Values are checked when
the next option or the end is reached, but an argument that means nothing is refused before that.
-/

namespace SampleLoad

/-- What an option's value must be. -/
inductive ValueKind where
  | text
  /-- A text that is not empty. -/
  | path
  /-- A 64-bit number. -/
  | number
  /-- A 64-bit number that is not zero. -/
  | positive
  /-- A signed 64-bit number. -/
  | signed
  deriving DecidableEq, Repr

/-- An option: its name without the hyphens, its value if it takes one, and the environment variable that
stands in for it. -/
structure OptionSpec where
  name : String
  value? : Option ValueKind
  environmentName? : Option String := none
  isRequired : Bool := false
  deriving DecidableEq, Repr

/-- Why a command line is refused. Asking for help is also no command to run. -/
inductive UsageError where
  | unknownArgument
  | invalidValue
  | valueValidation
  | argumentConflict
  | tooManyValues
  | missingRequiredArgument
  | displayHelp
  | missingSubcommand
  | invalidSubcommand
  deriving DecidableEq, Repr

namespace ValueKind

/-- Checks a value. -/
def check (kind : ValueKind) (value : String) : Except UsageError Unit :=
  let require (ok : Bool) (e : UsageError) : Except UsageError Unit := if ok then .ok () else .error e
  match kind with
  | text => .ok ()
  | path => require (value ≠ "") .invalidValue
  | number => require (readNat wordLimit value.toList).toOption.isSome .valueValidation
  | positive =>
    require ((readNat wordLimit value.toList).toOption.any (0 < ·)) .valueValidation
  | signed => require (readInt? signedLimit value.toList).isSome .valueValidation

end ValueKind

/-- The options given so far with their values; a flag has the empty value. -/
abbrev GivenOptions := List (String × String)

namespace OptionSpec

/-- The state of reading: what is settled, and an option whose value is still to come or to be checked. -/
structure Progress where
  given : GivenOptions := []
  pending? : Option (OptionSpec × Option String) := none
  /-- All arguments from here on are operands. -/
  trailing : Bool := false

/-- Settles an option, which must be new and have a proper value. -/
def settle (given : GivenOptions) (spec : OptionSpec) (value : String) : Except UsageError GivenOptions := do
  if given.any (·.1 = spec.name) then throw .argumentConflict
  match spec.value? with
  | none => pure ()
  | some kind => kind.check value
  return (spec.name, value) :: given

/-- Settles the option that is waiting, if there is one. -/
def settlePending (p : Progress) : Except UsageError Progress :=
  match p.pending? with
  | none => .ok p
  | some (_, none) => .error .invalidValue
  | some (spec, some value) => do return { p with given := ← settle p.given spec value, pending? := none }

/-- A long option with its name and, behind an equals sign, its value. -/
def readLong (specs : List OptionSpec) (p : Progress) (name : String) (attached? : Option String) :
    Except UsageError Progress :=
  if name = "help" then
    if attached?.isSome then .error .tooManyValues
    else do let _ ← settlePending p; throw .displayHelp
  else match specs.find? (·.name = name) with
    | none => .error .unknownArgument
    | some spec =>
      match spec.value?, attached? with
      | none, some _ => .error .tooManyValues
      | none, none => do
        let p ← settlePending p
        return { p with given := ← settle p.given spec "" }
      | some _, some value => do
        let p ← settlePending p
        return { p with given := ← settle p.given spec value }
      | some _, none => do
        let p ← settlePending p
        return { p with pending? := some (spec, none) }

/-- Splits at the first equals sign. -/
def splitValue (cs : List Char) : String × Option String :=
  (String.ofList (cs.takeWhile (· ≠ '=')),
    match cs.dropWhile (· ≠ '=') with
    | _ :: value => some (String.ofList value)
    | [] => none)

/-- Reads one argument. -/
def readArgument (specs : List OptionSpec) (p : Progress) (argument : String) : Except UsageError Progress :=
  if p.trailing then .error .unknownArgument
  else match argument.toList with
    | ['-', '-'] => .ok { p with trailing := true }
    | '-' :: '-' :: long =>
      let (name, attached?) := splitValue long
      readLong specs p name attached?
    | '-' :: 'h' :: _ => do let _ ← settlePending p; throw .displayHelp
    | '-' :: _ :: _ => .error .unknownArgument
    | _ =>
      match p.pending? with
      | some (spec, none) => .ok { p with pending? := some (spec, some argument) }
      | _ => .error .unknownArgument

/-- Adds the options that the environment stands in for. -/
def withEnvironment (specs : List OptionSpec) (environment : String → Option String) (given : GivenOptions) :
    GivenOptions :=
  specs.foldl (fun given spec =>
    if given.any (·.1 = spec.name) then given
    else match spec.environmentName?.bind environment with
      | some value => (spec.name, value) :: given
      | none => given) given

/-- Reads a command line. -/
def readAll (specs : List OptionSpec) (environment : String → Option String) (arguments : List String) :
    Except UsageError GivenOptions := do
  let p ← arguments.foldlM (readArgument specs) {}
  let p ← settlePending p
  let given := withEnvironment specs environment p.given
  if specs.any fun spec => spec.isRequired && !given.any (·.1 = spec.name) then
    throw .missingRequiredArgument
  return given

end OptionSpec

end SampleLoad
