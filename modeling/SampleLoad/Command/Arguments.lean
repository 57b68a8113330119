import SampleLoad.Command.Options
import SampleLoad.Load.Pipeline

/-!
The arguments of the commands. All loading commands share options for grouping and seeding rows and for the
connection; a connection setting that is not among the arguments may come from the environment.
-/

namespace SampleLoad

/-- Connection settings from arguments and environment. -/
structure ConnectionArguments where
  url? : Option String := none
  cluster? : Option String := none
  database? : Option String := none
  user? : Option String := none
  password? : Option String := none
  timeout? : Option String := none
  /-- The path of a connection file. -/
  configFile? : Option String := none
  deriving DecidableEq, Repr

/-- Arguments for loading one container. -/
structure PopulateArguments where
  template : String
  container? : Option String := none
  rowCount? : Option Nat := none
  templatesFile? : Option String := none
  common : CommonOptions := {}
  connection : ConnectionArguments := {}
  deriving DecidableEq

/-- Arguments for the sample run of every built-in template. -/
structure SampleArguments where
  common : CommonOptions := {}
  connection : ConnectionArguments := {}
  deriving DecidableEq

/-- Arguments for listing the templates. -/
structure TemplatesArguments where
  templatesFile? : Option String := none
  deriving DecidableEq, Repr

/-- What a command line asks for. -/
inductive Command where
  | populate (arguments : PopulateArguments)
  | sample (arguments : SampleArguments)
  | templates (arguments : TemplatesArguments)
  deriving DecidableEq

namespace GivenOptions

def text? (given : GivenOptions) (name : String) : Option String := given.lookup name

def number? (given : GivenOptions) (name : String) : Option Nat :=
  (given.text? name).bind fun value => (readNat wordLimit value.toList).toOption

end GivenOptions

namespace CommonOptions

def specs : List OptionSpec :=
  [⟨"batch-size", some .positive, none, false⟩, ⟨"seed", some .number, none, false⟩,
    ⟨"decrease-unit-ms", some .signed, none, false⟩, ⟨"dry-run", none, none, false⟩]

/-- The options among those given, and the defaults of the others. -/
def ofGiven (given : GivenOptions) : CommonOptions :=
  { batchSize := ((given.number? "batch-size").bind Capacity.ofNat?).getD .default
    seed? := (given.number? "seed").map UInt64.ofNat
    decreaseUnitMillis :=
      ((given.text? "decrease-unit-ms").bind fun value => readInt? signedLimit value.toList).getD
        RowGenerator.defaultStepMillis
    dryRun := (given.text? "dry-run").isSome }

end CommonOptions

namespace ConnectionArguments

def specs : List OptionSpec :=
  [⟨"griddb-url", some .text, some "GRIDDB_URL", false⟩, ⟨"cluster", some .text, some "GRIDDB_CLUSTER", false⟩,
    ⟨"database", some .text, some "GRIDDB_DATABASE", false⟩, ⟨"user", some .text, some "GRIDDB_USER", false⟩,
    ⟨"password", some .text, some "GRIDDB_PASSWORD", false⟩, ⟨"timeout", some .text, none, false⟩,
    ⟨"config", some .path, none, false⟩]

def ofGiven (given : GivenOptions) : ConnectionArguments :=
  { url? := given.text? "griddb-url"
    cluster? := given.text? "cluster"
    database? := given.text? "database"
    user? := given.text? "user"
    password? := given.text? "password"
    timeout? := given.text? "timeout"
    configFile? := given.text? "config" }

end ConnectionArguments

namespace Command

def templatesFileSpec : OptionSpec := ⟨"templates-file", some .path, none, false⟩

def populateSpecs : List OptionSpec :=
  [⟨"template", some .text, none, true⟩, ⟨"container", some .text, none, false⟩,
    ⟨"row-count", some .number, none, false⟩, templatesFileSpec] ++
    CommonOptions.specs ++ ConnectionArguments.specs

def readPopulate (environment : String → Option String) (arguments : List String) :
    Except UsageError PopulateArguments := do
  let given ← OptionSpec.readAll populateSpecs environment arguments
  return {
    template := (given.text? "template").getD ""
    container? := given.text? "container"
    rowCount? := given.number? "row-count"
    templatesFile? := given.text? "templates-file"
    common := .ofGiven given
    connection := .ofGiven given }

def readSample (environment : String → Option String) (arguments : List String) :
    Except UsageError SampleArguments := do
  let given ← OptionSpec.readAll (CommonOptions.specs ++ ConnectionArguments.specs) environment arguments
  return { common := .ofGiven given, connection := .ofGiven given }

def readTemplates (environment : String → Option String) (arguments : List String) :
    Except UsageError TemplatesArguments := do
  let given ← OptionSpec.readAll [templatesFileSpec] environment arguments
  return { templatesFile? := given.text? "templates-file" }

/-- Reads a whole command line, which starts with the name of a command. -/
def read (environment : String → Option String) (arguments : List String) : Except UsageError Command :=
  match arguments with
  | [] => .error .missingSubcommand
  | "populate" :: rest => populate <$> readPopulate environment rest
  | "sample" :: rest => sample <$> readSample environment rest
  | "templates" :: rest => templates <$> readTemplates environment rest
  | first :: _ =>
    if first = "help" || first = "--help" || "-h".toList.isPrefixOf first.toList then .error .displayHelp
    else if first = "--" || "-".toList.isPrefixOf first.toList then .error .unknownArgument
    else .error .invalidSubcommand

end Command

end SampleLoad
