import SampleLoad.Command.Settings
import SampleLoad.Load.Request
import SampleLoad.Store.Memory
import SampleLoad.Template.Document
import SampleLoad.Template.Listing
import SampleLoad.Web.Client

/-!
Carrying out a command. What is to be loaded is settled before any store is opened: first the templates,
then the template, then the settings of the connection, then the connection itself. A dry run loads into
memory and asks for neither settings nor connection.
-/

namespace SampleLoad

/-- What a command needs from outside: files, a way to the server, the time, and random numbers for runs
without a seed. -/
structure World (m : Type → Type) where
  files : FileReader m
  transport : WebApi.Transport m
  now : m Instant
  freshSource : m RandomSource

/-- Why a command failed. -/
inductive CommandFault where
  | load (e : LoadError)
  | settings (e : SettingsError)
  deriving DecidableEq

/-- A fault, and what was being done, from the outside in. -/
structure CommandError where
  contexts : List String := []
  fault : CommandFault
  deriving DecidableEq

namespace CommandError

/-- An error of loading on which nothing is said yet. -/
def ofLoad (e : LoadError) : CommandError := { fault := .load e }

def ofSettings (e : SettingsError) : CommandError := { fault := .settings e }

/-- Adds what was being done around everything else. -/
def within (context : String) (e : CommandError) : CommandError := { e with contexts := context :: e.contexts }

/-- The kind by which the error is reported; faults in settings have none. -/
def kind? (e : CommandError) : Option String :=
  match e.fault with
  | .load e => some e.kind
  | .settings _ => none

/-- The messages from the outside in. -/
def chain (e : CommandError) : List String :=
  e.contexts ++ match e.fault with
    | .load e => e.chain
    | .settings e => e.chain

/-- All messages in one line. -/
def message (e : CommandError) : String := ": ".intercalate e.chain

/-- What the user is told. -/
def report (e : CommandError) : String :=
  match e.kind? with
  | some kind => "Error (" ++ kind ++ "): " ++ e.message
  | none => "Error: " ++ e.message

end CommandError

/-- What a command did. -/
inductive CommandOutcome where
  | populated (metrics : Metrics)
  | sampled (runs : List (Builtin × Metrics))
  | listed (listing : String)
  deriving DecidableEq

/-- What a command writes when it succeeds: only a listing is asked for. -/
def CommandOutcome.output : CommandOutcome → String
  | listed listing => listing
  | _ => ""

/-- A run of a request, with the options of the command. -/
def LoadRequest.run {m : Type → Type} [Monad m] (request : LoadRequest) (pipeline : Pipeline)
    (options : CommonOptions) (store : ContainerStore m) : m (Except CommandError Metrics) := do
  match ← (pipeline.withOptions options).run store request.container request.schema request.rowCount with
  | .ok metrics => pure (.ok metrics)
  | .error e =>
    pure (.error ((CommandError.ofLoad e).within ("Failed to populate container '" ++ request.container ++ "'")))

namespace World

variable {m : Type → Type} [Monad m]

/-- The built-in templates, and those of a file. -/
def registry (world : World m) (templatesFile? : Option String) : m (Except CommandError Registry) := do
  match templatesFile? with
  | none => pure (.ok .builtin)
  | some path =>
    match ← Registry.builtin.registerFile world.files path with
    | .ok (_, registry) => pure (.ok registry)
    | .error e =>
      pure (.error ((CommandError.ofLoad (.schema e)).within
        ("Failed to load templates from " ++ Quoted.path path)))

/-- What is to be loaded, settled from a registry. -/
def request (registry : Registry) (arguments : PopulateArguments) : Except CommandError LoadRequest :=
  match LoadRequest.resolve registry arguments.template arguments.container? arguments.rowCount? with
  | .ok request => .ok request
  | .error e =>
    .error ((CommandError.ofLoad (.schema e)).within
      ("Failed to resolve template '" ++ arguments.template ++ "'"))

/-- A pipeline that starts now. -/
def pipeline (world : World m) : m Pipeline := do
  let now ← world.now
  let source ← world.freshSource
  pure (.new now source)

/-- Settles the settings and connects to the server. -/
def connect (world : World m) (connection : ConnectionArguments) : m (Except CommandError WebApi.Session) := do
  match ← connection.resolve world.files with
  | .error e => pure (.error (.ofSettings e))
  | .ok config =>
    match ← WebApi.connect world.transport config with
    | .ok session => pure (.ok session)
    | .error e =>
      pure (.error ((CommandError.ofLoad (.connection e)).within "Failed to connect to GridDB"))

/-- Opens a store and loads into it; `context?` is what a failure is reported with once the store is open. -/
def load (world : World m) (common : CommonOptions) (connection : ConnectionArguments)
    (request : LoadRequest) (context? : Option String := none) : m (Except CommandError Metrics) := do
  let within (result : Except CommandError Metrics) : Except CommandError Metrics :=
    match context? with
    | some context => result.mapError (·.within context)
    | none => result
  if common.dryRun then
    let pipeline ← world.pipeline
    pure (within ((request.run pipeline common memoryStore).run {}).1)
  else
    match ← world.connect connection with
    | .error e => pure (.error e)
    | .ok session =>
      let pipeline ← world.pipeline
      let (result, _) ← (request.run pipeline common (webStore world.transport)).run session
      pure (within result)

/-- Loads one container. -/
def populate (world : World m) (arguments : PopulateArguments) : m (Except CommandError Metrics) := do
  match ← world.registry arguments.templatesFile? with
  | .error e => pure (.error e)
  | .ok registry =>
    match request registry arguments with
    | .error e => pure (.error e)
    | .ok request => world.load arguments.common arguments.connection request

/-- Loads the containers of some built-in templates, up to the first failure. -/
def sampleFrom (world : World m) (arguments : SampleArguments) :
    List Builtin → m (Except CommandError (List (Builtin × Metrics)))
  | [] => pure (.ok [])
  | b :: rest => do
    match LoadRequest.resolve .builtin b.id none none with
    | .error e => pure (.error (.ofLoad (.schema e)))
    | .ok request =>
      match ← world.load arguments.common arguments.connection request (some ("Sample run '" ++ b.id ++ "' failed")) with
      | .error e => pure (.error e)
      | .ok metrics =>
        match ← world.sampleFrom arguments rest with
        | .error e => pure (.error e)
        | .ok runs => pure (.ok ((b, metrics) :: runs))

/-- Loads the containers of all built-in templates. -/
def sample (world : World m) (arguments : SampleArguments) :
    m (Except CommandError (List (Builtin × Metrics))) :=
  world.sampleFrom arguments Builtin.all

/-- Lists the templates. -/
def list (world : World m) (arguments : TemplatesArguments) : m (Except CommandError String) := do
  match ← world.registry arguments.templatesFile? with
  | .error e => pure (.error e)
  | .ok registry => pure (.ok registry.listing)

/-- Carries out a command. -/
def run (world : World m) (command : Command) : m (Except CommandError CommandOutcome) := do
  match command with
  | .populate arguments => return (← world.populate arguments).map .populated
  | .sample arguments => return (← world.sample arguments).map .sampled
  | .templates arguments => return (← world.list arguments).map .listed

end World

end SampleLoad
