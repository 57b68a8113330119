import SampleLoad.Schema.Json
import SampleLoad.Template.Entry
import SampleLoad.Text.FileReader
import SampleLoad.Yaml.Composition
import SampleLoad.Yaml.Field

/-!
Template documents: YAML with a list of entries under `templates`. Keys that an entry does not know are
ignored. A strategy is a mapping with its name under `type`, or a list with its name in front; its parameters
are of the type that they show by themselves, so that a number is no text there.
-/

namespace SampleLoad.TemplateDocument

open Yaml

variable (d : Document)

/-- The depth left for the parameters of a strategy, which is the sixth collection from the outside. -/
def parameterDepth : Nat := nestingLimit - 6

/-- A value as a parameter. -/
def parameter : Untyped → Parameter
  | .nat n => .whole n
  | .negative n => .whole (-n)
  | .text s => .text s
  | _ => .other

/-- The parameter that a key means: one by name, or by its place among the names. Other keys mean none, but a
key must be a text or a place. -/
def parameterName? (names : List String) : Untyped → Option (Option String)
  | .text name => some (if name ∈ names then some name else none)
  | .nat n => some names[n]?
  | _ => none

/-- The strategy with a name whose parameters are given by keys. Without parameters, keys mean nothing. -/
def strategyOfEntries? (tag : String) (entries : List (Untyped × Untyped)) : Option Strategy := do
  let names ← Strategy.parameterNames? tag
  if names = [] then Strategy.ofParameters? tag fun _ => none
  else
    let named ← entries.mapM fun (key, value) => do return (← parameterName? names key, parameter value)
    let known := named.filterMap fun (name?, value) => name?.map fun name => (name, value)
    if (known.map (·.1)).Nodup then Strategy.ofParameters? tag fun name => known.lookup name else none

/-- The strategy with a name whose parameters are given in order. -/
def strategyOfItems? (tag : String) (items : List Untyped) : Option Strategy := do
  let names ← Strategy.parameterNames? tag
  if names.length < items.length then none
  else Strategy.ofParameters? tag fun name => (items[names.idxOf name]?).map parameter

/-- Reads the entries of a strategy: its name, and what else there is. -/
def readStrategyEntries : List (Node × Node) → Reading (List String × List (Untyped × Untyped))
  | [] => return ([], [])
  | (key, value) :: rest => do
    match ← Untyped.ofNode d parameterDepth key with
    | .text "type" =>
      let tag ← text d value
      let (tags, others) ← readStrategyEntries rest
      return (tag :: tags, others)
    | key =>
      let value ← Untyped.ofNode d parameterDepth value
      let (tags, others) ← readStrategyEntries rest
      return (tags, (key, value) :: others)

def strategy (node : Node) : Reading Strategy := do
  match ← follow d node with
  | .mapping tag? entries =>
    if (Tag.localName? tag?).isSome then failure
    match ← readStrategyEntries d entries with
    | ([tag], others) => (strategyOfEntries? tag others : Option Strategy)
    | _ => failure
  | .sequence tag? (first :: rest) =>
    if (Tag.localName? tag?).isSome then failure
    let tag ← text d first
    let items ← rest.mapM (Untyped.ofNode d parameterDepth)
    (strategyOfItems? tag items : Option Strategy)
  | _ => failure

def column (node : Node) : Reading ColumnEntry := do
  let fields ← fields d ["name", "type", "key", "strategy"] node
  let name ← text d (← required fields "name")
  let type ← text d (← required fields "type")
  let isKey ← match fields.lookup "key" with
    | some node => flag d node
    | none => pure false
  let strategy? ← match fields.lookup "strategy" with
    | some node => do (← optional d node).mapM (strategy d)
    | none => pure none
  return { name, type, isKey, strategy? }

def entry (node : Node) : Reading TemplateEntry := do
  let fields ← fields d ["id", "container", "row_count", "kind", "columns"] node
  let id ← text d (← required fields "id")
  let container? ← match fields.lookup "container" with
    | some node => do (← optional d node).mapM (text d)
    | none => pure none
  let rowCount ← match fields.lookup "row_count" with
    | some node => natBelow d wordLimit node
    | none => pure 1000
  let kind ← (ContainerKind.ofTag? (← choice d (← required fields "kind")) : Option ContainerKind)
  let columns ← (← items d (← required fields "columns")).mapM (column d)
  return { id, container?, rowCount, kind, columns }

/-- The entries of a document. -/
def entries : Reading (List TemplateEntry) := do
  let fields ← fields d ["templates"] d.root
  (← items d (← required fields "templates")).mapM (entry d)

/-- Reads the entries in a text. -/
def parse? (text : String) : Option (List TemplateEntry) :=
  (Document.parse? text).bind fun d => d.read (entries d)

end TemplateDocument

namespace Registry

/-- Submits the templates in a text, of which all are registered or none. The answer is their number or what is
wrong; beside it stands the registry as it is then. -/
def submitText (r : Registry) (text : String) : Except SchemaError Nat × Registry :=
  match TemplateDocument.parse? text with
  | none => (.error .malformed, r)
  | some entries => r.registerEntries entries

/-- Submits the templates in a file. -/
def submitFile {m : Type → Type} [Monad m] (r : Registry) (files : FileReader m) (path : String) :
    m (Except SchemaError Nat × Registry) := do
  match ← files.text path with
  | .error text => pure (.error (.unreadable text), r)
  | .ok text => pure (r.submitText text)

/-- What a submission comes to for those who go on only if it was accepted. -/
def ifAccepted : Except SchemaError Nat × Registry → Except SchemaError (Nat × Registry)
  | (.error fault, _) => .error fault
  | (.ok count, r) => .ok (count, r)

/-- Registers the templates in a text and gives their number. -/
def registerText (r : Registry) (text : String) : Except SchemaError (Nat × Registry) :=
  ifAccepted (r.submitText text)

/-- Registers the templates in a file and gives their number. -/
def registerFile {m : Type → Type} [Monad m] (r : Registry) (files : FileReader m) (path : String) :
    m (Except SchemaError (Nat × Registry)) := do
  return ifAccepted (← r.submitFile files path)

end Registry

end SampleLoad
