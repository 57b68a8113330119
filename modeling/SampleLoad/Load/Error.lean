import SampleLoad.Generate.RowGenerator
import SampleLoad.Load.Buffer
import SampleLoad.Store.Basic

/-!
What ends a run early. Every error has a kind, by which it is reported, and a chain of messages from the
error itself down to its causes.
-/

namespace SampleLoad

inductive LoadError where
  | schema (e : SchemaError)
  | generator (e : GeneratorError)
  /-- The container could not be created or reset. -/
  | provision (container : String) (source : StoreError)
  /-- A batch, counted from one, was not written. -/
  | write (container : String) (batch : Nat) (source : StoreError)
  /-- The store could not be reached or not be closed. -/
  | connection (source : StoreError)
  | buffer (e : BufferFull)
  deriving DecidableEq

namespace LoadError

def kind : LoadError → String
  | schema (.unknownTemplate _) => "UnknownTemplate"
  | schema (.mismatch ..) => "SchemaMismatch"
  | schema _ => "TemplateFile"
  | generator _ => "SchemaMismatch"
  | provision .. => "ProvisionFailure"
  | write .. => "WriteFailure"
  | connection _ => "ConnectionFailure"
  | buffer _ => "BufferOverflow"

def message : LoadError → String
  | schema e => e.message
  | generator e => "Generator error: " ++ e.message
  | provision container source =>
    "Failed to provision container '" ++ container ++ "': " ++ source.message
  | write container batch source =>
    "Failed to write batch " ++ toString batch ++ " to container '" ++ container ++ "': " ++ source.message
  | connection source => "Connection failure: " ++ source.message
  | buffer e => e.message

/-- The messages of what caused the error. -/
def causes : LoadError → List String
  | schema (.unreadable text) => [text]
  | schema _ => []
  | generator e => [e.message]
  | provision _ source | write _ _ source | connection source => [source.message]
  | buffer _ => []

/-- The messages of the error and of what caused it. -/
def chain (e : LoadError) : List String := e.message :: e.causes

end LoadError

end SampleLoad
