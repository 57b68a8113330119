import SampleLoad.Load.Error

/-!
Putting a container into a known, empty state: one that exists is dropped and created again, one that does
not is created.
-/

namespace SampleLoad

/-- What had to be done to a container. -/
inductive ProvisionOutcome where
  | created
  | recreated
  deriving DecidableEq, Repr

variable {m : Type → Type} [Monad m]

/-- Creates a container anew; the errors are those of the store. -/
def recreate (store : ContainerStore m) (container : String) (schema : Schema) :
    m (Except StoreError ProvisionOutcome) := do
  match ← store.perform (.exists container) with
  | .error e => pure (.error e)
  | .ok false =>
    match ← store.perform (.create container schema) with
    | .error e => pure (.error e)
    | .ok () => pure (.ok .created)
  | .ok true =>
    match ← store.perform (.drop container) with
    | .error e => pure (.error e)
    | .ok () =>
      match ← store.perform (.create container schema) with
      | .error e => pure (.error e)
      | .ok () => pure (.ok .recreated)

/-- Creates a container with a schema, dropping any container of that name first. -/
def provision (store : ContainerStore m) (container : String) (schema : Schema) :
    m (Except LoadError ProvisionOutcome) := do
  match ← recreate store container schema with
  | .error e => pure (.error (.provision container e))
  | .ok outcome => pure (.ok outcome)

end SampleLoad
