import SampleLoad.Rows.Batch
import SampleLoad.Schema.Basic

/-!
Container stores as their users see them: five calls, each of which is answered or fails. What a store
does besides, and how its answers depend on earlier calls, is left to the monad it works in.
-/

namespace SampleLoad

/-- Why a store did not do what it was asked for. -/
inductive StoreError where
  /-- The store cannot be reached. -/
  | connection (text : String)
  /-- The store answered and refused. -/
  | rejected (status : Nat) (text : String)
  /-- The store was closed before. -/
  | closed
  /-- A request could not be put into the store's format. -/
  | encoding (text : String)
  deriving DecidableEq, Repr

namespace StoreError

def message : StoreError → String
  | connection text => "Connection error: " ++ text
  | rejected status text => "Request rejected with status " ++ toString status ++ ": " ++ text
  | closed => "Store connection is closed"
  | encoding text => "Encoding error: " ++ text

end StoreError

/-- What a store can be asked. -/
inductive StoreCall where
  | exists (container : String)
  | create (container : String) (schema : Schema)
  | drop (container : String)
  | write (batch : Batch)
  | close
  deriving DecidableEq

namespace StoreCall

/-- What a call is answered with when it succeeds. -/
abbrev Answer : StoreCall → Type
  | .exists _ => Bool
  | _ => Unit

end StoreCall

/-- A store: it performs calls one at a time in a monad. -/
structure ContainerStore (m : Type → Type) where
  perform : (call : StoreCall) → m (Except StoreError call.Answer)

end SampleLoad
