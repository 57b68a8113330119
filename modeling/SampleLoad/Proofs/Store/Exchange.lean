import SampleLoad.Store.Basic

/-!
Calls on a store with what they were answered, one after the other.
-/

namespace SampleLoad

/-- The batch that a call hands over, if it is a write. -/
def StoreCall.batch? : StoreCall → Option Batch
  | .write batch => some batch
  | _ => none

/-- A call and what it was answered with. -/
structure Exchange where
  call : StoreCall
  answer : Except StoreError call.Answer

namespace Exchange

def Failed (x : Exchange) : Prop := ∃ e, x.answer = .error e

def writes (exchanges : List Exchange) : List Batch := exchanges.filterMap fun x => x.call.batch?

theorem writes_append (first second : List Exchange) : writes (first ++ second) = writes first ++ writes second :=
  List.filterMap_append

theorem writes_eq (exchanges : List Exchange) :
    writes exchanges = (exchanges.map call).filterMap StoreCall.batch? := by
  rw [List.filterMap_map]
  rfl

end Exchange

/-- Performs calls in order, whatever they are answered with. -/
def performAll {m : Type → Type} [Monad m] (store : ContainerStore m) : List StoreCall → m (List Exchange)
  | [] => pure []
  | call :: rest => do
    let answer ← store.perform call
    let later ← performAll store rest
    pure (⟨call, answer⟩ :: later)

end SampleLoad
