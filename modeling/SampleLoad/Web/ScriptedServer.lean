import SampleLoad.Web.Client

/-!
A server in memory. It has answers ready for some requests, each for a number of times or without limit,
answers every other request with an empty success, and keeps all requests.
-/

namespace SampleLoad.WebApi

/-- An answer to requests of a method for a target. -/
structure ReadyAnswer where
  method : String
  target : String
  response : Response
  /-- How often it may still be given. -/
  left? : Option Nat := none
  deriving DecidableEq

namespace ReadyAnswer

def fits (a : ReadyAnswer) (r : Request) : Bool :=
  a.method = r.method.name && a.target = r.target && a.left? ≠ some 0

def spent (a : ReadyAnswer) : ReadyAnswer := { a with left? := a.left?.map (· - 1) }

/-- What everything else is answered with. -/
def success : Response := ⟨200, []⟩

/-- The first answer that fits a request, and what is then left. -/
def take (r : Request) : List ReadyAnswer → Response × List ReadyAnswer
  | [] => (success, [])
  | a :: rest =>
    if a.fits r then (a.response, a.spent :: rest)
    else
      let (response, rest) := take r rest
      (response, a :: rest)

end ReadyAnswer

/-- The state of a server in memory. -/
structure ScriptedServer where
  answers : List ReadyAnswer := []
  /-- The requests so far, in order. -/
  requests : Array Request := #[]

namespace Transport

/-- To a server in memory. -/
def scripted : Transport (StateM ScriptedServer) := fun r server =>
  let (response, answers) := ReadyAnswer.take r server.answers
  (some response, ⟨answers, server.requests.push r⟩)

/-- To no server at all. -/
def unreachable {m : Type → Type} [Monad m] : Transport m := fun _ => pure none

end Transport

end SampleLoad.WebApi
