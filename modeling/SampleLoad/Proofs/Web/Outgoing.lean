import SampleLoad.Web.Client

/-!
What goes out. A service is a client of HTTP beside the record of all requests that have gone out: what it is given
goes out once, or does not go out and fails. There is one over every network, where a request goes out exactly if it
can be sent.
-/

namespace SampleLoad.WebApi

theorem bind_run {σ α β : Type} {prog : StateM σ α} {next : α → StateM σ β} {s after : σ} {value : α}
    (h : prog.run s = (value, after)) : (prog >>= next).run s = (next value).run after := by
  rw [StateT.run_bind, h]
  rfl

/-- A client of HTTP whose state is the record of the requests that have gone out. -/
structure Service where
  http : Http (StateM (List Request))
  once : ∀ r before, (∃ reply, (http r).run before = (reply, before ++ [r])) ∨
    ∃ text, (http r).run before = (.error text, before)

theorem Http.send_run {σ : Type} {http : Http (StateM σ)} {r : Request} {reply : Except String Response} {s after : σ}
    (h : (http r).run s = (reply, after)) : (http.send r).run s = (reply.mapError .connection, after) := by
  rw [send, bind_run h]
  cases reply <;> rfl

/-! ### Networks -/

/-- What comes of a request, given all requests before it; no response means that no server was reached. -/
abbrev Network : Type := (history : List Request) → Request → Option Response

namespace Network

/-- The transport over a network. Its state is the record of all requests. -/
def transport (network : Network) : Transport (StateM (List Request)) :=
  fun r history => (network history r, history ++ [r])

/-- A network with a server that has every container. -/
def obliging : Network := fun _ _ => some ⟨200, []⟩

/-- What comes of a request that goes out. -/
def reply (network : Network) (history : List Request) (r : Request) : Except String Response :=
  match network history r with
  | some response => .ok response
  | none => .error ("error sending request for url (" ++ r.url.text ++ ")")

/-- Why a request does not go out. -/
def unsent (r : Request) : String := "builder error for url (" ++ r.url.text ++ ")"

variable (network : Network) {r : Request}

theorem over_run (h : isSendable r.url = true) (history : List Request) :
    (Http.over network.transport r).run history = (network.reply history r, history ++ [r]) := by
  have hsent : (network.transport r).run history = (network history r, history ++ [r]) := rfl
  rw [reply, Http.over, if_pos h, bind_run hsent]
  cases network history r <;> rfl

theorem over_run_unsendable (h : ¬isSendable r.url = true) (history : List Request) :
    (Http.over network.transport r).run history = (.error (unsent r), history) := by
  rw [Http.over, if_neg h]
  rfl

def service : Service where
  http := .over network.transport
  once r before := by
    by_cases h : isSendable r.url = true
    · exact .inl ⟨_, network.over_run h before⟩
    · exact .inr ⟨_, network.over_run_unsendable h before⟩

end Network

end SampleLoad.WebApi
