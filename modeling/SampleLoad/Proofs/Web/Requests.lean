import SampleLoad.Proofs.Rows.Batch
import SampleLoad.Proofs.Store.Memory
import SampleLoad.Proofs.Web.Body
import SampleLoad.Proofs.Web.Endpoint
import SampleLoad.Proofs.Web.Outgoing

/-!
What calls send to a server that answers. The server is taken to answer every request that can be sent to it, and
the requests are kept in order. If it refuses nothing, a call is carried out by the one request that it stands for,
or by none if it has nothing to say.
-/

namespace SampleLoad.WebApi

/-! ### Requests -/

/-- The requests that a call stands for. Looking for a container, dropping, creating and writing rows are one
request each; a write without rows and closing are none. -/
inductive Sends (config : WebApiConfig) : StoreCall → List Request → Prop where
  | exists {name : String} {url : Url} (hurl : config.endpoint ["containers", name, "info"] = .ok url) :
    Sends config (.exists name) [request config .get url]
  | drop {name : String} {url : Url} (hurl : config.endpoint ["containers"] = .ok url) :
    Sends config (.drop name) [request config .delete url (some (dropBody name))]
  | create {name : String} {schema : Schema} {url : Url} (hurl : config.endpoint ["containers"] = .ok url) :
    Sends config (.create name schema) [request config .post url (some (containerInfo name schema))]
  | write {name : String} {rows : Array Row} {url : Url} {body : Json} (hsome : rows ≠ #[])
    (hurl : config.endpoint ["containers", name, "rows"] = .ok url) (hbody : rowsBody rows = .ok body) :
    Sends config (.write (.single name rows)) [request config .put url (some body)]
  | writeNothing {name : String} : Sends config (.write (.single name #[])) []
  | close : Sends config .close []

inductive SendsAll (config : WebApiConfig) : List StoreCall → List Request → Prop where
  | nil : SendsAll config [] []
  | cons {call : StoreCall} {calls : List StoreCall} {sent rest : List Request} (hcall : Sends config call sent)
    (hcalls : SendsAll config calls rest) : SendsAll config (call :: calls) (sent ++ rest)

theorem SendsAll.append {config : WebApiConfig} {calls later : List StoreCall} {sent after : List Request}
    (h : SendsAll config calls sent) (hlater : SendsAll config later after) :
    SendsAll config (calls ++ later) (sent ++ after) := by
  induction h with
  | nil => exact hlater
  | cons hcall hcalls ih =>
      rw [List.append_assoc, List.cons_append]
      exact .cons hcall ih

theorem targets_of_some (name : String) {rows : Array Row} (hsome : rows ≠ #[]) :
    targets (.single name rows) = [(name, rows)] := by
  rw [targets, Batch.single_entries, List.filter_cons_of_pos (by simpa using hsome), List.filter_nil]

/-! ### Sessions -/

/-- A client that is connected got a response to its check, and sent nothing else. -/
theorem Http.check_of_connect {σ : Type} {http : Http (StateM σ)} {config : WebApiConfig} {session : Session}
    {s after : σ} (h : (http.connect config).run s = (.ok session, after)) :
    session = { config } ∧ ∃ url response, config.endpoint ["checkConnection"] = .ok url ∧
      (http.send (request config .get url)).run s = (.ok response, after) := by
  cases hurl : config.endpoint ["checkConnection"] with
  | error e =>
      simp only [connect, hurl] at h
      cases h
  | ok url =>
      obtain ⟨⟨reply, midway⟩, hsent⟩ : ∃ sent, (http.send (request config .get url)).run s = sent :=
        ⟨_, rfl⟩
      simp only [connect, hurl] at h
      rw [bind_run hsent] at h
      cases reply with
      | error e => cases h
      | ok response =>
          cases haccepted : accepted response with
          | error e =>
              simp only [haccepted] at h
              cases h
          | ok _ =>
              simp only [haccepted] at h
              cases h
              exact ⟨rfl, url, response, rfl, hsent⟩

/-- A call in an open session, which only closing closes. -/
theorem Http.perform_open_run {σ : Type} {http : Http (StateM σ)} {config : WebApiConfig} {call : StoreCall}
    {answer : Except StoreError call.Answer} {s after : σ}
    (h : (http.performOpen config call).run s = (answer, after)) :
    ((http.store.perform call).run { config }).run s =
      ((answer, { config, closed := decide (call = .close) }), after) := by
  have hopen : (http.store.perform call).run { config } = http.performOpen config call >>= fun answer =>
      pure (answer, { config, closed := decide (call = .close) }) := rfl
  rw [hopen, bind_run h]
  rfl

/-- Any other call leaves the session open. -/
theorem perform_stays_open {σ : Type} {transport : Transport (StateM σ)} {config : WebApiConfig} {call : StoreCall}
    (hcall : call ≠ .close) {answer : Except StoreError call.Answer} {s after : σ}
    (h : ((Http.over transport).performOpen config call).run s = (answer, after)) :
    (((webStore transport).perform call).run { config }).run s = ((answer, { config }), after) := by
  have hperform := Http.perform_open_run h
  rw [decide_eq_false hcall] at hperform
  exact hperform

/-- A client that is connected could send its check. -/
theorem Network.reachable_of_connect (network : Network) {config : WebApiConfig} {session : Session}
    {checks : List Request} (h : (connect network.transport config).run [] = (.ok session, checks)) :
    session = { config } ∧ Reachable config ["checkConnection"] := by
  obtain ⟨hsession, url, response, hurl, hsent⟩ := Http.check_of_connect h
  refine ⟨hsession, url, hurl, ?_⟩
  show isSendable (request config .get url).url = true
  by_contra hsendable
  rw [Http.send_run (network.over_run_unsendable hsendable [])] at hsent
  cases hsent

/-! ### Servers -/

/-- What a server answers to a request, given all requests before it. -/
abbrev Server : Type := (history : List Request) → Request → Response

namespace Server

def network (server : Server) : Network := fun history r => some (server history r)

/-- The transport to a server. Its state is the record of all requests. -/
def transport (server : Server) : Transport (StateM (List Request)) := server.network.transport

/-- After some requests the server has the container or has it not, and it refuses nothing. -/
structure Serves (server : Server) (config : WebApiConfig) (container : String) (present : Bool)
    (before : List Request) : Prop where
  /-- It can be asked for the container: a request that is answered was sent. -/
  reached : Reachable config ["containers", container, "info"]
  info : ∀ url, config.endpoint ["containers", container, "info"] = .ok url →
    if present then Status.isSuccess (server before (request config .get url)).status = true
    else (server before (request config .get url)).status = 404
  others : ∀ r,
    (∀ url, config.endpoint ["containers", container, "info"] = .ok url → r ≠ request config .get url) →
    ∀ history, Status.isSuccess (server history r).status = true

/-- A server that has every container. -/
def obliging : Server := fun _ _ => ⟨200, []⟩

variable (server : Server)

theorem send_run {r : Request} (h : isSendable r.url = true) (history : List Request) :
    ((Http.over server.transport).send r).run history = (.ok (server history r), history ++ [r]) :=
  Http.send_run (server.network.over_run h history)

theorem sendAccepted_run {r : Request} (h : isSendable r.url = true) {history : List Request}
    (hsuccess : Status.isSuccess (server history r).status = true) :
    ((Http.over server.transport).sendAccepted r).run history = (.ok (), history ++ [r]) := by
  have haccepted : accepted (server history r) = .ok (server history r) := if_pos hsuccess
  rw [Http.sendAccepted, bind_run (server.send_run h history)]
  simp only [haccepted]
  rfl

/-- The call is carried out at any time, and takes the requests that it stands for. -/
def CarriesOut (config : WebApiConfig) (call : StoreCall) (answer : call.Answer) : Prop :=
  ∃ sent, Sends config call sent ∧
    ∀ history, ((Http.over server.transport).performOpen config call).run history = (.ok answer, history ++ sent)

namespace Serves

variable {server} {config : WebApiConfig} {container : String} {present : Bool} {before : List Request}
  (h : server.Serves config container present before)

include h

/-- The answer to looking for the container. -/
theorem exists_run :
    ∃ sent, Sends config (.exists container) sent ∧
      ((Http.over server.transport).performOpen config (.exists container)).run before =
        (.ok present, before ++ sent) := by
  obtain ⟨url, hurl, hsendable⟩ := h.reached
  refine ⟨_, .exists hurl, ?_⟩
  have hsend := server.send_run (show isSendable (request config .get url).url = true from hsendable) before
  have hinfo := h.info url hurl
  simp only [Http.performOpen, hurl]
  rw [bind_run hsend]
  cases present with
  | false =>
      rw [if_neg Bool.false_ne_true] at hinfo
      simp only [if_pos hinfo]
      rfl
  | true =>
      rw [if_pos rfl] at hinfo
      have hfound : (server before (request config .get url)).status ≠ 404 := by
        intro hmissing
        rw [hmissing] at hinfo
        exact absurd hinfo (by decide)
      simp only [if_neg hfound, accepted, if_pos hinfo]
      rfl

/-- Requests that do not read are not those that look for the container. -/
theorem success {r : Request} (hmethod : r.method ≠ .get) (history : List Request) :
    Status.isSuccess (server history r).status = true := by
  refine h.others r (fun url _ hr => hmethod ?_) history
  rw [hr]
  rfl

theorem create_carriedOut (hreachable : Reachable config ["containers"]) (name : String) (schema : Schema) :
    server.CarriesOut config (.create name schema) () := by
  obtain ⟨url, hurl, hsendable⟩ := hreachable
  refine ⟨_, .create hurl, fun history => ?_⟩
  simp only [Http.performOpen, hurl]
  exact server.sendAccepted_run hsendable (h.success (Method.noConfusion : Method.post ≠ .get) history)

theorem drop_carriedOut (hreachable : Reachable config ["containers"]) (name : String) :
    server.CarriesOut config (.drop name) () := by
  obtain ⟨url, hurl, hsendable⟩ := hreachable
  refine ⟨_, .drop hurl, fun history => ?_⟩
  simp only [Http.performOpen, hurl]
  exact server.sendAccepted_run hsendable (h.success (Method.noConfusion : Method.delete ≠ .get) history)

theorem write_carriedOut {rows : List Row} (hcells : HasCells rows) :
    server.CarriesOut config (.write (.single container rows.toArray)) () := by
  by_cases hnone : rows.toArray = #[]
  · rw [hnone]
    exact ⟨[], .writeNothing, fun history => by rw [List.append_nil]; rfl⟩
  · have hinfo : Reachable config (["containers", container] ++ ["info"]) := h.reached
    obtain ⟨url, hurl, hsendable⟩ : Reachable config ["containers", container, "rows"] :=
      hinfo.replaceLast (by decide) (by decide) (by decide)
    obtain ⟨body, hbody⟩ := rowsBody_of_hasCells hcells
    refine ⟨_, .write hnone hurl hbody, fun history => ?_⟩
    simp only [Http.performOpen, targets_of_some container hnone, Http.writeRows, hurl, hbody]
    exact server.sendAccepted_run hsendable (h.success (Method.noConfusion : Method.put ≠ .get) history)

end Serves

end Server

end SampleLoad.WebApi
