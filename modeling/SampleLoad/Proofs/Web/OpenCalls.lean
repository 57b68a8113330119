import SampleLoad.Proofs.Web.Body
import SampleLoad.Proofs.Web.Endpoint
import SampleLoad.Proofs.Web.Outgoing

/-!
What a call in an open session asks of the client of HTTP. Looking for a container, creating, dropping and writing
finite rows of one container stand for one request each, and what comes of it is the answer; all other calls are
answered without a request. Main statement: `WebApi.Http.performOpen_eq`.
-/

namespace SampleLoad.WebApi

/-- The request looks for a container. -/
def Asks (config : WebApiConfig) (name : String) (r : Request) : Prop :=
  ∃ url, config.endpoint ["containers", name, "info"] = .ok url ∧ r = request config .get url

def Creates (config : WebApiConfig) (name : String) (schema : Schema) (r : Request) : Prop :=
  ∃ url, config.endpoint ["containers"] = .ok url ∧ r = request config .post url (some (containerInfo name schema))

def Drops (config : WebApiConfig) (name : String) (r : Request) : Prop :=
  ∃ url, config.endpoint ["containers"] = .ok url ∧ r = request config .delete url (some (dropBody name))

/-- The request writes rows for a container: all of them, in order. -/
def Puts (config : WebApiConfig) (name : String) (rows : Array Row) (r : Request) : Prop :=
  ∃ url arrays, config.endpoint ["containers", name, "rows"] = .ok url ∧
    List.Forall₂ IsArrayOf rows.toList arrays ∧ r = request config .put url (some (.arr arrays))

def FiniteRows (rows : Array Row) : Prop := ∀ row ∈ rows.toList, ∀ value ∈ row.values, value.IsFinite

/-- The call stands for the request. -/
inductive Stands (config : WebApiConfig) : StoreCall → Request → Prop where
  | exists {name : String} {r : Request} (hr : Asks config name r) : Stands config (.exists name) r
  | create {name : String} {schema : Schema} {r : Request} (hr : Creates config name schema r) :
    Stands config (.create name schema) r
  | drop {name : String} {r : Request} (hr : Drops config name r) : Stands config (.drop name) r
  | write {batch : Batch} {name : String} {rows : Array Row} {r : Request} (hone : targets batch = [(name, rows)])
    (hfinite : FiniteRows rows) (hr : Puts config name rows r) : Stands config (.write batch) r

/-- The call is answered without a request. -/
inductive Silent : (call : StoreCall) → Except StoreError call.Answer → Prop where
  | noRows {batch : Batch} (hnone : targets batch = []) : Silent (.write batch) (.ok ())
  | notFinite {batch : Batch} {name : String} {rows : Array Row} {text : String}
    (hone : targets batch = [(name, rows)]) (hnot : ¬FiniteRows rows) : Silent (.write batch) (.error (.encoding text))
  | manyTargets {batch : Batch} {text : String} (hmany : 2 ≤ (targets batch).length) :
    Silent (.write batch) (.error (.encoding text))
  | close : Silent .close (.ok ())

/-! ### Answers -/

/-- A container exists unless it is missing. -/
def existence : Except String Response → Except StoreError Bool
  | .error text => .error (.connection text)
  | .ok response => if response.status = 404 then .ok false else (accepted response).map fun _ => true

/-- Only a success confirms that something was done. -/
def confirmation : Except String Response → Except StoreError Unit
  | .error text => .error (.connection text)
  | .ok response => (accepted response).map fun _ => ()

/-- The answer to a call, by what came of its request. -/
def judged : (call : StoreCall) → Except String Response → Except StoreError call.Answer
  | .exists _ => existence
  | .create .. | .drop _ | .write _ => confirmation
  | .close => fun _ => .ok ()

namespace Http

variable {m : Type → Type} [Monad m] [LawfulMonad m] (http : Http m) (config : WebApiConfig)

theorem send_bind {β : Type} (r : Request) (next : Except StoreError Response → m β) :
    http.send r >>= next = http r >>= fun reply => next (reply.mapError .connection) := by
  rw [send, bind_assoc]
  refine bind_congr fun reply => ?_
  cases reply <;> exact pure_bind _ _

theorem sendAccepted_eq (r : Request) : http.sendAccepted r = confirmation <$> http r := by
  rw [sendAccepted, send_bind, map_eq_pure_bind]
  refine bind_congr fun reply => ?_
  cases reply <;> rfl

/-- Rows of one container are encoded before anything is sent. -/
theorem writeRows_eq {batch : Batch} {name : String} {rows : Array Row} (hone : targets batch = [(name, rows)]) :
    (∃ r, Stands config (.write batch) r ∧ http.writeRows config name rows = confirmation <$> http r) ∨
      ∃ answer, (HasEndpoints config → Silent (.write batch) answer) ∧
        http.writeRows config name rows = pure answer := by
  rw [writeRows]
  cases hurl : config.endpoint ["containers", name, "rows"] with
  | error e => exact .inr ⟨.error e, fun hends => absurd hends (not_hasEndpoints hurl), rfl⟩
  | ok url =>
      cases hbody : rowsBody rows with
      | error e =>
          obtain ⟨text, rfl⟩ := rowsBody_error hbody
          refine .inr ⟨_, fun _ => .notFinite hone fun hfinite => ?_, rfl⟩
          obtain ⟨body, hsome⟩ := (rowsBody_exists_iff rows).mpr hfinite
          cases hbody.symm.trans hsome
      | ok body =>
          obtain ⟨arrays, rfl, harrays⟩ := rowsBody_eq_ok_iff.mp hbody
          have hfinite : FiniteRows rows := (rowsBody_exists_iff rows).mp ⟨_, hbody⟩
          exact .inl ⟨_, .write hone hfinite ⟨url, arrays, hurl, harrays, rfl⟩, http.sendAccepted_eq _⟩

/-- A call makes the request that it stands for and is answered by what comes of it, or makes none. -/
theorem performOpen_eq (call : StoreCall) :
    (∃ r, Stands config call r ∧ http.performOpen config call = judged call <$> http r) ∨
      ∃ answer, (HasEndpoints config → Silent call answer) ∧ http.performOpen config call = pure answer := by
  cases call with
  | «exists» name =>
      rw [performOpen]
      cases hurl : config.endpoint ["containers", name, "info"] with
      | error e => exact .inr ⟨.error e, fun hends => absurd hends (not_hasEndpoints hurl), rfl⟩
      | ok url =>
          refine .inl ⟨_, .exists ⟨url, hurl, rfl⟩, ?_⟩
          simp only [send_bind, map_eq_pure_bind]
          refine bind_congr fun reply => ?_
          cases reply with
          | error text => rfl
          | ok response => exact (apply_ite (pure : Except StoreError Bool → m _) (response.status = 404) _ _).symm
  | create name schema =>
      rw [performOpen]
      cases hurl : config.endpoint ["containers"] with
      | error e => exact .inr ⟨.error e, fun hends => absurd hends (not_hasEndpoints hurl), rfl⟩
      | ok url => exact .inl ⟨_, .create ⟨url, hurl, rfl⟩, http.sendAccepted_eq _⟩
  | drop name =>
      rw [performOpen]
      cases hurl : config.endpoint ["containers"] with
      | error e => exact .inr ⟨.error e, fun hends => absurd hends (not_hasEndpoints hurl), rfl⟩
      | ok url => exact .inl ⟨_, .drop ⟨url, hurl, rfl⟩, http.sendAccepted_eq _⟩
  | write batch =>
      simp only [performOpen]
      rcases htargets : targets batch with _ | ⟨⟨name, rows⟩, _ | ⟨second, rest⟩⟩
      · exact .inr ⟨.ok (), fun _ => .noRows htargets, rfl⟩
      · exact http.writeRows_eq config htargets
      · have hmany : 2 ≤ (targets batch).length := by
          rw [htargets]
          exact Nat.le_add_left 2 rest.length
        exact .inr ⟨_, fun _ => .manyTargets hmany, rfl⟩
  | close => exact .inr ⟨.ok (), fun _ => .close, rfl⟩

end Http

end SampleLoad.WebApi
