import SampleLoad.Proofs.Load.DryRun
import SampleLoad.Proofs.Load.FirstFailure
import SampleLoad.Proofs.Web.Network

/-!
Loads on a network that answers as it pleases, and may answer each request by all that went out before. A load in an
open session has a script, which is settled once the network has said whether the container exists. Its requests go
out up to the first that is not taken, and closing sends nothing. Main statement: `WebApi.run_goes`.
-/

namespace SampleLoad.WebApi

section Client

variable (network : Network) {config : WebApiConfig}

/-! ### Calls -/

/-- A request that only a success answers. -/
theorem sendAccepted_goes {r : Request} (hmethod : r.method ≠ .get) (before : List Request) :
    ∃ answer sent stop?,
      ((Http.over network.transport).sendAccepted r).run before = (answer, before ++ sent) ∧
      Goes network.Takes before [r] sent stop? ∧ Reports stop? (.ok ()) answer := by
  rw [Http.sendAccepted]
  rcases network.send_cases before r with ⟨response, hsendable, hanswer, hrun⟩ | ⟨e, sent, hrun, hnot, hgoes⟩
  · have htakes := (Network.takes_iff hmethod).trans (Network.confirms_iff hsendable hanswer)
    rw [bind_run hrun]
    by_cases hstatus : Status.isSuccess response.status = true
    · simp only [accepted_success hstatus]
      exact ⟨_, _, none, rfl, .taken (htakes.mpr hstatus) .done, rfl⟩
    · simp only [accepted_refusal hstatus]
      exact ⟨_, _, some r, rfl, .refused hsendable (mt htakes.mp hstatus), _, rfl⟩
  · rw [bind_run hrun]
    exact ⟨_, sent, some r, rfl, hgoes _ hnot, _, rfl⟩

/-- Looking for a container: it exists if this is confirmed. -/
theorem exists_goes {name : String} {r : Request} (hr : Asks config name r) (before : List Request) :
    ∃ existed answer sent stop?,
      ((Http.over network.transport).performOpen config (.exists name)).run before = (answer, before ++ sent) ∧
      Goes network.Takes before [r] sent stop? ∧ Reports stop? (.ok existed) answer ∧
      (existed = true ↔ network.Confirms before r) := by
  obtain ⟨url, hurl, rfl⟩ := hr
  simp only [Http.performOpen, hurl]
  rcases network.send_cases before (request config .get url) with
    ⟨response, hsendable, hanswer, hrun⟩ | ⟨e, sent, hrun, hnot, hgoes⟩
  · have hconfirms := Network.confirms_iff hsendable hanswer
    have hmisses := Network.misses_iff hsendable hanswer rfl
    rw [bind_run hrun]
    by_cases hmissing : response.status = 404
    · have hnot : ¬network.Confirms before (request config .get url) := by
        rw [hconfirms, hmissing]
        decide
      simp only [if_pos hmissing]
      exact ⟨false, _, _, none, rfl, .taken (.inr (hmisses.mpr hmissing)) .done, rfl,
        iff_of_false Bool.false_ne_true hnot⟩
    · by_cases hstatus : Status.isSuccess response.status = true
      · have hconfirmed := hconfirms.mpr hstatus
        simp only [if_neg hmissing, accepted_success hstatus]
        exact ⟨true, _, _, none, rfl, .taken (.inl hconfirmed) .done, rfl, iff_of_true rfl hconfirmed⟩
      · have hnot := mt hconfirms.mp hstatus
        simp only [if_neg hmissing, accepted_refusal hstatus]
        exact ⟨false, _, _, some _, rfl, .refused hsendable (not_or_intro hnot (mt hmisses.mp hmissing)), ⟨_, rfl⟩,
          iff_of_false Bool.false_ne_true hnot⟩
  · rw [bind_run hrun]
    exact ⟨false, _, sent, some _, rfl, hgoes _ hnot, ⟨_, rfl⟩, iff_of_false Bool.false_ne_true (mt .inl hnot)⟩

/-- A call sends the request that it stands for, if it stands for one, and comes to what its kind comes to if this is
taken. -/
theorem performOpen_goes {call : StoreCall} {script : List Request} (hscript : Sends config call script)
    (before : List Request) :
    ∃ value answer sent stop?,
      ((Http.over network.transport).performOpen config call).run before = (answer, before ++ sent) ∧
      Goes network.Takes before script sent stop? ∧ Reports stop? (.ok value) answer := by
  cases hscript with
  | «exists» hurl =>
      obtain ⟨existed, answer, sent, stop?, hrun, hgoes, hreports, -⟩ := exists_goes network ⟨_, hurl, rfl⟩ before
      exact ⟨existed, answer, sent, stop?, hrun, hgoes, hreports⟩
  | drop hurl =>
      simp only [Http.performOpen, hurl]
      exact ⟨(), sendAccepted_goes network Method.noConfusion before⟩
  | create hurl =>
      simp only [Http.performOpen, hurl]
      exact ⟨(), sendAccepted_goes network Method.noConfusion before⟩
  | write hsome hurl hbody =>
      simp only [Http.performOpen, targets_of_some _ hsome, Http.writeRows, hurl, hbody]
      exact ⟨(), sendAccepted_goes network Method.noConfusion before⟩
  | writeNothing => exact ⟨(), _, [], none, by rw [List.append_nil]; rfl, .done, rfl⟩
  | close => exact ⟨(), _, [], none, by rw [List.append_nil]; rfl, .done, rfl⟩

/-! ### Loads -/

/-- Steps follow the script of their calls. -/
theorem performSteps_goes (result : Except LoadError Metrics) {steps : List LoadStep}
    (hopen : ∀ step ∈ steps, step.call ≠ .close) {script : List Request}
    (hscript : SendsAll config (steps.map LoadStep.call) script) (before : List Request) :
    ∃ reported sent stop?,
      ((performSteps (webStore network.transport) result steps).run { config }).run before =
        ((reported, { config }), before ++ sent) ∧
      Goes network.Takes before script sent stop? ∧ Reports stop? result reported := by
  induction steps generalizing script before with
  | nil =>
      cases hscript
      exact ⟨result, [], none, by rw [List.append_nil]; rfl, .done, rfl⟩
  | cons step rest ih =>
      obtain ⟨hfirst, hrest⟩ := List.forall_mem_cons.mp hopen
      cases hscript with
      | cons hcall hcalls =>
          rename_i first later
          obtain ⟨value, answer, sent, stop?, hrun, hgoes, hreports⟩ := performOpen_goes network hcall before
          have hstep := perform_stays_open hfirst hrun
          rw [performSteps, StateT.run_bind, bind_run hstep]
          cases stop? with
          | none =>
              obtain ⟨reported, after, stop?, hlater, hgone, hend⟩ := ih hrest hcalls (before ++ sent)
              rw [List.append_assoc] at hlater
              rw [show answer = .ok value from hreports]
              exact ⟨reported, sent ++ after, stop?, hlater, hgoes.append hgone, hend⟩
          | some r =>
              obtain ⟨e, rfl⟩ := hreports
              exact ⟨_, sent, some r, rfl, hgoes.append_stopped later, _, rfl⟩

theorem sendsAll_of_forall {calls : List StoreCall} (h : ∀ call ∈ calls, ∃ sent, Sends config call sent) :
    ∃ script, SendsAll config calls script := by
  induction calls with
  | nil => exact ⟨[], .nil⟩
  | cons call rest ih =>
      obtain ⟨⟨sent, hsent⟩, hrest⟩ := List.forall_mem_cons.mp h
      obtain ⟨script, hscript⟩ := ih hrest
      exact ⟨sent ++ script, .cons hsent hscript⟩

/-- The rest of a load stands for requests, whether there is the container or not. -/
theorem loadSteps_script (hends : HasEndpoints config) (p : Pipeline) (container : String) {schema : Schema}
    (rowCount : Nat) (hvalid : schema.validate = .ok ()) (existed : Bool) :
    ∃ script, SendsAll config ((loadSteps container schema (p.plan schema rowCount) existed).map LoadStep.call)
      script := by
  obtain ⟨all, hall⟩ := hends ["containers"]
  refine sendsAll_of_forall fun call hcall => ?_
  obtain ⟨step, hstep, rfl⟩ := List.mem_map.mp hcall
  refine forall_loadSteps (fun call => ∃ sent, Sends config call sent) ⟨_, .drop hall⟩ ⟨_, .create hall⟩
    (fun batch hbatch => ?_) step hstep
  by_cases hnone : batch.toArray = #[]
  · rw [hnone]
    exact ⟨[], .writeNothing⟩
  · obtain ⟨url, hurl⟩ := hends ["containers", container, "rows"]
    obtain ⟨body, hbody⟩ := rowsBody_of_hasCells (p.plan_hasCells schema rowCount hvalid hbatch)
    exact ⟨_, .write hnone hurl hbody⟩

theorem Checks.hasEndpoints {r : Request} (h : Checks config r) : HasEndpoints config := by
  obtain ⟨url, hurl, -⟩ := h
  exact hasEndpoints_of_ok hurl

/-- A load in an open session, after some requests: what it comes to and what goes out. Its script is to look for
the container and then what this asks for. -/
inductive LoadsOver (config : WebApiConfig) (p : Pipeline) (container : String) (schema : Schema) (rowCount : Nat)
    (before : List Request) : Except LoadError Metrics → List Request → Prop where
  | of {existed : Bool} {script sent : List Request} {stop? : Option Request} {reported : Except LoadError Metrics}
    (hexisted : ∀ r, Asks config container r → (existed = true ↔ network.Confirms before r))
    (hscript : SendsAll config
      (.exists container :: (loadSteps container schema (p.plan schema rowCount) existed).map LoadStep.call) script)
    (hsent : Goes network.Takes before script sent stop?)
    (hreports : Reports stop? ((p.plan schema rowCount).outcome {}) reported) :
    LoadsOver config p container schema rowCount before reported sent

/-- A load that succeeds has sent its whole script. -/
theorem LoadsOver.whole_of_ok {p : Pipeline} {container : String} {schema : Schema} {rowCount : Nat}
    {before sent : List Request} {metrics : Metrics}
    (h : LoadsOver network config p container schema rowCount before (.ok metrics) sent) :
    ∃ existed, SendsAll config
      (.exists container :: (loadSteps container schema (p.plan schema rowCount) existed).map LoadStep.call) sent := by
  cases h with
  | of hexisted hscript hsent hreports =>
      rename_i existed script stop?
      cases stop? with
      | none => exact ⟨existed, hsent.complete ▸ hscript⟩
      | some r =>
          obtain ⟨e, he⟩ := hreports
          cases he

theorem load_goes (hends : HasEndpoints config) (p : Pipeline) (container : String) {schema : Schema}
    (rowCount : Nat) (hvalid : schema.validate = .ok ()) (before : List Request) :
    ∃ reported sent,
      ((p.load (webStore network.transport) container schema rowCount).run { config }).run before =
        ((reported, { config }), before ++ sent) ∧
      LoadsOver network config p container schema rowCount before reported sent := by
  obtain ⟨url, hurl⟩ := hends ["containers", container, "info"]
  obtain ⟨existed, answer, asked, stop?, hrun, hgoes, hreports, hconfirms⟩ :=
    exists_goes network ⟨url, hurl, rfl⟩ before
  have hexisted : ∀ r, Asks config container r → (existed = true ↔ network.Confirms before r) := by
    rintro r ⟨other, hother, rfl⟩
    cases hurl.symm.trans hother
    exact hconfirms
  obtain ⟨script, hscript⟩ := loadSteps_script hends p container rowCount hvalid existed
  have hfirst := perform_stays_open StoreCall.noConfusion hrun
  rw [p.load_eq, hvalid, StateT.run_bind, bind_run hfirst]
  cases stop? with
  | none =>
      have hopen : ∀ step ∈ loadSteps container schema (p.plan schema rowCount) existed, step.call ≠ .close :=
        forall_loadSteps (· ≠ .close) StoreCall.noConfusion StoreCall.noConfusion fun _ _ => StoreCall.noConfusion
      obtain ⟨reported, after, stop?, hsteps, hgone, hend⟩ :=
        performSteps_goes network ((p.plan schema rowCount).outcome {}) hopen hscript (before ++ asked)
      rw [List.append_assoc] at hsteps
      rw [show answer = .ok existed from hreports]
      exact ⟨reported, asked ++ after, hsteps, .of hexisted (.cons (.exists hurl) hscript) (hgoes.append hgone) hend⟩
  | some r =>
      obtain ⟨e, rfl⟩ := hreports
      exact ⟨_, asked, rfl, .of hexisted (.cons (.exists hurl) hscript) (hgoes.append_stopped script) ⟨_, rfl⟩⟩

/-- A run sends what its load sends, and closes the session. -/
theorem run_goes (hends : HasEndpoints config) (p : Pipeline) (container : String) {schema : Schema}
    (rowCount : Nat) (hvalid : schema.validate = .ok ()) (before : List Request) :
    ∃ reported sent,
      ((p.run (webStore network.transport) container schema rowCount).run { config }).run before =
        ((reported, { config, closed := true }), before ++ sent) ∧
      LoadsOver network config p container schema rowCount before reported sent := by
  obtain ⟨reported, sent, hload, hloads⟩ := load_goes network hends p container rowCount hvalid before
  refine ⟨reported, sent, ?_, hloads⟩
  have hclose : (((webStore network.transport).perform .close).run { config }).run (before ++ sent) =
      ((.ok (), { config, closed := true }), before ++ sent) := rfl
  rw [Pipeline.run, StateT.run_bind, bind_run hload, StateT.run_bind, bind_run hclose, Pipeline.report_closed]
  rfl

end Client

end SampleLoad.WebApi
