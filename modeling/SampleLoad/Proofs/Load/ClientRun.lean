import SampleLoad.Proofs.Load.DryRun
import SampleLoad.Proofs.Load.Generation
import SampleLoad.Proofs.Load.Replay
import SampleLoad.Proofs.Web.Calls

/-!
Runs over a client of the web API, with a service that answers as it pleases. All that a run writes goes to one
container and is finite, and it closes the session once and last, so that no call fails before its request is made
and closing never fails. A run therefore fails at its schema, when times run out, or when a request is turned down.
Main statement: `Pipeline.run_over_service`.
-/

namespace SampleLoad

namespace WebApi

/-! ### Requests that are turned down -/

/-- A request that is made after some others gets no response, or one that is no success; `after` is then what has
gone out. -/
inductive TurnsDown (service : Service) (before : List Request) (r : Request) (after : List Request) :
    StoreError → Prop where
  | unanswered {text : String} (h : (service.http r).run before = (.error text, after)) :
    TurnsDown service before r after (.connection text)
  | refused {response : Response} (h : (service.http r).run before = (.ok response, after))
    (hstatus : ¬Status.isSuccess response.status = true) :
    TurnsDown service before r after (.rejected response.status (refusalText response))

section TurnsDown

variable {service : Service} {before after : List Request} {r : Request} {e : StoreError}

theorem turnsDown_of_accepted {response : Response} {α : Type} {f : Response → α}
    (h : (service.http r).run before = (.ok response, after)) (he : (accepted response).map f = .error e) :
    TurnsDown service before r after e := by
  by_cases hstatus : Status.isSuccess response.status = true
  · rw [accepted_success hstatus] at he
    cases he
  · rw [accepted_refusal hstatus] at he
    cases he
    exact .refused h hstatus

/-- The request that is turned down is the last that has gone out, if it has. -/
theorem TurnsDown.last (h : TurnsDown service before r after e) :
    after = before ++ [r] ∨ after = before ∧ ∃ text, e = .connection text := by
  cases h with
  | unanswered h =>
      rcases service.once r before with ⟨reply, hrun⟩ | ⟨text, hrun⟩
      · exact .inl (Prod.mk.inj (h.symm.trans hrun)).2
      · exact .inr ⟨(Prod.mk.inj (h.symm.trans hrun)).2, _, rfl⟩
  | refused h hstatus =>
      rcases service.once r before with ⟨reply, hrun⟩ | ⟨text, hrun⟩
      · exact .inl (Prod.mk.inj (h.symm.trans hrun)).2
      · cases h.symm.trans hrun

variable {reply : Except String Response} (h : (service.http r).run before = (reply, after))

include h

theorem turnsDown_of_confirmation (he : confirmation reply = .error e) : TurnsDown service before r after e := by
  cases reply with
  | error text =>
      cases he
      exact .unanswered h
  | ok response => exact turnsDown_of_accepted h he

theorem turnsDown_of_existence (he : existence reply = .error e) : TurnsDown service before r after e := by
  cases reply with
  | error text =>
      cases he
      exact .unanswered h
  | ok response =>
      rw [existence] at he
      split at he
      · cases he
      · exact turnsDown_of_accepted h he

theorem turnsDown_of_judged {config : WebApiConfig} {call : StoreCall} (hr : Stands config call r)
    (he : judged call reply = .error e) : TurnsDown service before r after e := by
  cases hr with
  | «exists» => exact turnsDown_of_existence h he
  | create => exact turnsDown_of_confirmation h he
  | drop => exact turnsDown_of_confirmation h he
  | write => exact turnsDown_of_confirmation h he

end TurnsDown

def Writable (container : String) (batch : Batch) : Prop := ∃ rows, batch = .single container rows ∧ FiniteRows rows

theorem targets_single (container : String) (rows : Array Row) :
    targets (.single container rows) = [] ∨ targets (.single container rows) = [(container, rows)] := by
  by_cases hnone : rows = #[]
  · exact .inl (hnone ▸ rfl)
  · exact .inr (targets_of_some container hnone)

/-- The call does not close the store, and what it writes can be written. -/
def Loads (container : String) (call : StoreCall) : Prop :=
  call ≠ .close ∧ ∀ batch, call = .write batch → Writable container batch

/-- Such a call succeeds if it stands for no request. -/
theorem Silent.ok {call : StoreCall} {answer : Except StoreError call.Answer} (h : Silent call answer)
    {container : String} (hcall : Loads container call) (e : StoreError) : answer ≠ .error e := by
  cases h with
  | noRows hnone => exact nofun
  | notFinite hone hnot =>
      obtain ⟨rows, rfl, hfinite⟩ := hcall.2 _ rfl
      rcases targets_single container rows with hnone | hsingle
      · cases hnone.symm.trans hone
      · cases hsingle.symm.trans hone
        exact absurd hfinite hnot
  | manyTargets hmany =>
      obtain ⟨rows, rfl, -⟩ := hcall.2 _ rfl
      rcases targets_single container rows with htargets | htargets <;> rw [htargets] at hmany <;>
        exact absurd hmany (by simp)
  | close => exact nofun

/-- Such a call fails only if its request is turned down. -/
theorem turnsDown_of_performOpen {service : Service} {config : WebApiConfig} (hends : HasEndpoints config)
    {call : StoreCall} {container : String} (hcall : Loads container call) {before after : List Request}
    {e : StoreError} (h : (service.http.performOpen config call).run before = (.error e, after)) :
    ∃ r, Stands config call r ∧ TurnsDown service before r after e := by
  rcases service.http.performOpen_eq config call with ⟨r, hr, hperform⟩ | ⟨answer, hsilent, hperform⟩
  · obtain ⟨⟨reply, midway⟩, hreply⟩ : ∃ result, (service.http r).run before = result := ⟨_, rfl⟩
    rw [hperform, map_eq_pure_bind, bind_run hreply] at h
    obtain ⟨hjudged, rfl⟩ := Prod.mk.inj h
    exact ⟨r, hr, turnsDown_of_judged hreply hr hjudged⟩
  · rw [hperform] at h
    exact absurd (Prod.mk.inj h).1 ((hsilent hends).ok hcall e)

/-- The last of the exchanges failed: after all requests before it, the request of its call was turned down. -/
inductive EndsTurnedDown (service : Service) (config : WebApiConfig) (checks after : List Request) :
    List Exchange → StoreError → Prop where
  | last {before : List Exchange} {call : StoreCall} {sent : List Request} {r : Request} {e : StoreError}
    (hr : Stands config call r) (hdown : TurnsDown service (checks ++ sent) r after e) :
    EndsTurnedDown service config checks after (before ++ [⟨call, .error e⟩]) e

/-! ### The client as a store that answers -/

/-- Programs of a client as functions of its session and of all requests. -/
def execution : Execution (StateT Session (StateM (List Request))) (Session × List Request) where
  run prog s :=
    let ((a, session), requests) := (prog.run s.1).run s.2
    (a, session, requests)
  run_pure _ _ := rfl
  run_bind _ _ _ := rfl

theorem execution_run_eq {α : Type} {prog : StateT Session (StateM (List Request)) α} {session after : Session}
    {before requests : List Request} {a : α} (h : execution.run prog (session, before) = (a, after, requests)) :
    (prog.run session).run before = ((a, after), requests) := by
  cases h
  rfl

section Answers

variable (service : Service) {config : WebApiConfig} (checks : List Request)

/-- What a client answers that was connected before. -/
def Service.answers (config : WebApiConfig) : Answers := execution.answers service.http.store ({ config }, checks)

def Service.after (config : WebApiConfig) (exchanges : List Exchange) : Session × List Request :=
  execution.after service.http.store ({ config }, checks) exchanges

/-- The next call on a client that is open. -/
theorem answers_run {history : List Exchange} {earlier : List Request}
    (hafter : service.after checks config history = ({ config }, earlier)) {call : StoreCall}
    {answer : Except StoreError call.Answer} {later : List Request}
    (hrun : (service.http.performOpen config call).run earlier = (answer, later)) :
    service.answers checks config history call = answer ∧
      service.after checks config (history ++ [⟨call, service.answers checks config history call⟩]) =
        ({ config, closed := decide (call = .close) }, later) := by
  have hperform : execution.run (service.http.store.perform call) (service.after checks config history) =
      (answer, { config, closed := decide (call = .close) }, later) := by
    rw [hafter]
    have hopen := Http.perform_open_run hrun
    show (let ((a, session), requests) := ((service.http.store.perform call).run { config }).run earlier
      (a, session, requests)) = _
    rw [hopen]
  refine ⟨congrArg Prod.fst hperform, ?_⟩
  rw [Service.after, Execution.after_append]
  exact congrArg Prod.snd hperform

/-- Calls that do not close the client leave it open. -/
theorem after_open (hends : HasEndpoints config) {history : List Exchange}
    (hgave : (service.answers checks config).Gave [] history) (hopen : ∀ x ∈ history, x.call ≠ .close) :
    ∃ sent, service.after checks config history = ({ config }, checks ++ sent) := by
  obtain ⟨exchanges, closed, sent, hsession, hclosed⟩ :=
    performAll_session service hends false (history.map Exchange.call) checks
  have hrun := execution_run_eq (execution.performAll_run service.http.store ({ config }, checks) hgave)
  have hsame := hrun.symm.trans hsession
  have hstill : closed = false := by
    by_contra h
    obtain ⟨x, hx, hclose⟩ := List.mem_map.mp ((hclosed.mp (Bool.eq_true_of_not_eq_false h)).resolve_left nofun)
    exact hopen x hx hclose
  rw [hstill] at hsame
  exact ⟨sent, Prod.ext (congrArg (·.1.2) hsame) (congrArg (·.2) hsame)⟩

end Answers

end WebApi

/-! ### Runs -/

namespace Pipeline

variable (p : Pipeline) (container : String) (schema : Schema) (rowCount : Nat)

theorem load_calls {answers : Answers} {loading : List Exchange} {reported : Except LoadError Metrics}
    (hload : (p.load answers.store container schema rowCount).run [] = (reported, loading)) :
    ∀ x ∈ loading, WebApi.Loads container x.call := by
  intro x hx
  cases hvalid : schema.validate with
  | error e =>
      rw [p.load_invalid answers.store container hvalid] at hload
      cases hload
      cases hx
  | ok valid =>
      obtain ⟨exchanges, _, hagain, -, hperformed⟩ := p.load_run answers container schema rowCount hvalid
      cases hload.symm.trans hagain
      have hcall := hperformed.cutShort.inOrder.subset (List.mem_map_of_mem hx)
      obtain ⟨step, hstep, hstepCall⟩ := List.mem_map.mp hcall
      rw [← hstepCall]
      rcases List.mem_cons.mp hstep with rfl | hlater
      · exact ⟨StoreCall.noConfusion, fun batch => StoreCall.noConfusion⟩
      · refine forall_loadSteps (WebApi.Loads container)
          ⟨StoreCall.noConfusion, fun batch => StoreCall.noConfusion⟩
          ⟨StoreCall.noConfusion, fun batch => StoreCall.noConfusion⟩ (fun rows hrows => ?_) step hlater
        refine ⟨StoreCall.noConfusion, fun batch hbatch => ?_⟩
        cases hbatch
        exact ⟨_, rfl, (WebApi.hasCells_iff rows).mp (p.plan_hasCells schema rowCount hvalid hrows)⟩

/-- Why a run over a service fails that has made some calls and sent some requests, the first of them to check the
connection. After a request that is turned down there is no other. -/
inductive FailsOver (service : WebApi.Service) (config : WebApiConfig) (checks requests : List WebApi.Request)
    (loading : List Exchange) : LoadError → Prop where
  | check {fault : SchemaFault} (hinvalid : schema.validate = .error (.mismatch schema.name fault))
    (hnothing : requests = checks) :
    FailsOver service config checks requests loading (.schema (.mismatch schema.name fault))
  | time {cursor : Nat} (hout : p.RunsOut schema rowCount cursor) :
    FailsOver service config checks requests loading (.generator (.timestampOutOfRange cursor))
  | provision {e : StoreError} (hdown : WebApi.EndsTurnedDown service config checks requests loading e) :
    FailsOver service config checks requests loading (.provision container e)
  | write {number : Nat} {e : StoreError}
    (hdown : WebApi.EndsTurnedDown service config checks requests loading e) :
    FailsOver service config checks requests loading (.write container number e)

section Failing

variable {service : WebApi.Service} {config : WebApiConfig} {checks : List WebApi.Request}
  (hends : WebApi.HasEndpoints config)

include hends

/-- The last of the exchanges failed, and no other: its request was turned down. -/
theorem endsTurnedDown_of_failed {before : List Exchange} {call : StoreCall} {e : StoreError}
    (hgave : (service.answers checks config).Gave [] (before ++ [⟨call, .error e⟩]))
    (hcalls : ∀ x ∈ before ++ [⟨call, .error e⟩], WebApi.Loads container x.call) :
    WebApi.EndsTurnedDown service config checks (service.after checks config (before ++ [⟨call, .error e⟩])).2
      (before ++ [⟨call, .error e⟩]) e := by
  obtain ⟨hbefore, hanswer⟩ := Answers.gave_split hgave
  have hanswer : service.answers checks config before call = .error e := hanswer.symm
  have hcall : WebApi.Loads container call := hcalls ⟨call, .error e⟩ (List.mem_append_right _ List.mem_cons_self)
  obtain ⟨sent, hafter⟩ := WebApi.after_open service checks hends hbefore
    fun x hx => (hcalls x (List.mem_append_left _ hx)).1
  obtain ⟨⟨answer, later⟩, hrun⟩ : ∃ result, (service.http.performOpen config call).run (checks ++ sent) = result :=
    ⟨_, rfl⟩
  obtain ⟨hsame, hnow⟩ := WebApi.answers_run service checks hafter hrun
  obtain rfl : answer = .error e := hsame.symm.trans hanswer
  obtain ⟨r, hr, hdown⟩ := WebApi.turnsDown_of_performOpen hends hcall hrun
  rw [hanswer] at hnow
  rw [hnow]
  exact .last hr hdown

theorem failsOver_of_failedCall {loading : List Exchange} {fault : LoadError}
    (hgave : (service.answers checks config).Gave [] loading)
    (hcalls : ∀ x ∈ loading, WebApi.Loads container x.call)
    (hfailed : FailedCall container schema loading fault) :
    p.FailsOver container schema rowCount service config checks (service.after checks config loading).2 loading
      fault := by
  cases hfailed with
  | provision hcall hbefore => exact .provision (endsTurnedDown_of_failed container hends hgave hcalls)
  | write hbefore => exact .write (endsTurnedDown_of_failed container hends hgave hcalls)

theorem failsOver_of_firstFailure {loading : List Exchange} {fault : LoadError}
    (hgave : (service.answers checks config).Gave [] loading)
    (hcalls : ∀ x ∈ loading, WebApi.Loads container x.call)
    (hfirst : p.FirstFailure container schema rowCount loading fault) :
    p.FailsOver container schema rowCount service config checks (service.after checks config loading).2 loading
      fault := by
  cases hfirst with
  | check he hnothing =>
      subst hnothing
      obtain ⟨fault, rfl⟩ := schema.validate_error he
      exact .check he rfl
  | call hvalid hfailed hgenerated =>
      exact p.failsOver_of_failedCall container schema rowCount hends hgave hcalls hfailed
  | generate hvalid hbefore hwritten hfails =>
      obtain ⟨rfl, hout⟩ := (p.failsAt_iff_runsOut rowCount hvalid).mp hfails
      exact .time hout

end Failing

/-- A run over a client that was just connected, with any service, schema, capacity and source. It makes some calls
and then closes the client, which never fails. What it writes goes to one container and is finite. If it fails, then
at the schema, for want of a time, or at its last call, whose request was turned down. -/
theorem run_over_service (service : WebApi.Service) {config : WebApiConfig} {session : WebApi.Session}
    {checks : List WebApi.Request} (hconnected : (service.http.connect config).run [] = (.ok session, checks)) :
    ∃ loading reported requests,
      ((p.run service.http.store container schema rowCount).run session).run checks =
        ((reported, { session with closed := true }), requests) ∧
      ((performAll service.http.store (loading.map Exchange.call ++ [.close])).run session).run checks =
        ((loading ++ [⟨.close, .ok ()⟩], { session with closed := true }), requests) ∧
      (∀ x ∈ loading, WebApi.Loads container x.call) ∧
      (∀ e, reported ≠ .error (.connection e)) ∧
      ∀ fault, reported = .error fault →
        p.FailsOver container schema rowCount service config checks requests loading fault := by
  obtain ⟨rfl, hends⟩ := service.endpoints_of_connect hconnected
  obtain ⟨loading, reported, hload, hgave, hend⟩ :=
    p.load_first_failure (service.answers checks config) container schema rowCount
  have hcalls := p.load_calls container schema rowCount hload
  obtain ⟨sent, hafter⟩ := WebApi.after_open service checks hends hgave fun x hx => (hcalls x hx).1
  have hfails : ∀ fault, reported = .error fault →
      p.FailsOver container schema rowCount service config checks (checks ++ sent) loading fault := by
    rintro fault rfl
    obtain ⟨_, hfault, hfirst⟩ | ⟨⟨metrics, hmetrics⟩, -⟩ := hend
    · cases hfault
      have hloading := p.failsOver_of_firstFailure container schema rowCount hends hgave hcalls hfirst
      rw [hafter] at hloading
      exact hloading
    · cases hmetrics
  have hclose : (service.http.performOpen config .close).run (checks ++ sent) = (.ok (), checks ++ sent) := rfl
  obtain ⟨hanswer, hclosed⟩ := WebApi.answers_run service checks hafter hclose
  have hall := Answers.gave_append hgave .close
  have hover : p.runOver (service.answers checks config) container schema rowCount =
      (reported, loading ++ [⟨.close, .ok ()⟩]) := by
    rw [p.runOver_eq _ container schema rowCount hload, hanswer]
    cases reported <;> rfl
  rw [List.nil_append, hanswer] at hall
  rw [hanswer] at hclosed
  refine ⟨loading, reported, checks ++ sent, WebApi.execution_run_eq ?_, WebApi.execution_run_eq ?_, hcalls,
    fun e he => (nomatch hfails _ he), hfails⟩
  · rw [WebApi.execution.run_replays]
    rw [WebApi.Service.answers] at hover
    rw [hover]
    exact congrArg (reported, ·) hclosed
  · have hmade := WebApi.execution.performAll_run service.http.store ({ config }, checks) hall
    rw [List.map_append] at hmade
    exact hmade.trans (congrArg (loading ++ [⟨.close, .ok ()⟩], ·) hclosed)

/-- A service that takes no rows. -/
theorem run_over_service_rejected :
    ∃ (service : WebApi.Service) (checks sent : List WebApi.Request) (r : WebApi.Request),
      (service.http.connect {}).run [] = (.ok { config := {} }, checks) ∧
      ((inPairs.run service.http.store "t" Builtin.oneThousandRows.schema 3).run { config := {} }).run checks =
        ((.error (.write "t" 1 (.rejected 507 "full")), { config := {}, closed := true }), checks ++ sent ++ [r]) ∧
      WebApi.TurnsDown service (checks ++ sent) r (checks ++ sent ++ [r]) (.rejected 507 "full") := by
  let network : WebApi.Network := fun _ r =>
    some (if r.method = .put then ⟨507, "full".toUTF8.toList⟩ else ⟨200, []⟩)
  let service := network.service
  let checks := ((service.http.connect {}).run []).2
  have hsession : ((service.http.connect {}).run []).1 = .ok { config := {} } := by
    decide +kernel
  have hconnected : (service.http.connect {}).run [] = (.ok { config := {} }, checks) := Prod.ext hsession rfl
  have hreported : (((inPairs.run service.http.store "t" Builtin.oneThousandRows.schema 3).run { config := {} }).run
      checks).1.1 = .error (.write "t" 1 (.rejected 507 "full")) := by
    decide +kernel
  obtain ⟨loading, reported, requests, hrun, -, -, -, hfails⟩ :=
    inPairs.run_over_service "t" Builtin.oneThousandRows.schema 3 service hconnected
  rw [hrun] at hreported
  subst hreported
  cases hfails _ rfl with
  | write hdown =>
      cases hdown with
      | last hr hdown =>
          rcases hdown.last with rfl | ⟨-, text, hconnection⟩
          · exact ⟨service, checks, _, _, hconnected, hrun, hdown⟩
          · cases hconnection

end Pipeline

end SampleLoad
