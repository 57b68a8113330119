import SampleLoad.Proofs.Load.Compose
import SampleLoad.Proofs.Web.Requests
import SampleLoad.Proofs.Web.Traffic

/-!
Requests on a network that answers as it pleases, or not at all. The requests of a script go out one after the other
up to the first that is not taken, what went out is kept in order, and a client only adds to it. To connect takes one
request, the check, which goes out if there is an endpoint for it that a request can be sent to.
-/

namespace SampleLoad.WebApi

/-! ### Scripts -/

/-- The requests of a script that go out after some others, up to the first that is not taken; `stop?` is that one.
One that cannot be sent does not go out itself. -/
inductive Goes (takes : List Request → Request → Prop) :
    (before script sent : List Request) → (stop? : Option Request) → Prop where
  | done {before : List Request} : Goes takes before [] [] none
  | taken {before script sent : List Request} {stop? : Option Request} {r : Request} (hr : takes before r)
    (hrest : Goes takes (before ++ [r]) script sent stop?) : Goes takes before (r :: script) (r :: sent) stop?
  | refused {before script : List Request} {r : Request} (hsendable : isSendable r.url = true)
    (hr : ¬takes before r) : Goes takes before (r :: script) [r] (some r)
  | unsendable {before script : List Request} {r : Request} (hr : ¬isSendable r.url = true) :
    Goes takes before (r :: script) [] (some r)

namespace Goes

variable {takes : List Request → Request → Prop} {before script sent : List Request}

/-- A script of which every request is taken has gone out. -/
theorem complete (h : Goes takes before script sent none) : sent = script := by
  -- Only the last two constructors stop, so that the induction needs the index to vary.
  generalize hstop : (none : Option Request) = stop? at h
  induction h with
  | done => rfl
  | taken hr hrest ih => rw [ih hstop]
  | refused => cases hstop
  | unsendable => cases hstop

/-- A script after one of which every request is taken. -/
theorem append (h : Goes takes before script sent none) {later after : List Request} {stop? : Option Request}
    (hlater : Goes takes (before ++ sent) later after stop?) :
    Goes takes before (script ++ later) (sent ++ after) stop? := by
  generalize hstop : (none : Option Request) = none? at h
  induction h with
  | done =>
      rw [List.append_nil] at hlater
      exact hlater
  | taken hr hrest ih =>
      refine .taken hr (ih ?_ hstop)
      rw [List.append_assoc]
      exact hlater
  | refused => cases hstop
  | unsendable => cases hstop

/-- Nothing goes out after a script that was stopped. -/
theorem append_stopped {r : Request} (h : Goes takes before script sent (some r)) (later : List Request) :
    Goes takes before (script ++ later) sent (some r) := by
  generalize hstop : some r = stop? at h
  induction h with
  | done => cases hstop
  | taken hr hrest ih => exact .taken hr (ih hstop)
  | refused hsendable hr => exact .refused hsendable hr
  | unsendable hr => exact .unsendable hr

end Goes

/-- What is reported by a program that comes to a result unless a request stops it. -/
def Reports {ε α : Type} (stop? : Option Request) (result reported : Except ε α) : Prop :=
  match stop? with
  | none => reported = result
  | some _ => ∃ e, reported = .error e

namespace Network

variable (network : Network)

/-- The answer to the request is a success. -/
def Confirms (before : List Request) (r : Request) : Prop :=
  isSendable r.url = true ∧ ∃ response, network before r = some response ∧ Status.isSuccess response.status = true

/-- The answer to being asked for something is that there is no such thing. -/
def Misses (before : List Request) (r : Request) : Prop :=
  isSendable r.url = true ∧ r.method = .get ∧ ∃ response, network before r = some response ∧ response.status = 404

/-- The load goes on after the answer to the request. -/
def Takes (before : List Request) (r : Request) : Prop := network.Confirms before r ∨ network.Misses before r

variable {network} {before : List Request} {r : Request}

theorem takes_iff (hmethod : r.method ≠ .get) : network.Takes before r ↔ network.Confirms before r :=
  or_iff_left fun h => hmethod h.2.1

section Answered

variable {response : Response} (hsendable : isSendable r.url = true) (hanswer : network before r = some response)

include hsendable hanswer

theorem confirms_iff : network.Confirms before r ↔ Status.isSuccess response.status = true := by
  refine ⟨?_, fun hstatus => ⟨hsendable, response, hanswer, hstatus⟩⟩
  rintro ⟨-, other, hother, hstatus⟩
  cases hanswer.symm.trans hother
  exact hstatus

theorem misses_iff (hmethod : r.method = .get) : network.Misses before r ↔ response.status = 404 := by
  refine ⟨?_, fun hstatus => ⟨hsendable, hmethod, response, hanswer, hstatus⟩⟩
  rintro ⟨-, -, other, hother, hstatus⟩
  cases hanswer.symm.trans hother
  exact hstatus

end Answered

theorem not_takes_of_unsendable (h : ¬isSendable r.url = true) : ¬network.Takes before r :=
  not_or_intro (fun hconfirms => h hconfirms.1) fun hmisses => h hmisses.1

theorem not_takes_of_none (h : network before r = none) : ¬network.Takes before r := by
  rintro (⟨-, response, hresponse, -⟩ | ⟨-, -, response, hresponse, -⟩)
  · cases h.symm.trans hresponse
  · cases h.symm.trans hresponse

variable (network before r) in
/-- A request is answered, or it is no more than the last of its script. -/
theorem send_cases :
    (∃ response, isSendable r.url = true ∧ network before r = some response ∧
        ((Http.over network.transport).send r).run before = (.ok response, before ++ [r])) ∨
      ∃ e sent, ((Http.over network.transport).send r).run before = (.error e, before ++ sent) ∧
        ¬network.Takes before r ∧ ∀ takes, ¬takes before r → Goes takes before [r] sent (some r) := by
  by_cases hsendable : isSendable r.url = true
  · rw [Http.send_run (network.over_run hsendable before), reply]
    cases hanswer : network before r with
    | none => exact .inr ⟨_, [r], rfl, not_takes_of_none hanswer, fun takes => .refused hsendable⟩
    | some response => exact .inl ⟨response, hsendable, rfl, rfl⟩
  · rw [Http.send_run (network.over_run_unsendable hsendable before)]
    exact .inr ⟨_, [], Prod.ext rfl (List.append_nil before).symm, not_takes_of_unsendable hsendable,
      fun takes _ => .unsendable hsendable⟩

end Network

theorem accepted_success {response : Response} (h : Status.isSuccess response.status = true) :
    accepted response = .ok response := if_pos h

theorem accepted_refusal {response : Response} (h : ¬Status.isSuccess response.status = true) :
    accepted response = .error (.rejected response.status (refusalText response)) := if_neg h

/-! ### Requests are only added -/

/-- The program adds requests to those before it and takes none back. -/
def Grows {α : Type} (prog : StateM (List Request) α) : Prop := ∀ history, history <+: (prog.run history).2

namespace Grows

variable {α β : Type}

theorem pure (value : α) : Grows (Pure.pure value) := fun _ => List.prefix_rfl

theorem bind {prog : StateM (List Request) α} {next : α → StateM (List Request) β} (h : Grows prog)
    (hnext : ∀ value, Grows (next value)) : Grows (prog >>= next) := by
  intro history
  rw [StateT.run_bind]
  exact (h history).trans (hnext _ _)

end Grows

theorem Adds.grows {α : Type} {Fits : Request → Prop} {Result : α → Prop} {prog : StateM (List Request) α}
    (h : Adds Fits Result prog) : Grows prog := by
  intro history
  obtain ⟨-, sent, hsent, -⟩ := h history
  rw [hsent]
  exact List.prefix_append _ _

section Client

variable (network : Network) (config : WebApiConfig)

theorem perform_grows (call : StoreCall) (session : Session) :
    Grows (((webStore network.transport).perform call).run session) :=
  (perform_adds network.service call rfl).grows

/-- A run over the network adds requests, in whatever session it starts. -/
theorem run_grows (p : Pipeline) (container : String) (schema : Schema) (rowCount : Nat) (session : Session) :
    Grows ((p.run (webStore network.transport) container schema rowCount).run session) := by
  have hcalls : Compositional (webStore network.transport) container
      fun prog => ∀ session, Grows (prog.run session) :=
    { pure := fun value session => .pure _
      bind := fun h hnext session => Grows.bind (h session) fun value => hnext _ _
      perform := fun {call} _ => perform_grows network call }
  rw [Pipeline.run, StateT.run_bind]
  refine Grows.bind (hcalls.load p schema rowCount session) fun value => ?_
  rw [StateT.run_bind]
  exact Grows.bind (perform_grows network .close _) fun _ => .pure _

/-! ### Connecting -/

/-- The request by which a client connects. -/
def Checks (config : WebApiConfig) (r : Request) : Prop :=
  ∃ url, config.endpoint ["checkConnection"] = .ok url ∧ r = request config .get url

/-- There is no request to connect by, or it is all that goes out. -/
theorem connect_goes (before : List Request) :
    (∃ e, (connect network.transport config).run before = (.error e, before) ∧ ∀ check, ¬Checks config check) ∨
      ∃ check sent stop? result, Checks config check ∧
        (connect network.transport config).run before = (result, before ++ sent) ∧
        Goes network.Confirms before [check] sent stop? ∧ Reports stop? (.ok { config }) result := by
  cases hurl : config.endpoint ["checkConnection"] with
  | error e =>
      refine .inl ⟨e, by simp only [connect, Http.connect, hurl]; rfl, ?_⟩
      rintro check ⟨url, hurl', -⟩
      cases hurl.symm.trans hurl'
  | ok url =>
      have hcheck : Checks config (request config .get url) := ⟨url, hurl, rfl⟩
      simp only [connect, Http.connect, hurl]
      rcases network.send_cases before (request config .get url) with
        ⟨response, hsendable, hanswer, hrun⟩ | ⟨e, sent, hrun, hnot, hgoes⟩
      · have hconfirms := Network.confirms_iff hsendable hanswer
        rw [bind_run hrun]
        by_cases hstatus : Status.isSuccess response.status = true
        · simp only [accepted_success hstatus]
          exact .inr ⟨_, _, none, _, hcheck, rfl, .taken (hconfirms.mpr hstatus) .done, rfl⟩
        · simp only [accepted_refusal hstatus]
          exact .inr ⟨_, _, some _, _, hcheck, rfl, .refused hsendable (mt hconfirms.mp hstatus), _, rfl⟩
      · rw [bind_run hrun]
        exact .inr ⟨_, sent, some _, _, hcheck, rfl, hgoes _ (mt .inl hnot), _, rfl⟩

/-- Nothing goes out if the check cannot be sent. Otherwise the check goes out, and if it is taken, the session is
open. -/
theorem connect_cases (history : List Request) :
    (¬Reachable config ["checkConnection"] ∧
        ∃ e, (connect network.transport config).run history = (.error e, history)) ∨
      Reachable config ["checkConnection"] ∧ ∃ r, Checks config r ∧
        ((connect network.transport config).run history = (.ok { config }, history ++ [r]) ∨
          ∃ e, (connect network.transport config).run history = (.error e, history ++ [r])) := by
  rcases connect_goes network config history with
    ⟨e, hrun, hnone⟩ | ⟨check, sent, stop?, result, ⟨url, hurl, rfl⟩, hrun, hgoes, hreports⟩
  · refine .inl ⟨?_, e, hrun⟩
    rintro ⟨url, hurl, -⟩
    exact hnone _ ⟨url, hurl, rfl⟩
  · cases hgoes with
    | taken hr hrest =>
        cases hrest
        obtain rfl : result = .ok { config } := hreports
        exact .inr ⟨⟨url, hurl, hr.1⟩, _, ⟨url, hurl, rfl⟩, .inl hrun⟩
    | refused hsendable hr =>
        obtain ⟨e, rfl⟩ := hreports
        exact .inr ⟨⟨url, hurl, hsendable⟩, _, ⟨url, hurl, rfl⟩, .inr ⟨e, hrun⟩⟩
    | unsendable hr =>
        obtain ⟨e, rfl⟩ := hreports
        rw [List.append_nil] at hrun
        refine .inl ⟨?_, e, hrun⟩
        rintro ⟨other, hother, hsendable⟩
        cases hurl.symm.trans hother
        exact hr hsendable

end Client

end SampleLoad.WebApi
