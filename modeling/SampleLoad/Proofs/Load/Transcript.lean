import SampleLoad.Proofs.Load.Script
import SampleLoad.Proofs.Store.Exchange
import SampleLoad.Template.Registry

/-!
What a run and a store say to each other. A store is taken at its worst: each answer may depend on
everything asked and answered before. Whatever it answers, a run asks for the container, drops it if it is
there, creates it and writes, and stops at the first call that fails; closing the store comes last. A store
that refuses nothing is given every row once, in order, in batches of the capacity and a last one with what
is left.
-/

namespace SampleLoad

/-- What a store answers to a call, given all exchanges before it. -/
abbrev Answers : Type := (history : List Exchange) → (call : StoreCall) → Except StoreError call.Answer

namespace Answers

/-- The store that gives these answers. Its state is the record of all exchanges. -/
def store (answers : Answers) : ContainerStore (StateM (List Exchange)) where
  perform call := fun history => (answers history call, history ++ [⟨call, answers history call⟩])

def existed (answers : Answers) (history : List Exchange) (container : String) : Bool :=
  match answers history (.exists container) with
  | .ok existed => existed
  | .error _ => false

/-- Exchanges after a history in which every answer is the one given. -/
def Gave (answers : Answers) : (history exchanges : List Exchange) → Prop
  | _, [] => True
  | history, x :: rest => x.answer = answers history x.call ∧ Gave answers (history ++ [x]) rest

theorem not_failed_of_gave {answers : Answers}
    (hok : ∀ history call, ∃ answer, answers history call = .ok answer) {history exchanges : List Exchange}
    (h : answers.Gave history exchanges) : ∀ x ∈ exchanges, ¬x.Failed := by
  induction exchanges generalizing history with
  | nil => exact fun x hx => nomatch hx
  | cons y rest ih =>
      intro x hx hfailed
      rcases List.mem_cons.mp hx with rfl | hrest
      · obtain ⟨answer, hanswer⟩ := hok history x.call
        obtain ⟨e, he⟩ := hfailed
        rw [← h.1, he] at hanswer
        cases hanswer
      · exact ih h.2 x hrest hfailed

/-- A store without containers that refuses nothing. -/
def obliging : Answers := fun _ call =>
  match call with
  | .exists _ => .ok false
  | .create .. | .drop _ | .write _ | .close => .ok ()

theorem obliging_ok (history : List Exchange) (call : StoreCall) :
    ∃ answer, obliging history call = .ok answer := by
  cases call <;> exact ⟨_, rfl⟩

theorem perform_run (answers : Answers) (call : StoreCall) (history : List Exchange) :
    (answers.store.perform call).run history =
      (answers history call, history ++ [⟨call, answers history call⟩]) := rfl

end Answers

/-- The calls of a script in order, cut short right after the first that fails. -/
structure CutShort (script : List StoreCall) (exchanges : List Exchange) : Prop where
  inOrder : exchanges.map Exchange.call <+: script
  stops : ∀ before x after, exchanges = before ++ x :: after → x.Failed → after = []
  complete : (∀ x ∈ exchanges, ¬x.Failed) → exchanges.map Exchange.call = script

/-- The exchanges in which steps are made, and what is reported; `result` is reported if none fails. -/
inductive Performed (result : Except LoadError Metrics) :
    List LoadStep → List Exchange → Except LoadError Metrics → Prop where
  | complete : Performed result [] [] result
  | failed (step : LoadStep) (rest : List LoadStep) (e : StoreError) :
    Performed result (step :: rest) [⟨step.call, .error e⟩] (.error (step.blame e))
  | succeeded (step : LoadStep) (answer : step.call.Answer) {rest : List LoadStep}
    {exchanges : List Exchange} {reported : Except LoadError Metrics}
    (h : Performed result rest exchanges reported) :
    Performed result (step :: rest) (⟨step.call, .ok answer⟩ :: exchanges) reported

namespace Performed

variable {result reported : Except LoadError Metrics} {steps : List LoadStep} {exchanges : List Exchange}

theorem cutShort (h : Performed result steps exchanges reported) :
    CutShort (steps.map LoadStep.call) exchanges := by
  induction h with
  | complete => exact ⟨List.prefix_rfl, fun before x after h _ => by simp at h, fun _ => rfl⟩
  | failed step rest e =>
      refine ⟨?_, fun before x after h _ => ?_, fun h => absurd ⟨e, rfl⟩ (h _ List.mem_cons_self)⟩
      · exact List.prefix_append _ _
      · cases before with
        | nil => exact (List.cons.inj h).2.symm
        | cons y before => simp at h
  | succeeded step answer h ih =>
      refine ⟨List.cons_prefix_cons.mpr ⟨rfl, ih.inOrder⟩, fun before x after h hx => ?_, fun h => ?_⟩
      · cases before with
        | nil =>
            obtain ⟨rfl, -⟩ := List.cons.inj h
            obtain ⟨e, he⟩ := hx
            cases he
        | cons y before => exact ih.stops before x after (List.cons.inj h).2 hx
      · rw [List.map_cons, List.map_cons, ih.complete fun x hx => h x (List.mem_cons_of_mem _ hx)]

/-- Nothing but the result is reported where nothing fails. -/
theorem reported_eq (h : Performed result steps exchanges reported) (hok : ∀ x ∈ exchanges, ¬x.Failed) :
    reported = result := by
  induction h with
  | complete => rfl
  | failed step rest e => exact absurd ⟨e, rfl⟩ (hok _ List.mem_cons_self)
  | succeeded step answer h ih => exact ih fun x hx => hok x (List.mem_cons_of_mem _ hx)

end Performed

/-- Steps made over a store that answers. -/
theorem performSteps_run (answers : Answers) (result : Except LoadError Metrics) (steps : List LoadStep)
    (history : List Exchange) :
    ∃ exchanges reported,
      (performSteps answers.store result steps).run history = (reported, history ++ exchanges) ∧
      answers.Gave history exchanges ∧ Performed result steps exchanges reported := by
  induction steps generalizing history with
  | nil => exact ⟨[], result, by rw [List.append_nil]; rfl, trivial, .complete⟩
  | cons step rest ih =>
      rw [performSteps, StateT.run_bind, answers.perform_run]
      cases hanswer : answers history step.call with
      | error e => exact ⟨_, _, rfl, ⟨hanswer.symm, trivial⟩, .failed step rest e⟩
      | ok answer =>
          obtain ⟨exchanges, reported, hrun, hgave, h⟩ := ih (history ++ [⟨step.call, .ok answer⟩])
          rw [List.append_assoc] at hrun
          exact ⟨⟨step.call, .ok answer⟩ :: exchanges, reported, hrun, ⟨hanswer.symm, hgave⟩,
            .succeeded step answer h⟩

namespace Pipeline

variable (p : Pipeline) (answers : Answers) (container : String) (schema : Schema) (rowCount : Nat)

/-- A run over a store that answers, from its first call on: what is reported, and all exchanges. -/
def runOver : Except LoadError Metrics × List Exchange :=
  (p.run answers.store container schema rowCount).run []

/-- All steps of a run but the last, which closes the store. -/
def steps : List LoadStep :=
  ⟨.exists container, .provision container⟩ ::
    loadSteps container schema (p.plan schema rowCount) (answers.existed [] container)

theorem load_run (hvalid : schema.validate = .ok ()) :
    ∃ exchanges reported,
      (p.load answers.store container schema rowCount).run [] = (reported, exchanges) ∧
      answers.Gave [] exchanges ∧
      Performed ((p.plan schema rowCount).outcome {}) (p.steps answers container schema rowCount) exchanges
        reported := by
  rw [load_eq, hvalid]
  simp only [StateT.run_bind, answers.perform_run]
  rw [steps, Answers.existed]
  cases hanswer : answers [] (.exists container) with
  | error e =>
      exact ⟨_, _, rfl, ⟨hanswer.symm, trivial⟩, .failed ⟨.exists container, .provision container⟩ _ e⟩
  | ok existed =>
      obtain ⟨exchanges, reported, hrun, hgave, h⟩ := performSteps_run answers
        ((p.plan schema rowCount).outcome {}) (loadSteps container schema (p.plan schema rowCount) existed)
        [⟨.exists container, .ok existed⟩]
      exact ⟨⟨.exists container, .ok existed⟩ :: exchanges, reported, hrun, ⟨hanswer.symm, hgave⟩,
        .succeeded ⟨.exists container, .provision container⟩ existed h⟩

/-- A run is loading and then closing. -/
theorem runOver_eq {exchanges : List Exchange} {reported : Except LoadError Metrics}
    (hload : (p.load answers.store container schema rowCount).run [] = (reported, exchanges)) :
    p.runOver answers container schema rowCount =
      (report reported (answers exchanges .close), exchanges ++ [⟨.close, answers exchanges .close⟩]) := by
  rw [runOver, run, StateT.run_bind, hload]
  rfl

theorem writeSteps_calls (written : Nat) (batches : List (List Row)) :
    (writeSteps container written batches).map LoadStep.call =
      batches.map fun batch => .write (.single container batch.toArray) := by
  induction batches generalizing written with
  | nil => rfl
  | cons batch batches ih => rw [writeSteps, List.map_cons, List.map_cons, ih]

theorem steps_calls :
    (p.steps answers container schema rowCount).map LoadStep.call =
      .exists container :: (if answers.existed [] container then [.drop container] else []) ++
        .create container schema ::
          (p.plan schema rowCount).batches.map fun batch => .write (.single container batch.toArray) := by
  rw [steps, loadSteps, List.map_cons, List.map_append, writeSteps_calls, provisionSteps]
  cases answers.existed [] container <;> rfl

/-- The calls of a run, whatever the store answers: nothing for an invalid schema, otherwise the script of
provisioning and writing up to the first failure; then `close`, once. -/
theorem run_calls :
    ∃ (loading : List Exchange) (batches : List Batch),
      (p.runOver answers container schema rowCount).2 = loading ++ [⟨.close, answers loading .close⟩] ∧
      answers.Gave [] loading ∧
      (∀ x ∈ loading, x.call ≠ .close) ∧
      (schema.validate ≠ .ok () → loading = []) ∧
      (schema.validate = .ok () →
        CutShort
          (.exists container :: (if answers.existed [] container then [.drop container] else []) ++
            .create container schema :: batches.map .write)
          loading) ∧
      batches.length ≤ rowCount / p.capacity.rows + 1 ∧
      ∀ batch ∈ batches, batch.containers = [container] := by
  let batches := (p.plan schema rowCount).batches.map fun batch => Batch.single container batch.toArray
  have hlength : batches.length ≤ rowCount / p.capacity.rows + 1 := by
    rw [List.length_map]
    exact p.plan_length_le schema rowCount
  have htarget : ∀ batch ∈ batches, batch.containers = [container] := by
    intro batch hbatch
    obtain ⟨rows, -, rfl⟩ := List.mem_map.mp hbatch
    rfl
  cases hvalid : schema.validate with
  | error e =>
      have hload : (p.load answers.store container schema rowCount).run [] = (.error (.schema e), []) := by
        rw [load_eq, hvalid]
        rfl
      rw [p.runOver_eq answers container schema rowCount hload]
      exact ⟨[], batches, rfl, trivial, fun x hx => (nomatch hx), fun _ => rfl, fun h => (nomatch h), hlength,
        htarget⟩
  | ok valid =>
      obtain ⟨loading, reported, hload, hgave, hperformed⟩ := p.load_run answers container schema rowCount hvalid
      have hscript := hperformed.cutShort
      rw [steps_calls] at hscript
      have hwrites : batches.map StoreCall.write = (p.plan schema rowCount).batches.map fun batch =>
          .write (.single container batch.toArray) := by
        rw [List.map_map]
        rfl
      rw [p.runOver_eq answers container schema rowCount hload]
      refine ⟨loading, batches, rfl, hgave, fun x hx hclose => ?_, fun h => absurd rfl h,
        fun _ => hwrites ▸ hscript, hlength, htarget⟩
      have hmem := hscript.inOrder.subset (List.mem_map_of_mem hx)
      rw [hclose] at hmem
      cases answers.existed [] container <;> simp at hmem

/-- The writes of the script of a run are those of its plan. -/
theorem steps_writes :
    ((p.steps answers container schema rowCount).map LoadStep.call).filterMap StoreCall.batch? =
      (p.plan schema rowCount).batches.map fun batch => .single container batch.toArray := by
  have hwrites (batches : List (List Row)) :
      (batches.map fun batch => StoreCall.write (.single container batch.toArray)).filterMap StoreCall.batch? =
        batches.map fun batch => .single container batch.toArray := by
    induction batches with
    | nil => rfl
    | cons batch batches ih => rw [List.map_cons, List.map_cons, List.filterMap_cons, ih]; rfl
  rw [steps_calls, List.filterMap_append, List.filterMap_cons, List.filterMap_cons, hwrites]
  cases answers.existed [] container <;> rfl

/-- A store that refuses nothing is given all rows, in order, in full batches and one last batch with the
remainder. -/
theorem run_writes_all {rows : List Row} (hanswers : ∀ history call, ∃ answer, answers history call = .ok answer)
    (hvalid : schema.validate = .ok ()) (hrows : p.items schema rowCount = rows.map .ok) :
    ∃ full last,
      Exchange.writes (p.runOver answers container schema rowCount).2 =
        (full ++ [last]).map (fun batch => Batch.single container batch.toArray) ∧
      full.length = rowCount / p.capacity.rows ∧
      (∀ batch ∈ full, batch.length = p.capacity.rows) ∧
      last.length = rowCount % p.capacity.rows ∧
      full.flatten ++ last = rows ∧
      (p.runOver answers container schema rowCount).1 = .ok ⟨rowCount, rowCount / p.capacity.rows + 1⟩ := by
  have hgenerated : upToError (p.items schema rowCount) = (rows, none) := by
    rw [hrows, upToError_map_ok]
  have hcount : rows.length = rowCount := by
    rw [← p.items_length schema rowCount, hrows, List.length_map]
  have hfault : (p.plan schema rowCount).fault? = none := congrArg Prod.snd hgenerated
  obtain ⟨full, last, hbatches, hfull, hsize, hlast, hjoined⟩ := p.plan_complete schema rowCount hfault
  rw [Pipeline.rows, hgenerated] at hfull hlast hjoined
  rw [hcount] at hfull hlast
  have hjoined : full.flatten ++ last = rows := hjoined
  obtain ⟨loading, reported, hload, hgave, hperformed⟩ := p.load_run answers container schema rowCount hvalid
  have hnone := Answers.not_failed_of_gave hanswers hgave
  obtain ⟨closing, hclosing⟩ := hanswers loading .close
  rw [p.runOver_eq answers container schema rowCount hload, hperformed.reported_eq hnone, hclosing]
  refine ⟨full, last, ?_, hfull, hsize, hlast, hjoined, ?_⟩
  · rw [Exchange.writes_append, Exchange.writes_eq, hperformed.cutShort.complete hnone, steps_writes, hbatches]
    exact List.append_nil _
  · rw [LoadPlan.outcome, hfault, hbatches, List.flatten_append, List.flatten_singleton, hjoined, hcount,
      List.length_append, List.length_singleton, hfull, Nat.zero_add, Nat.zero_add]
    rfl

theorem run_writes_all_five :
    (∀ history call, ∃ answer, Answers.obliging history call = .ok answer) ∧
      Builtin.oneThousandRows.schema.validate = .ok () ∧
      inPairs.items Builtin.oneThousandRows.schema 5 = (inPairs.rows Builtin.oneThousandRows.schema 5).map .ok ∧
      ∃ full last,
        Exchange.writes (inPairs.runOver .obliging "t" Builtin.oneThousandRows.schema 5).2 =
          (full ++ [last]).map (fun batch => Batch.single "t" batch.toArray) ∧
        full.length = 2 ∧ (∀ batch ∈ full, batch.length = 2) ∧ last.length = 1 ∧
        full.flatten ++ last = inPairs.rows Builtin.oneThousandRows.schema 5 ∧
        (inPairs.runOver .obliging "t" Builtin.oneThousandRows.schema 5).1 = .ok ⟨5, 3⟩ :=
  ⟨Answers.obliging_ok, rfl, rfl,
    inPairs.run_writes_all .obliging "t" Builtin.oneThousandRows.schema 5 Answers.obliging_ok rfl rfl⟩

end Pipeline

end SampleLoad
