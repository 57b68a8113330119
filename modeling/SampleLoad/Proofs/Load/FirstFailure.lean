import SampleLoad.Proofs.Load.Transcript

/-!
What a run reports. The steps of a run are its check of the schema, the calls that provision the container, the
rows as they are generated, the writes and the call that closes the store. The report names the first of these
that failed and says what was wrong with it; how the store is closed matters only if everything before went
well. Main statement: `Pipeline.run_reports_first_failure`.
-/

namespace SampleLoad

/-! ### Scripts whose steps are numbered -/

/-- The calls of provisioning, each to be blamed on that. -/
def LoadStep.Provisions (step : LoadStep) (container : String) (schema : Schema) : Prop :=
  (step.call = .exists container ∨ step.call = .drop container ∨ step.call = .create container schema) ∧
    step.blame = .provision container

/-- Steps that provision a container or write to it; the writes are counted on from those before. -/
inductive Numbered (container : String) (schema : Schema) : (written : Nat) → List LoadStep → Prop where
  | nil {written : Nat} : Numbered container schema written []
  | provision {written : Nat} {step : LoadStep} {rest : List LoadStep} (hstep : step.Provisions container schema)
    (hrest : Numbered container schema written rest) : Numbered container schema written (step :: rest)
  | write {written : Nat} {rest : List LoadStep} (batch : Batch)
    (hrest : Numbered container schema (written + 1) rest) :
    Numbered container schema written (⟨.write batch, .write container (written + 1)⟩ :: rest)

theorem LoadStep.Provisions.batch? {step : LoadStep} {container : String} {schema : Schema}
    (h : step.Provisions container schema) : step.call.batch? = none := by
  rcases h.1 with hcall | hcall | hcall <;> rw [hcall] <;> rfl

theorem writeSteps_numbered (container : String) (schema : Schema) (written : Nat) (batches : List (List Row)) :
    Numbered container schema written (writeSteps container written batches) := by
  induction batches generalizing written with
  | nil => exact .nil
  | cons batch batches ih => exact .write _ (ih (written + 1))

theorem Pipeline.steps_numbered (p : Pipeline) (answers : Answers) (container : String) (schema : Schema)
    (rowCount : Nat) : Numbered container schema 0 (p.steps answers container schema rowCount) := by
  have hwrites := writeSteps_numbered container schema 0 (p.plan schema rowCount).batches
  have hcreate : LoadStep.Provisions ⟨.create container schema, .provision container⟩ container schema :=
    ⟨.inr (.inr rfl), rfl⟩
  refine .provision ⟨.inl rfl, rfl⟩ ?_
  cases answers.existed [] container with
  | false => exact .provision hcreate hwrites
  | true => exact .provision ⟨.inr (.inl rfl), rfl⟩ (.provision hcreate hwrites)

/-! ### What calls report -/

/-- Exchanges of which the last failed and no other, and what is reported of that call. -/
inductive FailedCall (container : String) (schema : Schema) : List Exchange → LoadError → Prop where
  | provision {before : List Exchange} {call : StoreCall} {e : StoreError}
    (hcall : call = .exists container ∨ call = .drop container ∨ call = .create container schema)
    (hbefore : ∀ x ∈ before, ¬x.Failed) :
    FailedCall container schema (before ++ [⟨call, .error e⟩]) (.provision container e)
  /-- Batches are counted from one. -/
  | write {before : List Exchange} {batch : Batch} {e : StoreError} (hbefore : ∀ x ∈ before, ¬x.Failed) :
    FailedCall container schema (before ++ [⟨.write batch, .error e⟩])
      (.write container ((Exchange.writes before).length + 1) e)

namespace FailedCall

variable {container : String} {schema : Schema} {exchanges : List Exchange} {fault other : LoadError}

theorem failed (h : FailedCall container schema exchanges fault) : ∃ x ∈ exchanges, x.Failed := by
  cases h with
  | provision _ _ => exact ⟨_, List.mem_append_right _ List.mem_cons_self, _, rfl⟩
  | write _ => exact ⟨_, List.mem_append_right _ List.mem_cons_self, _, rfl⟩

/-- The exchanges say what is to be reported. -/
theorem unique (h : FailedCall container schema exchanges fault) (h' : FailedCall container schema exchanges other) :
    other = fault := by
  generalize hexchanges : exchanges = again at h'
  cases h with
  | provision hcall hbefore =>
      cases h' with
      | provision hcall' hbefore' =>
          obtain ⟨-, hlast⟩ := List.append_inj' hexchanges rfl
          cases hlast
          rfl
      | write hbefore' =>
          obtain ⟨-, hlast⟩ := List.append_inj' hexchanges rfl
          cases hlast
          simp at hcall
  | write hbefore =>
      cases h' with
      | provision hcall' hbefore' =>
          obtain ⟨-, hlast⟩ := List.append_inj' hexchanges rfl
          cases hlast
          simp at hcall'
      | write hbefore' =>
          obtain ⟨rfl, hlast⟩ := List.append_inj' hexchanges rfl
          cases hlast
          rfl

end FailedCall

/-- Numbered steps end with a call that failed, or none did. -/
theorem Performed.failedCall {container : String} {schema : Schema} {result reported : Except LoadError Metrics}
    {steps : List LoadStep} {history exchanges : List Exchange} (h : Performed result steps exchanges reported)
    (hhistory : ∀ x ∈ history, ¬x.Failed)
    (hsteps : Numbered container schema (Exchange.writes history).length steps) :
    ((∀ x ∈ history ++ exchanges, ¬x.Failed) ∧ reported = result) ∨
      ∃ fault, reported = .error fault ∧ FailedCall container schema (history ++ exchanges) fault := by
  induction h generalizing history with
  | complete =>
      rw [List.append_nil]
      exact .inl ⟨hhistory, rfl⟩
  | failed step rest e =>
      refine .inr ⟨_, rfl, ?_⟩
      cases hsteps with
      | provision hstep hrest =>
          rw [hstep.2]
          exact .provision hstep.1 hhistory
      | write batch hrest => exact .write hhistory
  | @succeeded step answer rest exchanges reported h ih =>
      have hnow : ∀ x ∈ history ++ [⟨step.call, .ok answer⟩], ¬x.Failed := by
        intro x hx
        rcases List.mem_append.mp hx with hbefore | hlast
        · exact hhistory x hbefore
        · rw [List.mem_singleton.mp hlast]
          rintro ⟨e, he⟩
          cases he
      have hrest :
          Numbered container schema (Exchange.writes (history ++ [⟨step.call, .ok answer⟩])).length rest := by
        rw [Exchange.writes_append, List.length_append]
        cases hsteps with
        | provision hstep hrest =>
            rw [Exchange.writes_eq [_], List.map_singleton, List.filterMap_cons_none hstep.batch?]
            exact hrest
        | write batch hrest => exact hrest
      have hagain := ih hnow hrest
      rw [List.append_assoc] at hagain
      exact hagain

/-! ### Loading and closing -/

/-- One more exchange in which the answer is the one given. -/
theorem Answers.gave_append {answers : Answers} {history exchanges : List Exchange}
    (h : answers.Gave history exchanges) (call : StoreCall) :
    answers.Gave history (exchanges ++ [⟨call, answers (history ++ exchanges) call⟩]) := by
  induction exchanges generalizing history with
  | nil =>
      rw [List.append_nil]
      exact ⟨rfl, trivial⟩
  | cons x rest ih =>
      have hrest := ih h.2
      rw [List.append_assoc] at hrest
      exact ⟨h.1, hrest⟩

section Congruence

variable {m : Type → Type} [Monad m] {store other : ContainerStore m}

theorem performSteps_congr {steps : List LoadStep}
    (hsame : ∀ step ∈ steps, other.perform step.call = store.perform step.call)
    (result : Except LoadError Metrics) : performSteps other result steps = performSteps store result steps := by
  induction steps with
  | nil => rfl
  | cons step rest ih =>
      have hrest := ih fun s hs => hsame s (List.mem_cons_of_mem _ hs)
      rw [performSteps, performSteps, hsame step List.mem_cons_self, hrest]

/-- What holds of the calls of provisioning and of all writes holds of every step. -/
theorem forall_loadSteps (Holds : StoreCall → Prop) {container : String} {schema : Schema} {plan : LoadPlan}
    (hdrop : Holds (.drop container)) (hcreate : Holds (.create container schema))
    (hwrite : ∀ batch ∈ plan.batches, Holds (.write (.single container batch.toArray))) {existed : Bool} :
    ∀ step ∈ loadSteps container schema plan existed, Holds step.call := by
  intro step hstep
  have hcall : step.call ∈ (loadSteps container schema plan existed).map LoadStep.call := List.mem_map_of_mem hstep
  rw [loadSteps, List.map_append, Pipeline.writeSteps_calls] at hcall
  rcases List.mem_append.mp hcall with hprovision | hwritten
  · cases existed with
    | false =>
        rw [List.mem_singleton.mp hprovision]
        exact hcreate
    | true =>
        rcases List.mem_cons.mp hprovision with hfirst | hlast
        · rw [hfirst]
          exact hdrop
        · rw [List.mem_singleton.mp hlast]
          exact hcreate
  · obtain ⟨batch, hbatch, hcall⟩ := List.mem_map.mp hwritten
    rw [← hcall]
    exact hwrite batch hbatch

/-- Loading does not depend on how a store closes. -/
theorem Pipeline.load_congr [LawfulMonad m]
    (hsame : ∀ call, call ≠ .close → other.perform call = store.perform call) (p : Pipeline)
    (container : String) (schema : Schema) (rowCount : Nat) :
    p.load other container schema rowCount = p.load store container schema rowCount := by
  rw [load_eq, load_eq, hsame (.exists container) StoreCall.noConfusion]
  cases schema.validate with
  | error e => rfl
  | ok valid =>
      refine bind_congr fun answer => ?_
      cases answer with
      | error e => rfl
      | ok existed =>
          refine performSteps_congr (fun step hstep => hsame step.call ?_) _
          exact forall_loadSteps (· ≠ .close) StoreCall.noConfusion StoreCall.noConfusion
            (fun _ _ => StoreCall.noConfusion) step hstep

end Congruence

namespace Pipeline

variable (p : Pipeline) (answers : Answers) (container : String) (schema : Schema) (rowCount : Nat)

/-- What failed first in loading, and what is to be reported of it. Rows are generated as they are needed: those
of a batch before it is written, and none after a call has failed. -/
inductive FirstFailure (loading : List Exchange) : LoadError → Prop where
  | check {e : SchemaError} (he : schema.validate = .error e) (hnothing : loading = []) :
    FirstFailure loading (.schema e)
  | call {fault : LoadError} (hvalid : schema.validate = .ok ()) (hfailed : FailedCall container schema loading fault)
    (hgenerated : ∀ index < (Exchange.writes loading).length * p.capacity.rows, ∀ e,
      (p.items schema rowCount)[index]? ≠ some (.error e)) : FirstFailure loading fault
  | generate {index : Nat} {e : GeneratorError} (hvalid : schema.validate = .ok ())
    (hbefore : ∀ x ∈ loading, ¬x.Failed) (hwritten : (Exchange.writes loading).length = index / p.capacity.rows)
    (hfails : FailsAt (p.items schema rowCount) index e) : FirstFailure loading (.generator e)

structure Succeeded (loading : List Exchange) : Prop where
  valid : schema.validate = .ok ()
  answered : ∀ x ∈ loading, ¬x.Failed
  generated : ∃ rows : List Row, p.items schema rowCount = rows.map .ok

namespace FirstFailure

variable {p container schema rowCount} {loading : List Exchange} {fault other : LoadError}

/-- Neither closing the store nor a full buffer is reported in this way. -/
theorem own (h : p.FirstFailure container schema rowCount loading fault) :
    (∀ e, fault ≠ .connection e) ∧ ∀ e, fault ≠ .buffer e := by
  cases h with
  | check he hnothing => exact ⟨fun _ => LoadError.noConfusion, fun _ => LoadError.noConfusion⟩
  | call hvalid hfailed hgenerated =>
      cases hfailed <;> exact ⟨fun _ => LoadError.noConfusion, fun _ => LoadError.noConfusion⟩
  | generate hvalid hbefore hwritten hfails =>
      exact ⟨fun _ => LoadError.noConfusion, fun _ => LoadError.noConfusion⟩

theorem not_succeeded (h : p.FirstFailure container schema rowCount loading fault) :
    ¬p.Succeeded schema rowCount loading := by
  intro hsucceeded
  cases h with
  | check he hnothing => exact nomatch hsucceeded.valid.symm.trans he
  | call hvalid hfailed hgenerated =>
      obtain ⟨x, hx, hfailed⟩ := hfailed.failed
      exact hsucceeded.answered x hx hfailed
  | generate hvalid hbefore hwritten hfails =>
      obtain ⟨rows, hrows⟩ := hsucceeded.generated
      have hnone := ((failsAt_iff _ _ _).mp hfails).2
      rw [hrows, upToError_map_ok] at hnone
      cases hnone

/-- One thing fails first. -/
theorem unique (h : p.FirstFailure container schema rowCount loading fault)
    (h' : p.FirstFailure container schema rowCount loading other) : other = fault := by
  cases h with
  | check he hnothing =>
      cases h' with
      | check he' hnothing' =>
          cases he.symm.trans he'
          rfl
      | call hvalid' hfailed' hgenerated' => exact nomatch he.symm.trans hvalid'
      | generate hvalid' hbefore' hwritten' hfails' => exact nomatch he.symm.trans hvalid'
  | call hvalid hfailed hgenerated =>
      cases h' with
      | check he' hnothing' => exact nomatch hvalid.symm.trans he'
      | call hvalid' hfailed' hgenerated' => exact hfailed.unique hfailed'
      | generate hvalid' hbefore' hwritten' hfails' =>
          obtain ⟨x, hx, hfailed⟩ := hfailed.failed
          exact absurd hfailed (hbefore' x hx)
  | generate hvalid hbefore hwritten hfails =>
      cases h' with
      | check he' hnothing' => exact nomatch hvalid.symm.trans he'
      | call hvalid' hfailed' hgenerated' =>
          obtain ⟨x, hx, hfailed⟩ := hfailed'.failed
          exact absurd hfailed (hbefore x hx)
      | generate hvalid' hbefore' hwritten' hfails' =>
          cases ((failsAt_iff _ _ _).mp hfails).2.symm.trans ((failsAt_iff _ _ _).mp hfails').2
          rfl

end FirstFailure

theorem items_of_complete (hnone : (p.plan schema rowCount).fault? = none) :
    p.items schema rowCount = (p.rows schema rowCount).map .ok := by
  have hlength : (p.rows schema rowCount).length = (p.items schema rowCount).length := by
    rw [rows_length_of_complete hnone, items_length]
  have htake := p.items_take schema rowCount (Nat.le_refl _)
  rw [List.take_length, hlength, List.take_length] at htake
  exact htake

theorem failsAt_of_cut {e : GeneratorError} (hsome : (p.plan schema rowCount).fault? = some e) :
    FailsAt (p.items schema rowCount) (p.rows schema rowCount).length e :=
  (failsAt_iff _ _ _).mpr ⟨rfl, hsome⟩

/-- The rows of a batch that the plan has are rows indeed. -/
theorem items_of_batch {number : Nat} (hnumber : number ≤ (p.plan schema rowCount).batches.length) :
    ∀ index < number * p.capacity.rows, ∀ e, (p.items schema rowCount)[index]? ≠ some (.error e) := by
  intro index hindex e hitem
  cases hfault : (p.plan schema rowCount).fault? with
  | none =>
      rw [p.items_of_complete schema rowCount hfault, List.getElem?_map, Option.map_eq_some_iff] at hitem
      obtain ⟨row, -, hrow⟩ := hitem
      cases hrow
  | some e' =>
      rw [p.plan_cut schema rowCount hfault] at hnumber
      have hbefore : index < (p.rows schema rowCount).length :=
        calc index < number * p.capacity.rows := hindex
          _ ≤ (p.rows schema rowCount).length / p.capacity.rows * p.capacity.rows :=
            Nat.mul_le_mul_right _ hnumber
          _ ≤ (p.rows schema rowCount).length := Nat.div_mul_le_self _ _
      obtain ⟨row, hrow⟩ := (p.failsAt_of_cut schema rowCount hfault).before index hbefore
      cases hrow.symm.trans hitem

/-- Loading writes what the plan has, or the first of it. -/
theorem writes_prefix {loading : List Exchange} {reported : Except LoadError Metrics}
    (h : Performed ((p.plan schema rowCount).outcome {}) (p.steps answers container schema rowCount) loading
      reported) :
    Exchange.writes loading <+:
      (p.plan schema rowCount).batches.map fun batch => .single container batch.toArray := by
  rw [Exchange.writes_eq, ← p.steps_writes answers container schema rowCount]
  exact h.cutShort.inOrder.filterMap _

/-- Loading ends with what failed first, or with success. -/
theorem load_first_failure :
    ∃ loading reported, (p.load answers.store container schema rowCount).run [] = (reported, loading) ∧
      answers.Gave [] loading ∧
      ((∃ fault, reported = .error fault ∧ p.FirstFailure container schema rowCount loading fault) ∨
        ((∃ metrics, reported = .ok metrics) ∧ p.Succeeded schema rowCount loading)) := by
  cases hvalid : schema.validate with
  | error e =>
      have hload : (p.load answers.store container schema rowCount).run [] = (.error (.schema e), []) := by
        rw [p.load_invalid answers.store container hvalid]
        rfl
      exact ⟨[], _, hload, trivial, .inl ⟨_, rfl, .check hvalid rfl⟩⟩
  | ok valid =>
      obtain ⟨loading, reported, hload, hgave, h⟩ := p.load_run answers container schema rowCount hvalid
      refine ⟨loading, reported, hload, hgave, ?_⟩
      have hwrites := p.writes_prefix answers container schema rowCount h
      have hnothing : ∀ x ∈ ([] : List Exchange), ¬x.Failed := fun x hx => (nomatch hx)
      rcases h.failedCall hnothing (p.steps_numbered answers container schema rowCount) with
        ⟨hnone, hreported⟩ | ⟨fault, hreported, hfailed⟩
      · cases hfault : (p.plan schema rowCount).fault? with
        | none =>
            refine .inr ⟨?_, hvalid, hnone, _, p.items_of_complete schema rowCount hfault⟩
            rw [hreported, LoadPlan.outcome, hfault]
            exact ⟨_, rfl⟩
        | some e =>
            refine .inl ⟨.generator e, ?_, .generate hvalid hnone ?_ (p.failsAt_of_cut schema rowCount hfault)⟩
            · rw [hreported, LoadPlan.outcome, hfault]
            · rw [Exchange.writes_eq, h.cutShort.complete hnone, steps_writes, List.length_map,
                p.plan_cut schema rowCount hfault]
      · have hcount := hwrites.length_le
        rw [List.length_map] at hcount
        exact .inl ⟨fault, hreported, .call hvalid hfailed (p.items_of_batch schema rowCount hcount)⟩

/-- Once loading has failed, it makes no difference how the store answers to closing. -/
theorem runOver_of_load_error {fault : LoadError} {loading : List Exchange}
    (hload : (p.load answers.store container schema rowCount).run [] = (.error fault, loading)) {others : Answers}
    (hothers : ∀ history call, call ≠ .close → others history call = answers history call) :
    (p.runOver others container schema rowCount).1 = .error fault := by
  have hsame : ∀ call, call ≠ .close → others.store.perform call = answers.store.perform call := by
    intro call hcall
    funext history
    show (others history call, history ++ [⟨call, others history call⟩]) = _
    rw [hothers history call hcall]
    rfl
  have hload' : (p.load others.store container schema rowCount).run [] = (.error fault, loading) := by
    rw [load_congr hsame, hload]
  rw [p.runOver_eq others container schema rowCount hload']
  rfl

/-- A run reports the first thing that failed, and nothing else. That closing the store failed is reported only
if nothing failed before, and if something did, then what is answered to closing makes no difference. -/
theorem run_reports_first_failure :
    ∃ loading closed, (p.runOver answers container schema rowCount).2 = loading ++ [⟨.close, closed⟩] ∧
      answers.Gave [] (loading ++ [⟨.close, closed⟩]) ∧
      (∀ fault, (∀ e, fault ≠ .connection e) →
        ((p.runOver answers container schema rowCount).1 = .error fault ↔
          p.FirstFailure container schema rowCount loading fault)) ∧
      (∀ e, (p.runOver answers container schema rowCount).1 = .error (.connection e) ↔
        p.Succeeded schema rowCount loading ∧ closed = .error e) ∧
      ((∃ metrics, (p.runOver answers container schema rowCount).1 = .ok metrics) ↔
        p.Succeeded schema rowCount loading ∧ closed = .ok ()) ∧
      ∀ others : Answers, (∀ history call, call ≠ .close → others history call = answers history call) →
        (∃ fault, p.FirstFailure container schema rowCount loading fault) →
        (p.runOver others container schema rowCount).1 = (p.runOver answers container schema rowCount).1 := by
  obtain ⟨loading, reported, hload, hgave, hend⟩ := p.load_first_failure answers container schema rowCount
  have hrun := p.runOver_eq answers container schema rowCount hload
  refine ⟨loading, answers loading .close, by rw [hrun], Answers.gave_append hgave .close, ?_⟩
  rw [hrun]
  rcases hend with ⟨fault, rfl, hfault⟩ | ⟨⟨metrics, rfl⟩, hsucceeded⟩
  · have hnot := hfault.not_succeeded
    have hresult (closed : Except StoreError Unit) : report (.error fault) closed = .error fault := rfl
    simp only [hresult]
    refine ⟨fun other _ => ⟨?_, fun hother => congrArg _ (hother.unique hfault)⟩,
      fun e => ⟨?_, fun h => absurd h.1 hnot⟩, ⟨fun ⟨metrics, h⟩ => (nomatch h), fun h => absurd h.1 hnot⟩,
      fun others hothers _ => p.runOver_of_load_error answers container schema rowCount hload hothers⟩
    · intro h
      cases h
      exact hfault
    · intro h
      cases h
      exact absurd rfl (hfault.own.1 e)
  · have hnone : ∀ fault, ¬p.FirstFailure container schema rowCount loading fault :=
      fun fault hfault => hfault.not_succeeded hsucceeded
    refine ⟨fun fault hother => ⟨fun h => ?_, fun h => absurd h (hnone fault)⟩, fun e => ?_, ?_,
      fun others _ ⟨fault, h⟩ => absurd h (hnone fault)⟩
    · cases hclosed : answers loading .close with
      | ok closed =>
          rw [hclosed] at h
          cases h
      | error e =>
          rw [hclosed] at h
          cases h
          exact absurd rfl (hother e)
    · cases answers loading .close with
      | ok closed => simp [report]
      | error e' => simp [report, hsucceeded]
    · cases answers loading .close with
      | ok closed => simp [report, hsucceeded]
      | error e => simp [report]

end Pipeline

end SampleLoad
