import SampleLoad.Proofs.Load.BufferOrder
import SampleLoad.Proofs.Load.Plan

/-!
A run as a script of calls. Rows are generated without asking the store, so the calls of a run are settled
once the store has said whether the container exists: dropping it if it does, creating it, and the writes of
the plan. They are made in this order up to the first that fails, in every lawful monad; the error of a step
says which it was. Main statement: `Pipeline.load_eq`.
-/

namespace SampleLoad

/-- A call of a run, and what the run reports if it fails. -/
structure LoadStep where
  call : StoreCall
  blame : StoreError → LoadError

/-- The writes of batches, counted on from those written before. -/
def writeSteps (container : String) : (written : Nat) → List (List Row) → List LoadStep
  | _, [] => []
  | written, batch :: batches =>
    ⟨.write (.single container batch.toArray), .write container (written + 1)⟩ ::
      writeSteps container (written + 1) batches

/-- What puts a container into its empty state. -/
def provisionSteps (container : String) (schema : Schema) (existed : Bool) : List LoadStep :=
  (if existed then [⟨.drop container, .provision container⟩] else []) ++
    [⟨.create container schema, .provision container⟩]

/-- The steps of a run, once it is known whether the container exists. -/
def loadSteps (container : String) (schema : Schema) (plan : LoadPlan) (existed : Bool) : List LoadStep :=
  provisionSteps container schema existed ++ writeSteps container 0 plan.batches

variable {m : Type → Type} [Monad m]

/-- Makes steps in order up to the first that fails; `result` is what comes of them if none does. -/
def performSteps (store : ContainerStore m) (result : Except LoadError Metrics) :
    List LoadStep → m (Except LoadError Metrics)
  | [] => pure result
  | step :: rest => do
    match ← store.perform step.call with
    | .error e => pure (.error (step.blame e))
    | .ok _ => performSteps store result rest

namespace LoadPlan

/-! ### Plans row by row -/

theorem ofItems_nil (capacity : Nat) (pending : List Row) : ofItems capacity pending [] = ⟨[pending], none⟩ :=
  rfl

/-- A row that fills a batch. -/
theorem ofItems_full {capacity : Nat} {pending : List Row} (hfull : pending.length + 1 = capacity) (row : Row)
    (items : List (Except GeneratorError Row)) :
    ofItems capacity pending (.ok row :: items) =
      ⟨(pending ++ [row]) :: (ofItems capacity [] items).batches, (ofItems capacity [] items).fault?⟩ := by
  rw [ofItems, upToError, fill, if_pos hfull]
  rfl

/-- A row that stays pending. -/
theorem ofItems_pending {capacity : Nat} {pending : List Row} (hroom : pending.length + 1 ≠ capacity)
    (row : Row) (items : List (Except GeneratorError Row)) :
    ofItems capacity pending (.ok row :: items) = ofItems capacity (pending ++ [row]) items := by
  rw [ofItems, upToError, fill, if_neg hroom]
  rfl

/-- Makes the writes of a plan; `before` counts what was written earlier. -/
def perform (plan : LoadPlan) (store : ContainerStore m) (container : String) (before : Metrics) :
    m (Except LoadError Metrics) :=
  performSteps store (plan.outcome before) (writeSteps container before.batchCount plan.batches)

theorem outcome_cons (batch : List Row) (batches : List (List Row)) (fault? : Option GeneratorError)
    (before : Metrics) :
    outcome ⟨batch :: batches, fault?⟩ before =
      outcome ⟨batches, fault?⟩ ⟨before.rowsWritten + batch.length, before.batchCount + 1⟩ := by
  cases fault? with
  | some e => rfl
  | none =>
      rw [outcome, outcome, List.flatten_cons, List.length_append, List.length_cons, Nat.add_assoc,
        Nat.add_comm batches.length, Nat.add_assoc]

theorem perform_cons (batch : List Row) (batches : List (List Row)) (fault? : Option GeneratorError)
    (store : ContainerStore m) (container : String) (before : Metrics) :
    perform ⟨batch :: batches, fault?⟩ store container before = (do
      match ← store.perform (.write (.single container batch.toArray)) with
      | .error e => pure (.error (.write container (before.batchCount + 1) e))
      | .ok _ =>
        perform ⟨batches, fault?⟩ store container
          ⟨before.rowsWritten + batch.length, before.batchCount + 1⟩) := by
  rw [perform, outcome_cons, writeSteps, performSteps]
  refine bind_congr fun answer => ?_
  cases answer with
  | error e => rfl
  | ok answer => rfl

end LoadPlan

namespace Pipeline

variable [LawfulMonad m]

/-- What follows a flush follows the write of the pending rows. -/
theorem flush_bind (store : ContainerStore m) (container : String) (buffer : Buffer) (metrics : Metrics)
    {next : Except LoadError (Buffer × Metrics) → m (Except LoadError Metrics)}
    (hnext : ∀ e, next (.error e) = pure (.error e)) :
    flush store container buffer metrics >>= next = (do
      match ← store.perform (.write (.single container buffer.rows.toList.toArray)) with
      | .error e => pure (.error (.write container (metrics.batchCount + 1) e))
      | .ok _ =>
        next (.ok (.empty buffer.capacity,
          ⟨metrics.rowsWritten + buffer.rows.toList.length, metrics.batchCount + 1⟩))) := by
  rw [flush]
  simp only [Buffer.drain, bind_assoc, Array.length_toList]
  refine bind_congr fun answer => ?_
  cases answer with
  | error e => rw [pure_bind, hnext]
  | ok answer => rw [pure_bind]

/-- The loop over the rows makes the writes of its plan. The buffer is not full whenever the loop comes
round, so no row is refused. -/
theorem writeRows_eq (p : Pipeline) (store : ContainerStore m) (container : String) (schema : Schema)
    (remaining cursor : Nat) (source : RandomSource) (buffer : Buffer) (metrics : Metrics)
    (hroom : buffer.isFull = false) :
    p.writeRows store container schema remaining cursor source buffer metrics =
      (LoadPlan.ofItems buffer.capacity.rows buffer.rows.toList
        (p.generator.itemsFrom schema remaining cursor source)).perform store container metrics := by
  induction remaining generalizing cursor source buffer metrics with
  | zero =>
      rw [writeRows, flush_bind store container buffer metrics fun _ => rfl, RowGenerator.itemsFrom,
        LoadPlan.ofItems_nil, LoadPlan.perform_cons]
      refine bind_congr fun answer => ?_
      cases answer with
      | error e => rfl
      | ok answer => rfl
  | succ remaining ih =>
      rw [writeRows, RowGenerator.itemsFrom]
      rcases p.generator.rowAt schema cursor source with ⟨item, after⟩
      cases item with
      | error e => rfl
      | ok row =>
          simp only [Buffer.push_of_not_full hroom]
          have hpending : (buffer.rows.push row).toList = buffer.rows.toList ++ [row] := Array.toList_push
          have hfull := Buffer.isFull_iff { buffer with rows := buffer.rows.push row }
          rw [hpending, List.length_append, List.length_singleton] at hfull
          split
          · rename_i hnow
            rw [flush_bind _ _ _ _ fun _ => rfl, LoadPlan.ofItems_full (hfull.mp hnow), LoadPlan.perform_cons,
              ← hpending]
            refine bind_congr fun answer => ?_
            cases answer with
            | error e => rfl
            | ok answer => exact ih _ _ (.empty buffer.capacity) _ (Buffer.empty_not_full buffer.capacity)
          · rename_i hnow
            rw [ih _ _ _ _ (Bool.eq_false_iff.mpr hnow), LoadPlan.ofItems_pending fun h => hnow (hfull.mpr h),
              ← hpending]

/-- A call that is followed by what is reported if it fails, and by further steps if it does not, is a step. -/
theorem perform_bind_bind {α : Type} (store : ContainerStore m) (step : LoadStep) {rest : List LoadStep}
    {result : Except LoadError Metrics} {next : Except StoreError step.call.Answer → m α}
    {last : α → m (Except LoadError Metrics)}
    (herror : ∀ e, next (.error e) >>= last = pure (.error (step.blame e)))
    (hok : ∀ answer, next (.ok answer) >>= last = performSteps store result rest) :
    (store.perform step.call >>= next) >>= last = performSteps store result (step :: rest) := by
  rw [bind_assoc, performSteps]
  refine bind_congr fun answer => ?_
  cases answer with
  | error e => exact herror e
  | ok answer => exact hok answer

/-- Provisioning a container is looking for it and then the steps that this asks for. -/
theorem provision_bind (store : ContainerStore m) (container : String) (schema : Schema)
    {next : Except LoadError ProvisionOutcome → m (Except LoadError Metrics)} {rest : List LoadStep}
    {result : Except LoadError Metrics} (hnext : ∀ outcome, next (.ok outcome) = performSteps store result rest)
    (herror : ∀ e, next (.error e) = pure (.error e)) :
    provision store container schema >>= next = (do
      match ← store.perform (.exists container) with
      | .error e => pure (.error (.provision container e))
      | .ok existed => performSteps store result (provisionSteps container schema existed ++ rest)) := by
  rw [provision, recreate, bind_assoc, bind_assoc]
  refine bind_congr fun answer => ?_
  cases answer with
  | error e => rw [pure_bind, pure_bind, herror]
  | ok existed =>
      change Bool at existed
      cases existed with
      | false =>
          refine perform_bind_bind store ⟨.create container schema, .provision container⟩
            (fun e => ?_) fun _ => ?_
          · rw [pure_bind, pure_bind, herror]
          · rw [pure_bind, pure_bind]
            exact hnext _
      | true =>
          refine perform_bind_bind store ⟨.drop container, .provision container⟩ (fun e => ?_) fun _ => ?_
          · rw [pure_bind, pure_bind, herror]
          · refine perform_bind_bind store ⟨.create container schema, .provision container⟩
              (fun e => ?_) fun _ => ?_
            · rw [pure_bind, pure_bind, herror]
            · rw [pure_bind, pure_bind]
              exact hnext _

/-- Loading checks the schema, looks for the container and then follows its script. -/
theorem load_eq (p : Pipeline) (store : ContainerStore m) (container : String) (schema : Schema)
    (rowCount : Nat) :
    p.load store container schema rowCount =
      match schema.validate with
      | .error e => pure (.error (.schema e))
      | .ok () => (do
        match ← store.perform (.exists container) with
        | .error e => pure (.error (.provision container e))
        | .ok existed =>
          performSteps store ((p.plan schema rowCount).outcome {})
            (loadSteps container schema (p.plan schema rowCount) existed)) := by
  rw [load]
  cases schema.validate with
  | error e => rfl
  | ok valid =>
      refine provision_bind store container schema (fun outcome => ?_) fun _ => rfl
      rw [writeRows_eq _ _ _ _ _ _ _ _ _ (Buffer.empty_not_full p.capacity), plan, items_eq]
      rfl

omit [LawfulMonad m] in
/-- Nothing is asked of a store for the sake of an invalid schema. -/
theorem load_invalid (p : Pipeline) (store : ContainerStore m) (container : String) {schema : Schema}
    {e : SchemaError} (hinvalid : schema.validate = .error e) (rowCount : Nat) :
    p.load store container schema rowCount = pure (.error (.schema e)) := by
  rw [load, hinvalid]

end Pipeline

end SampleLoad
