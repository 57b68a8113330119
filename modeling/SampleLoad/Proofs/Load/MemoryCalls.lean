import SampleLoad.Proofs.Load.FirstFailure
import SampleLoad.Proofs.Load.MemoryRun
import SampleLoad.Proofs.Store.Calls

/-!
Runs over a store in memory that refuses nothing, as the calls that they make. Every call of the script is
carried out, so the run reports what its plan leads to, and the store ends up as these calls leave it. Main
statement: `Pipeline.runInMemory_calls`.
-/

namespace SampleLoad

namespace MemoryStore

inductive Carries : MemoryStore → List StoreCall → Prop where
  | nil {s : MemoryStore} : Carries s []
  | cons {s : MemoryStore} {call : StoreCall} {rest : List StoreCall} {answer : call.Answer}
    (hanswer : (s.perform call).1 = .ok answer) (hrest : Carries (s.perform call).2 rest) : Carries s (call :: rest)

theorem performSteps_carried (result : Except LoadError Metrics) {steps : List LoadStep} {s : MemoryStore}
    (h : Carries s (steps.map LoadStep.call)) :
    (performSteps memoryStore result steps).run s = (result, s.afterCalls (steps.map LoadStep.call)) := by
  induction steps generalizing s with
  | nil => rfl
  | cons step rest ih =>
      cases h with
      | cons hanswer hrest =>
          rw [performSteps, perform_bind (Prod.ext hanswer rfl)]
          exact ih hrest

section Open

variable {s : MemoryStore} (hopen : s.closes = 0) (hfree : s.failPoint? = none)

include hopen hfree

theorem writeSteps_carried {container : String} {content : StoredContainer}
    (hfind : s.container? container = some content) (written : Nat) {batches : List (List Row)}
    (hwidth : ∀ batch ∈ batches, ∀ row ∈ batch, row.width = content.schema.width) :
    Carries s ((writeSteps container written batches).map LoadStep.call) := by
  induction batches generalizing s content written with
  | nil => exact .nil
  | cons batch batches ih =>
      obtain ⟨next, hperform, hsame, -, hnext⟩ :=
        write_stored hopen hfind (ne_of_free hfree) (hwidth batch List.mem_cons_self)
      refine .cons (congrArg Prod.fst hperform) ?_
      rw [hperform]
      exact ih (hsame.closes.trans hopen) (hsame.failPoint.trans hfree) hnext (written + 1)
        fun b hb => hwidth b (List.mem_cons_of_mem _ hb)

/-- A container that is not there can be created and written to. -/
theorem createSteps_carried {container : String} (habsent : ¬s.containers.contains container) {schema : Schema}
    {batches : List (List Row)} (hwidth : ∀ batch ∈ batches, ∀ row ∈ batch, row.width = schema.width) :
    Carries s (.create container schema :: (writeSteps container 0 batches).map LoadStep.call) := by
  have hcreate : (s.perform (.create container schema)).1 = .ok () := by
    rw [perform_carried hopen (ne_of_free hfree), effect_create_absent schema habsent]
  have hsame : SameElsewhere container s (s.perform (.create container schema)).2 := s.perform_elsewhere rfl
  refine .cons hcreate ?_
  exact writeSteps_carried (hsame.closes.trans hopen) (hsame.failPoint.trans hfree) (find?_of_create_ok hcreate) 0
    hwidth

/-- An open store that never fails carries out everything that a run asks of it. -/
theorem loadSteps_carried (container : String) (schema : Schema) {plan : LoadPlan}
    (hwidth : ∀ batch ∈ plan.batches, ∀ row ∈ batch, row.width = schema.width) :
    Carries s ((loadSteps container schema plan (s.containers.contains container)).map LoadStep.call) := by
  cases hpresent : s.containers.contains container with
  | false => exact createSteps_carried hopen hfree (Bool.eq_false_iff.mp hpresent) hwidth
  | true =>
      have hdropped : s.perform (.drop container) = _ := perform_carried hopen (ne_of_free hfree)
      have hsame : SameElsewhere container s (s.perform (.drop container)).2 := s.perform_elsewhere rfl
      have habsent : (s.perform (.drop container)).2.container? container = none := by
        rw [hdropped]
        exact NameMap.find?_erase_self _ _
      refine .cons (congrArg Prod.fst hdropped) ?_
      exact createSteps_carried (hsame.closes.trans hopen) (hsame.failPoint.trans hfree)
        (Bool.eq_false_iff.mp ((NameMap.contains_eq_false_iff _ _).mpr habsent)) hwidth

end Open

end MemoryStore

namespace Pipeline

variable (p : Pipeline) (container : String) (schema : Schema) (rowCount : Nat)

/-- The calls of a run in which no call fails. -/
def calls (present : Bool) : List StoreCall :=
  match schema.validate with
  | .error _ => [.close]
  | .ok () =>
    .exists container :: (loadSteps container schema (p.plan schema rowCount) present).map LoadStep.call ++ [.close]

/-- What is reported of a run in which no call fails. -/
def unrefused : Except LoadError Metrics :=
  match schema.validate with
  | .error e => .error (.schema e)
  | .ok () => (p.plan schema rowCount).outcome {}

theorem report_closed (result : Except LoadError Metrics) : report result (.ok ()) = result := by
  cases result <;> rfl

/-- A run over an open store that never fails: every call of its script is made, and nothing else. -/
theorem runInMemory_calls {store : MemoryStore} (hopen : store.closes = 0) (hfree : store.failPoint? = none) :
    p.runInMemory store container schema rowCount =
      (p.unrefused schema rowCount,
        store.afterCalls (p.calls container schema rowCount (store.containers.contains container))) := by
  cases hvalid : schema.validate with
  | error e =>
      have hload : (p.load memoryStore container schema rowCount).run store = (.error (.schema e), store) := by
        rw [p.load_invalid memoryStore container hvalid]
        rfl
      rw [p.runInMemory_eq rowCount hload, unrefused, calls, hvalid]
      rfl
  | ok valid =>
      have hexists : store.perform (.exists container) =
          (.ok (store.containers.contains container), store.noted (.exists container)) :=
        MemoryStore.perform_carried hopen (MemoryStore.ne_of_free hfree)
      have hcarried : MemoryStore.Carries (store.noted (.exists container))
          ((loadSteps container schema (p.plan schema rowCount) (store.containers.contains container)).map
            LoadStep.call) :=
        MemoryStore.loadSteps_carried (s := store.noted (.exists container)) hopen hfree container schema
          fun _ hbatch _ hrow => p.plan_width schema rowCount hbatch hrow
      obtain ⟨loaded, hloaded⟩ : ∃ loaded, loaded = (store.noted (.exists container)).afterCalls
          ((loadSteps container schema (p.plan schema rowCount) (store.containers.contains container)).map
            LoadStep.call) := ⟨_, rfl⟩
      have hload : (p.load memoryStore container schema rowCount).run store =
          ((p.plan schema rowCount).outcome {}, loaded) := by
        rw [load_eq, hvalid, MemoryStore.perform_bind hexists, hloaded]
        exact MemoryStore.performSteps_carried _ hcarried
      have hclose : (loaded.perform .close).1 = .ok () :=
        if_neg (MemoryStore.ne_of_free (hloaded ▸ (MemoryStore.afterCalls_failPoint? _ _).trans hfree))
      rw [p.runInMemory_eq rowCount hload, hclose, report_closed, unrefused, calls, hvalid,
        MemoryStore.afterCalls_append]
      show _ = (_, ((store.perform (.exists container)).2.afterCalls _).afterCalls [.close])
      rw [hexists, hloaded]
      rfl

end Pipeline

end SampleLoad
