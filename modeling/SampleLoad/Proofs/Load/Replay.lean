import SampleLoad.Proofs.Load.FirstFailure

/-!
Runs over stores that work on a state. What such a store answers is settled by the calls before, so that a run over
it is one over a store that answers, and leaves the state that the calls of that run leave when they are made one
after the other. Main statement: `Execution.run_replays`.
-/

namespace SampleLoad

/-- Programs of a monad as functions of a state. -/
structure Execution (m : Type → Type) [Monad m] (σ : Type) where
  run : {α : Type} → m α → σ → α × σ
  run_pure : ∀ {α : Type} (a : α) (s : σ), run (pure a) s = (a, s)
  run_bind : ∀ {α β : Type} (prog : m α) (next : α → m β) (s : σ),
    run (prog >>= next) s = run (next (run prog s).1) (run prog s).2

/-- What is given in part of the exchanges, and then to the next call. -/
theorem Answers.gave_split {answers : Answers} {history before after : List Exchange} {x : Exchange}
    (h : answers.Gave history (before ++ x :: after)) :
    answers.Gave history before ∧ x.answer = answers (history ++ before) x.call := by
  induction before generalizing history with
  | nil =>
      rw [List.append_nil]
      exact ⟨trivial, h.1⟩
  | cons y before ih =>
      obtain ⟨hbefore, hanswer⟩ := ih h.2
      rw [List.append_assoc] at hanswer
      exact ⟨⟨h.1, hbefore⟩, hanswer⟩

namespace Execution

variable {m : Type → Type} [Monad m] {σ : Type} (ex : Execution m σ) (store : ContainerStore m)

/-- The state after the calls of exchanges were made in order. -/
def after (s : σ) (exchanges : List Exchange) : σ :=
  exchanges.foldl (fun s x => (ex.run (store.perform x.call) s).2) s

def answers (s : σ) : Answers := fun history call => (ex.run (store.perform call) (ex.after store s history)).1

variable (s : σ)

theorem after_append (history exchanges : List Exchange) :
    ex.after store s (history ++ exchanges) = ex.after store (ex.after store s history) exchanges :=
  List.foldl_append

/-- Making the calls of exchanges gives these exchanges, if the store gives their answers. -/
theorem performAll_run {history exchanges : List Exchange} (h : (ex.answers store s).Gave history exchanges) :
    ex.run (performAll store (exchanges.map Exchange.call)) (ex.after store s history) =
      (exchanges, ex.after store s (history ++ exchanges)) := by
  induction exchanges generalizing history with
  | nil =>
      rw [List.map_nil, performAll, ex.run_pure, List.append_nil]
  | cons x rest ih =>
      have hanswer : (ex.run (store.perform x.call) (ex.after store s history)).1 = x.answer := h.1.symm
      have hstate : (ex.run (store.perform x.call) (ex.after store s history)).2 =
          ex.after store s (history ++ [x]) := by
        rw [after_append]
        rfl
      have hrest := ih h.2
      rw [List.append_assoc] at hrest
      rw [List.map_cons, performAll, ex.run_bind, ex.run_bind, hanswer, hstate, hrest, ex.run_pure]
      rfl

/-! ### Programs that do the same -/

/-- A program on the store does what another does with the answers of the store. -/
def Replays {α : Type} (prog : m α) (model : StateM (List Exchange) α) : Prop :=
  ∀ history, ex.run prog (ex.after store s history) =
    ((model.run history).1, ex.after store s (model.run history).2)

theorem replays_pure {α : Type} (a : α) : ex.Replays store s (pure a) (pure a) :=
  fun history => ex.run_pure a (ex.after store s history)

theorem replays_perform (call : StoreCall) :
    ex.Replays store s (store.perform call) ((ex.answers store s).store.perform call) := by
  intro history
  show _ = (_, ex.after store s (history ++ [⟨call, _⟩]))
  rw [after_append]
  rfl

variable {store s}

theorem Replays.bind {α β : Type} {prog : m α} {model : StateM (List Exchange) α} {next : α → m β}
    {nextModel : α → StateM (List Exchange) β} (h : ex.Replays store s prog model)
    (hnext : ∀ a, ex.Replays store s (next a) (nextModel a)) :
    ex.Replays store s (prog >>= next) (model >>= nextModel) := by
  intro history
  rw [ex.run_bind, h history]
  exact hnext _ _

variable (store s)

theorem replays_performSteps (result : Except LoadError Metrics) (steps : List LoadStep) :
    ex.Replays store s (performSteps store result steps) (performSteps (ex.answers store s).store result steps) := by
  induction steps with
  | nil => exact ex.replays_pure store s result
  | cons step rest ih =>
      refine Replays.bind ex (ex.replays_perform store s step.call) fun answer => ?_
      cases answer with
      | error e => exact ex.replays_pure store s _
      | ok answer => exact ih

section Run

variable [LawfulMonad m] (p : Pipeline) (container : String) (schema : Schema) (rowCount : Nat)

theorem replays_load : ex.Replays store s (p.load store container schema rowCount)
    (p.load (ex.answers store s).store container schema rowCount) := by
  rw [p.load_eq store, p.load_eq (ex.answers store s).store]
  cases schema.validate with
  | error e => exact ex.replays_pure store s _
  | ok valid =>
      refine Replays.bind ex (ex.replays_perform store s (.exists container)) fun answer => ?_
      cases answer with
      | error e => exact ex.replays_pure store s _
      | ok existed => exact ex.replays_performSteps store s _ _

/-- A run over a store is the run over its answers. -/
theorem run_replays :
    ex.run (p.run store container schema rowCount) s =
      ((p.runOver (ex.answers store s) container schema rowCount).1,
        ex.after store s (p.runOver (ex.answers store s) container schema rowCount).2) := by
  have hrun : ex.Replays store s (p.run store container schema rowCount)
      (p.run (ex.answers store s).store container schema rowCount) := by
    refine Replays.bind ex (ex.replays_load store s p container schema rowCount) fun result => ?_
    exact Replays.bind ex (ex.replays_perform store s .close) fun closed => ex.replays_pure store s _
  exact hrun []

end Run

end Execution

end SampleLoad
