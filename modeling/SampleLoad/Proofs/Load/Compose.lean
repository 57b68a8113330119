import SampleLoad.Load.Pipeline

/-!
From calls to programs. A property of programs that calls on a container have, and that composition keeps,
holds of loading rows into that container, with every store. Main statement: `Compositional.load`.
-/

namespace SampleLoad

/-- A call that names a container and no other. -/
def StoreCall.On (container : String) : StoreCall → Prop
  | .exists name => name = container
  | .create name _ => name = container
  | .drop name => name = container
  | .write batch => ∃ rows, batch = .single container rows
  | .close => False

variable {m : Type → Type} [Monad m]

/-- Calls on a container have a property, and programs composed of such programs have it. -/
structure Compositional (store : ContainerStore m) (container : String) (Holds : {α : Type} → m α → Prop) :
    Prop where
  pure {α : Type} (value : α) : Holds (pure value)
  bind {α β : Type} {prog : m α} {next : α → m β} :
    Holds prog → (∀ value, Holds (next value)) → Holds (prog >>= next)
  perform {call : StoreCall} : call.On container → Holds (store.perform call)

namespace Compositional

variable {store : ContainerStore m} {container : String} {Holds : {α : Type} → m α → Prop}
  (h : Compositional store container @Holds)

include h

theorem provision (schema : Schema) : Holds (provision store container schema) := by
  refine h.bind (h.bind (h.perform rfl) fun answer => ?_) fun answer => ?_
  · rcases answer with e | existed
    · exact h.pure _
    change Bool at existed
    cases existed with
    | false =>
        refine h.bind (h.perform rfl) fun answer => ?_
        cases answer <;> exact h.pure _
    | true =>
        refine h.bind (h.perform rfl) fun answer => ?_
        cases answer with
        | error e => exact h.pure _
        | ok answer =>
            refine h.bind (h.perform rfl) fun answer => ?_
            cases answer <;> exact h.pure _
  · cases answer <;> exact h.pure _

theorem flush (buffer : Buffer) (metrics : Metrics) :
    Holds (Pipeline.flush store container buffer metrics) := by
  refine h.bind (h.perform ⟨_, rfl⟩) fun answer => ?_
  cases answer <;> exact h.pure _

theorem writeRows (p : Pipeline) (schema : Schema) (remaining cursor : Nat) (source : RandomSource)
    (buffer : Buffer) (metrics : Metrics) :
    Holds (p.writeRows store container schema remaining cursor source buffer metrics) := by
  induction remaining generalizing cursor source buffer metrics with
  | zero =>
      refine h.bind (h.flush buffer metrics) fun answer => ?_
      cases answer <;> exact h.pure _
  | succ remaining ih =>
      rw [Pipeline.writeRows]
      rcases p.generator.rowAt schema cursor source with ⟨item, after⟩
      cases item with
      | error e => exact h.pure _
      | ok row =>
          cases hpush : buffer.push row with
          | error e =>
              simp only [hpush]
              exact h.pure _
          | ok buffer =>
              simp only [hpush]
              split
              · refine h.bind (h.flush buffer metrics) fun answer => ?_
                cases answer with
                | error e => exact h.pure _
                | ok answer => exact ih _ _ _ _
              · exact ih _ _ _ _

theorem load (p : Pipeline) (schema : Schema) (rowCount : Nat) :
    Holds (p.load store container schema rowCount) := by
  rw [Pipeline.load]
  cases schema.validate with
  | error e => exact h.pure _
  | ok valid =>
      refine h.bind (h.provision schema) fun answer => ?_
      cases answer with
      | error e => exact h.pure _
      | ok outcome => exact h.writeRows p schema _ _ _ _ _

end Compositional

end SampleLoad
