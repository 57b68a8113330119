import SampleLoad.Proofs.Load.Compose
import SampleLoad.Proofs.Store.Memory

/-!
Stores in memory that are to fail at one of their writes. A program that only makes calls cannot tell such a
store from one that never fails until it comes to that write: this holds of single calls and carries over
from programs to what they are composed of, hence to a run. Main statement: `Pipeline.run_unaffected`.
-/

namespace SampleLoad

/-- What a program does on a store that is to fail at a write does not depend on the fail point, unless the
store takes note of that many writes. -/
structure UnaffectedUntil {α : Type} (number : Nat) (prog : StateM MemoryStore α) : Prop where
  failPoint : ∀ s, (prog.run s).2.failPoint? = s.failPoint?
  counts : ∀ s, s.writes ≤ (prog.run s).2.writes
  unreached : ∀ s, s.failPoint? = none → ¬(s.writes < number ∧ number ≤ (prog.run s).2.writes) →
    prog.run (s.failingAt (some (.write number))) =
      ((prog.run s).1, (prog.run s).2.failingAt (some (.write number)))

namespace UnaffectedUntil

variable {α β : Type} {number : Nat}

theorem pure (value : α) : UnaffectedUntil number (pure value) where
  failPoint _ := rfl
  counts _ := Nat.le_refl _
  unreached _ _ _ := rfl

theorem bind {prog : StateM MemoryStore α} {next : α → StateM MemoryStore β}
    (hprog : UnaffectedUntil number prog) (hnext : ∀ value, UnaffectedUntil number (next value)) :
    UnaffectedUntil number (prog >>= next) where
  failPoint s := ((hnext _).failPoint _).trans (hprog.failPoint s)
  counts s := Nat.le_trans (hprog.counts s) ((hnext _).counts _)
  unreached s hfree hreached := by
    simp only [StateT.run_bind] at hreached ⊢
    have hfirst := hprog.counts s
    have hsecond := (hnext (prog.run s).1).counts (prog.run s).2
    have hbefore : ¬(s.writes < number ∧ number ≤ (prog.run s).2.writes) :=
      fun h => hreached ⟨h.1, Nat.le_trans h.2 hsecond⟩
    have hafter : ¬((prog.run s).2.writes < number ∧
        number ≤ ((next (prog.run s).1).run (prog.run s).2).2.writes) :=
      fun h => hreached ⟨Nat.lt_of_le_of_lt hfirst h.1, h.2⟩
    rw [hprog.unreached s hfree hbefore]
    exact (hnext _).unreached _ ((hprog.failPoint s).trans hfree) hafter

theorem perform (number : Nat) (call : StoreCall) : UnaffectedUntil number (memoryStore.perform call) where
  failPoint s := s.perform_failPoint? call
  counts s := Nat.le_trans (s.writes_le_noted call) (Nat.le_of_eq (s.perform_writes call).symm)
  unreached s hfree hreached := by
    refine MemoryStore.perform_failingAt hfree fun hpoint => hreached ?_
    have hwrites : ((memoryStore.perform call).run s).2.writes = (s.noted call).writes := s.perform_writes call
    rw [hwrites]
    cases call with
    | write batch =>
        cases hpoint
        exact ⟨Nat.lt_succ_self _, Nat.le_refl _⟩
    | _ => cases hpoint

end UnaffectedUntil

/-- A fail point at a write makes no difference to a run that does not reach it. -/
theorem Pipeline.run_unaffected (number : Nat) (p : Pipeline) (container : String) (schema : Schema)
    (rowCount : Nat) : UnaffectedUntil number (p.run memoryStore container schema rowCount) := by
  have h : Compositional memoryStore container (UnaffectedUntil number) :=
    ⟨.pure, .bind, fun _ => .perform number _⟩
  exact .bind (h.load p schema rowCount) fun _ => .bind (.perform number .close) fun _ => .pure _

end SampleLoad
