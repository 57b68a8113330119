import SampleLoad.Proofs.Store.Write

/-!
Calls on a store in memory, one after the other. A call that fails leaves every container as it was, also where it
is a write to several of them, and a store that was closed carries nothing out any more. Main statement:
`MemoryStore.calls_all_or_nothing`.
-/

namespace SampleLoad.MemoryStore

open StoreCall (logged)

def afterCalls (s : MemoryStore) (calls : List StoreCall) : MemoryStore :=
  calls.foldl (fun s call => (s.perform call).2) s

theorem perform_log (s : MemoryStore) (call : StoreCall) : (s.perform call).2.log = s.log.push call.logged := by
  have hnoted : (s.noted call).log = s.log.push call.logged := by cases call <;> rfl
  rw [perform_eq]
  cases s.refusal? call <;> exact hnoted

theorem afterCalls_log (s : MemoryStore) (calls : List StoreCall) :
    (s.afterCalls calls).log = s.log ++ (calls.map logged).toArray := by
  induction calls generalizing s with
  | nil => simp [afterCalls]
  | cons call rest ih =>
      show ((s.perform call).2.afterCalls rest).log = _
      rw [ih, perform_log, List.map_cons]
      simp

theorem afterCalls_failPoint? (s : MemoryStore) (calls : List StoreCall) :
    (s.afterCalls calls).failPoint? = s.failPoint? := by
  induction calls generalizing s with
  | nil => rfl
  | cons call rest ih => exact (ih (s.perform call).2).trans (s.perform_failPoint? call)

theorem afterCalls_append (s : MemoryStore) (calls later : List StoreCall) :
    s.afterCalls (calls ++ later) = (s.afterCalls calls).afterCalls later :=
  List.foldl_append

/-! ### Calls that fail -/

/-- Why a write fails: the store refuses it, or one of its entries cannot be taken. -/
theorem write_fails_iff (s : MemoryStore) (batch : Batch) :
    (∃ e, (s.perform (.write batch)).1 = .error e) ↔
      0 < s.closes ∨ s.failPoint? = some (.write (s.writes + 1)) ∨
        ¬batch.isEmpty ∧ ∃ entry ∈ batch.entries, ¬Takes s.containers entry := by
  have hnot : (∃ e, (effect s.containers (.write batch)).1 = .error e) ↔
      ¬(effect s.containers (.write batch)).1 = .ok () := by
    cases (effect s.containers (.write batch)).1 <;> simp
  have heffect : (∃ e, (effect s.containers (.write batch)).1 = .error e) ↔
      ¬batch.isEmpty ∧ ∃ entry ∈ batch.entries, ¬Takes s.containers entry := by
    rw [hnot, effect_write_ok_iff]
    simp only [not_or, Classical.not_forall, exists_prop]
  rw [perform_eq]
  by_cases hclosed : 0 < s.closes
  · rw [refusal?_of_closed hclosed (nofun : StoreCall.write batch ≠ .close)]
    simp [hclosed]
  · rw [refusal?_of_open (.inl (by omega)), StoreCall.point]
    by_cases hfail : s.failPoint? = some (.write (s.writes + 1))
    · simp [hfail]
    · simp only [hclosed, hfail, if_false, false_or]
      exact heffect

/-! ### Closed stores -/

theorem closes_le_perform (s : MemoryStore) (call : StoreCall) : s.closes ≤ (s.perform call).2.closes := by
  rw [perform_closes]
  cases call with
  | close => exact Nat.le_succ _
  | _ => exact Nat.le_refl _

theorem afterCalls_closed {s : MemoryStore} {calls : List StoreCall} (h : 0 < s.closes ∨ .close ∈ calls) :
    0 < (s.afterCalls calls).closes := by
  induction calls generalizing s with
  | nil => exact h.resolve_right List.not_mem_nil
  | cons call rest ih =>
      apply ih
      rcases h with hclosed | hmem
      · exact .inl (Nat.lt_of_lt_of_le hclosed (s.closes_le_perform call))
      · rcases List.mem_cons.mp hmem with rfl | hlater
        · exact .inl (Nat.succ_pos _)
        · exact .inr hlater

section Closed

variable {s : MemoryStore} (hclosed : 0 < s.closes)

include hclosed

theorem perform_of_closed {call : StoreCall} (hcall : call ≠ .close) :
    s.perform call = (.error .closed, s.noted call) := by
  rw [perform_eq, refusal?_of_closed hclosed hcall]

theorem afterCalls_containers_of_closed (calls : List StoreCall) :
    (s.afterCalls calls).containers = s.containers := by
  induction calls generalizing s with
  | nil => rfl
  | cons call rest ih =>
      have hkept : (s.perform call).2.containers = s.containers := by
        by_cases hcall : call = .close
        · subst hcall
          rfl
        · rw [perform_of_closed hclosed hcall]
          exact s.noted_containers call
      exact (ih (Nat.lt_of_lt_of_le hclosed (s.closes_le_perform call))).trans hkept

end Closed

/-- After any calls: a call that fails changes no container, and a write fails as a whole if the store refuses it or
one of its entries cannot be taken. Once the store was closed, every other call is told so, and the containers stay
as they were when it was closed first. -/
theorem calls_all_or_nothing (s : MemoryStore) (calls : List StoreCall) :
    let now := s.afterCalls calls
    (∀ call e, (now.perform call).1 = .error e → (now.perform call).2.containers = now.containers) ∧
      (∀ batch, (∃ e, (now.perform (.write batch)).1 = .error e) ↔
        0 < now.closes ∨ now.failPoint? = some (.write (now.writes + 1)) ∨
          ¬batch.isEmpty ∧ ∃ entry ∈ batch.entries, ¬Takes now.containers entry) ∧
      (0 < s.closes ∨ .close ∈ calls → ∀ call, call ≠ .close → (now.perform call).1 = .error .closed) ∧
      (0 < s.closes → now.containers = s.containers) ∧
      ∀ before later, calls = before ++ .close :: later → now.containers = (s.afterCalls before).containers := by
  intro now
  refine ⟨fun call e => perform_of_error, now.write_fails_iff, ?_, fun h => afterCalls_containers_of_closed h calls, ?_⟩
  · intro hclosed call hcall
    rw [perform_of_closed (afterCalls_closed hclosed) hcall]
  · rintro before later rfl
    have hclosed : 0 < ((s.afterCalls before).perform .close).2.closes := Nat.succ_pos _
    calc now.containers = ((s.afterCalls before).afterCalls (.close :: later)).containers := by
          rw [← afterCalls_append]
      _ = ((s.afterCalls before).perform .close).2.containers := afterCalls_containers_of_closed hclosed later
      _ = (s.afterCalls before).containers := rfl

end SampleLoad.MemoryStore
