import SampleLoad.Proofs.Rows.Insertions
import SampleLoad.Proofs.Store.History

/-!
What a store in memory keeps of the calls it receives, whatever it answers. The log has every call, the counters agree
with the log, and a store that is to fail at a write counts writes to find it, also those that it refuses or that carry
no rows. Main statement: `MemoryStore.log_of_calls`.
-/

namespace SampleLoad

/-- The numbers of rows that a logged write has for containers. -/
def LoggedCall.rowCounts? : LoggedCall → Option (List (String × Nat))
  | .write rowCounts => some rowCounts
  | _ => none

namespace StoreCall

/-- What a write is logged with: each container of the batch, in order, with the number of its rows. -/
def rowCounts (batch : Batch) : List (String × Nat) := batch.entries.map fun (name, rows) => (name, rows.size)

theorem rowCounts?_logged (call : StoreCall) : call.logged.rowCounts? = call.batch?.map rowCounts := by
  cases call <;> rfl

theorem logged_eq_close_iff (call : StoreCall) : call.logged = .close ↔ call = .close := by
  cases call <;> simp [logged]

theorem rowCounts_ofInsertions (insertions : Batch.Insertions) :
    rowCounts (.ofInsertions insertions) =
      (Batch.ofInsertions insertions).containers.map fun name => (name, (Batch.rowsIn name insertions).length) := by
  rw [rowCounts, Batch.entries_ofInsertions, List.map_map]
  rfl

theorem foldl_rowCounts (batch : Batch) :
    (rowCounts batch).foldl (fun sum (_, count) => sum + count) 0 = batch.rowCount := List.foldl_map

theorem point_eq_write_iff (call : StoreCall) (number k : Nat) :
    call.point number = .write k ↔ (∃ batch, call = .write batch) ∧ number = k := by
  cases call <;> simp [point]

end StoreCall

namespace FailPoint

theorem description_write_injective {number k : Nat} (h : (write number).description = (write k).description) :
    number = k := by
  have hdigits : Nat.toDigits 10 number = Nat.toDigits 10 k := by
    simpa [description] using congrArg String.toList h
  calc number = Nat.ofDigitChars 10 (Nat.toDigits 10 number) 0 :=
        (Nat.ofDigitChars_toDigits (by decide) (by decide)).symm
    _ = k := by rw [hdigits, Nat.ofDigitChars_toDigits (by decide) (by decide)]

theorem description_injective {point other : FailPoint} (h : point.description = other.description) :
    point = other := by
  have hwrite (number : Nat) (rest : String) (hrest : rest.toList.head? ≠ some 'W') :
      (write number).description ≠ rest := by
    intro heq
    apply hrest
    rw [← heq, description, String.append_assoc, String.toList_append]
    rfl
  cases point with
  | write number =>
      cases other with
      | write k => exact congrArg write (description_write_injective h)
      | _ => exact absurd h (hwrite number _ (by decide))
  | _ =>
      cases other with
      | write k => exact absurd h.symm (hwrite k _ (by decide))
      | _ => first | rfl | exact absurd h (by decide)

theorem refusal_inj {point other : FailPoint} : point.refusal = other.refusal ↔ point = other := by
  refine ⟨fun h => description_injective ?_, congrArg refusal⟩
  exact (String.append_right_inj _).mp (StoreError.rejected.inj h).2

end FailPoint

namespace MemoryStore

open StoreCall (logged)

/-! ### Counters -/

/-- The counters agree with the log. -/
structure Counted (s : MemoryStore) : Prop where
  writes : s.writes = (s.log.toList.filterMap LoggedCall.rowCounts?).length
  closes : s.closes = s.log.toList.count .close

theorem Counted.perform {s : MemoryStore} (h : s.Counted) (call : StoreCall) : (s.perform call).2.Counted where
  writes := by
    rw [perform_writes, perform_log, Array.toList_push, List.filterMap_append, List.length_append, ← h.writes]
    cases call <;> rfl
  closes := by
    rw [perform_closes, perform_log, Array.toList_push, List.count_append, ← h.closes]
    cases call <;> rfl

theorem Counted.afterCalls {s : MemoryStore} (h : s.Counted) (calls : List StoreCall) :
    (s.afterCalls calls).Counted := by
  induction calls generalizing s with
  | nil => exact h
  | cons call rest ih => exact ih (h.perform call)

/-! ### Injected failures -/

theorem accepts_ne_refusal (containers : NameMap StoredContainer) (name : String) (rows : Array Row)
    (point : FailPoint) : accepts containers name rows ≠ .error point.refusal := by
  intro h
  rw [accepts] at h
  split at h
  · simp [FailPoint.refusal] at h
  · split at h <;> simp [FailPoint.refusal] at h

theorem acceptsAll_ne_refusal (containers : NameMap StoredContainer) (entries : List (String × Array Row))
    (point : FailPoint) : acceptsAll containers entries ≠ .error point.refusal := by
  induction entries with
  | nil =>
      intro h
      cases h
  | cons entry rest ih =>
      intro h
      rw [acceptsAll] at h
      cases hentry : accepts containers entry.1 entry.2 with
      | error e =>
          rw [hentry] at h
          exact accepts_ne_refusal containers entry.1 entry.2 point (hentry.trans h)
      | ok accepted =>
          rw [hentry] at h
          exact ih h

/-- A call that is carried out does not fail as at a fail point. -/
theorem effect_ne_refusal (containers : NameMap StoredContainer) (call : StoreCall) (point : FailPoint) :
    (effect containers call).1 ≠ .error point.refusal := by
  intro h
  cases call with
  | create name schema =>
      rw [effect] at h
      split at h <;> simp [FailPoint.refusal] at h
  | write batch =>
      rw [effect] at h
      split at h
      · cases h
      · cases haccepts : acceptsAll containers batch.entries with
        | error e =>
            rw [haccepts] at h
            exact acceptsAll_ne_refusal containers batch.entries point
              (haccepts.trans (congrArg Except.error (Except.error.inj h)))
        | ok accepted =>
            rw [haccepts] at h
            cases h
  | _ => cases h

/-- A call fails as at a fail point exactly where the store is told to and not closed; a close, even then. -/
theorem perform_eq_refusal_iff (s : MemoryStore) (call : StoreCall) (point : FailPoint) :
    (s.perform call).1 = .error point.refusal ↔
      (s.closes = 0 ∨ call = .close) ∧ s.failPoint? = some point ∧ call.point (s.writes + 1) = point := by
  rw [perform_eq]
  by_cases hopen : s.closes = 0 ∨ call = .close
  · rw [refusal?_of_open hopen, and_iff_right hopen]
    by_cases hfail : s.failPoint? = some (call.point (s.writes + 1))
    · rw [if_pos hfail, hfail, Except.error.injEq, FailPoint.refusal_inj, Option.some.injEq, and_self]
    · rw [if_neg hfail]
      refine iff_of_false (effect_ne_refusal s.containers call point) ?_
      rintro ⟨hpoint, rfl⟩
      exact hfail hpoint
  · have hclosed : s.refusal? call = some .closed :=
      refusal?_of_closed (Nat.pos_of_ne_zero fun h => hopen (.inl h)) fun h => hopen (.inr h)
    rw [hclosed]
    exact iff_of_false nofun fun h => hopen h.1

theorem perform_eq_write_refusal_iff (s : MemoryStore) (call : StoreCall) (k : Nat) :
    (s.perform call).1 = .error (FailPoint.write k).refusal ↔
      s.closes = 0 ∧ s.failPoint? = some (.write k) ∧ (∃ batch, call = .write batch) ∧ s.writes + 1 = k := by
  rw [perform_eq_refusal_iff, StoreCall.point_eq_write_iff]
  refine and_congr_left ?_
  rintro ⟨-, ⟨batch, rfl⟩, -⟩
  exact or_iff_left nofun

/-! ### Histories -/

/-- What an exchange of a history was answered depends on the calls before it. -/
theorem answer_of_exchanges {s : MemoryStore} {calls : List StoreCall} {before later : List Exchange} {x : Exchange}
    (h : s.exchanges calls = before ++ x :: later) :
    x.answer = ((s.afterCalls (before.map Exchange.call)).perform x.call).1 := by
  induction before generalizing s calls with
  | nil =>
      cases calls with
      | nil => cases h
      | cons call rest =>
          obtain ⟨rfl, -⟩ := List.cons.inj h
          rfl
  | cons first before ih =>
      cases calls with
      | nil => cases h
      | cons call rest =>
          obtain ⟨rfl, hrest⟩ := List.cons.inj h
          exact ih hrest

section Fresh

variable (point? : Option FailPoint) (calls : List StoreCall)

/-- A store without containers that has not received a call. -/
def fresh : MemoryStore := ({} : MemoryStore).failingAt point?

theorem counted_fresh : (fresh point?).Counted := ⟨rfl, rfl⟩

theorem log_fresh : ((fresh point?).afterCalls calls).log.toList = calls.map logged := by
  rw [afterCalls_log]
  simp [fresh, failingAt]

theorem writes_fresh : ((fresh point?).afterCalls calls).writes = (calls.filterMap StoreCall.batch?).length := by
  rw [((counted_fresh point?).afterCalls calls).writes, log_fresh, List.filterMap_map]
  show (calls.filterMap fun call => call.logged.rowCounts?).length = _
  simp only [StoreCall.rowCounts?_logged, ← List.map_filterMap, List.length_map]

theorem closes_fresh_eq_zero_iff : ((fresh point?).afterCalls calls).closes = 0 ↔ .close ∉ calls := by
  rw [((counted_fresh point?).afterCalls calls).closes, log_fresh, List.count_eq_zero, List.mem_map]
  simp [StoreCall.logged_eq_close_iff]

theorem writeSizes_fresh :
    ((fresh point?).afterCalls calls).writeSizes = (calls.filterMap StoreCall.batch?).map Batch.rowCount := by
  rw [writeSizes, log_fresh, List.filterMap_map, List.map_filterMap]
  congr 1
  funext call
  cases call with
  | write batch => exact congrArg some (StoreCall.foldl_rowCounts batch)
  | _ => rfl

end Fresh

/-- A store that has received calls since it was new has them all in its log, in order. It has counted the writes and
the closes in it, and gives the number of rows of each write. A write is logged with the number of rows for each
container, in the order of names. The failure at the `k`-th write is the answer to the `k`-th write if the store is to
fail there and no close came before, and no other answer is. -/
theorem log_of_calls (point? : Option FailPoint) (calls : List StoreCall) :
    let now := (fresh point?).afterCalls calls
    now.log.toList = calls.map logged ∧
      (∀ insertions, let batch := Batch.ofInsertions insertions
        (StoreCall.write batch).logged =
            .write (batch.containers.map fun name => (name, (Batch.rowsIn name insertions).length)) ∧
          batch.containers.Pairwise fun name later => Utf8.bytes name < Utf8.bytes later) ∧
      now.writes = (now.log.toList.filterMap LoggedCall.rowCounts?).length ∧
      now.closes = now.log.toList.count .close ∧
      now.writeSizes = (calls.filterMap StoreCall.batch?).map Batch.rowCount ∧
      ∀ before x later, (fresh point?).exchanges calls = before ++ x :: later → ∀ k,
        x.answer = .error (FailPoint.write k).refusal ↔
          point? = some (.write k) ∧ (∃ batch, x.call = .write batch) ∧
            (Exchange.writes before).length + 1 = k ∧ ∀ y ∈ before, y.call ≠ .close := by
  intro now
  have hcounted : now.Counted := (counted_fresh point?).afterCalls calls
  refine ⟨log_fresh point? calls, ?_, hcounted.writes, hcounted.closes, writeSizes_fresh point? calls, ?_⟩
  · intro insertions batch
    exact ⟨congrArg LoggedCall.write (StoreCall.rowCounts_ofInsertions insertions),
      (Batch.ordered_ofInsertions insertions).names.imp Utf8.bytes_lt_of_lt⟩
  · intro before x later hsplit k
    have hclose : .close ∉ before.map Exchange.call ↔ ∀ y ∈ before, y.call ≠ .close := by
      simp
    have hpoint : ((fresh point?).afterCalls (before.map Exchange.call)).failPoint? = point? :=
      afterCalls_failPoint? _ _
    rw [answer_of_exchanges hsplit, perform_eq_write_refusal_iff, closes_fresh_eq_zero_iff, writes_fresh, hpoint,
      hclose, Exchange.writes_eq]
    tauto

end MemoryStore

end SampleLoad
