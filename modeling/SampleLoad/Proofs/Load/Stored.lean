import SampleLoad.Proofs.Load.Compose
import SampleLoad.Proofs.Load.Script
import SampleLoad.Proofs.Store.Write

/-!
Loading into a store in memory, call by call. Whatever comes of it, nothing but the one container changes.
Provisioning that succeeds leaves that container empty, every write that is carried out appends its rows, and
a write at which the store is to fail stores nothing and ends the load.
-/

namespace SampleLoad

namespace MemoryStore

/-- A call on one container has no effect on others. -/
theorem effect_elsewhere (containers : NameMap StoredContainer) {container other : String}
    (hne : other ≠ container) {call : StoreCall} (hcall : call.On container) :
    (effect containers call).2.find? other = containers.find? other := by
  cases call with
  | «exists» name => rfl
  | create name schema =>
      cases hcall
      by_cases hpresent : containers.contains container
      · rw [effect_create_present schema hpresent]
      · rw [effect_create_absent schema hpresent]
        exact NameMap.find?_insert_of_ne _ hne _
  | drop name =>
      cases hcall
      exact NameMap.find?_erase_of_ne _ hne
  | write batch =>
      obtain ⟨rows, rfl⟩ := hcall
      cases hanswer : (effect containers (.write (.single container rows))).1 with
      | error e => rw [effect_of_error hanswer]
      | ok answer =>
          rw [find?_effect_write hanswer, Batch.rowsOf_single, if_neg (Ne.symm hne)]
          simp
  | close => exact hcall.elim

/-- Two states of a store that differ in nothing but one container, the log and the number of writes. -/
structure SameElsewhere (container : String) (before after : MemoryStore) : Prop where
  closes : after.closes = before.closes
  failPoint : after.failPoint? = before.failPoint?
  others : ∀ other, other ≠ container → after.container? other = before.container? other

theorem SameElsewhere.trans {container : String} {first second third : MemoryStore}
    (h : SameElsewhere container first second) (h' : SameElsewhere container second third) :
    SameElsewhere container first third where
  closes := h'.closes.trans h.closes
  failPoint := h'.failPoint.trans h.failPoint
  others other hne := (h'.others other hne).trans (h.others other hne)

theorem perform_elsewhere (s : MemoryStore) {container : String} {call : StoreCall} (hcall : call.On container) :
    SameElsewhere container s (s.perform call).2 where
  closes := by
    have hclose : call ≠ .close := fun h => (h ▸ hcall : StoreCall.On container .close)
    rw [perform_closes, noted_closes hclose]
  failPoint := s.perform_failPoint? call
  others other hne := by
    rw [perform_eq]
    cases s.refusal? call with
    | some e => exact congrArg (NameMap.find? · other) (s.noted_containers call)
    | none => exact effect_elsewhere s.containers hne hcall

end MemoryStore

open MemoryStore (SameElsewhere)

/-- That a program changes nothing but one container is compositional. -/
theorem elsewhere_compositional (container : String) :
    Compositional memoryStore container fun prog => ∀ s, SameElsewhere container s (prog.run s).2 where
  pure _ _ := ⟨rfl, rfl, fun _ _ => rfl⟩
  bind hprog hnext s := (hprog s).trans (hnext _ _)
  perform hcall s := s.perform_elsewhere hcall

/-! ### Provisioning -/

namespace MemoryStore

/-- A program that goes on after a call only if it succeeded, and does succeed. -/
theorem of_perform_bind_ok {ε α : Type} {call : StoreCall}
    {next : Except StoreError call.Answer → StateM MemoryStore (Except ε α)}
    {s after : MemoryStore} {value : α} (h : (memoryStore.perform call >>= next).run s = (.ok value, after))
    (herror : ∀ e s, ∃ e', (next (.error e)).run s = (.error e', s)) :
    ∃ answer, (s.perform call).1 = .ok answer ∧
      (next (.ok answer)).run (s.perform call).2 = (.ok value, after) := by
  change (next (s.perform call).1).run (s.perform call).2 = _ at h
  cases hanswer : (s.perform call).1 with
  | error e =>
      obtain ⟨e', he'⟩ := herror e (s.perform call).2
      rw [hanswer, he'] at h
      cases h
  | ok answer => exact ⟨answer, rfl, hanswer ▸ h⟩

theorem perform_bind {α : Type} {call : StoreCall}
    {next : Except StoreError call.Answer → StateM MemoryStore α} {s after : MemoryStore}
    {answer : Except StoreError call.Answer} (h : s.perform call = (answer, after)) :
    (memoryStore.perform call >>= next).run s = (next answer).run after := by
  change (next (s.perform call).1).run (s.perform call).2 = _
  rw [h]

theorem find?_of_create_ok {s : MemoryStore} {name : String} {schema : Schema} {answer : Unit}
    (h : (s.perform (.create name schema)).1 = .ok answer) :
    (s.perform (.create name schema)).2.container? name = some ⟨schema, #[]⟩ := by
  have heffect := perform_of_ok h
  by_cases hpresent : s.containers.contains name
  · rw [effect_create_present schema hpresent] at heffect
    cases heffect
  · rw [effect_create_absent schema hpresent] at heffect
    have hafter : s.containers.insert name ⟨schema, #[]⟩ = (s.perform (.create name schema)).2.containers :=
      congrArg Prod.snd heffect
    rw [container?, ← hafter]
    exact NameMap.find?_insert_self _ _ _

end MemoryStore

section Provision

variable {s : MemoryStore} {container : String} {schema : Schema}

/-- Provisioning that succeeds leaves the container empty, whatever it was before. -/
theorem recreate_stored {after : MemoryStore} {outcome : ProvisionOutcome}
    (h : (recreate memoryStore container schema).run s = (.ok outcome, after)) :
    after.container? container = some ⟨schema, #[]⟩ ∧ after.writes = s.writes := by
  rw [recreate] at h
  obtain ⟨existed, -, h⟩ := MemoryStore.of_perform_bind_ok h fun e s => ⟨e, rfl⟩
  change Bool at existed
  cases existed with
  | false =>
      obtain ⟨created, hcreated, h⟩ := MemoryStore.of_perform_bind_ok h fun e s => ⟨e, rfl⟩
      cases h
      exact ⟨MemoryStore.find?_of_create_ok hcreated,
        (MemoryStore.perform_writes _ _).trans (MemoryStore.perform_writes _ _)⟩
  | true =>
      obtain ⟨dropped, -, h⟩ := MemoryStore.of_perform_bind_ok h fun e s => ⟨e, rfl⟩
      obtain ⟨created, hcreated, h⟩ := MemoryStore.of_perform_bind_ok h fun e s => ⟨e, rfl⟩
      cases h
      exact ⟨MemoryStore.find?_of_create_ok hcreated, (MemoryStore.perform_writes _ _).trans
        ((MemoryStore.perform_writes _ _).trans (MemoryStore.perform_writes _ _))⟩

theorem provision_stored {after : MemoryStore} {outcome : ProvisionOutcome}
    (h : (provision memoryStore container schema).run s = (.ok outcome, after)) :
    after.container? container = some ⟨schema, #[]⟩ ∧ after.writes = s.writes := by
  rw [provision, StateT.run_bind] at h
  rcases hrecreate : (recreate memoryStore container schema).run s with ⟨answer, final⟩
  rw [hrecreate] at h
  cases answer with
  | error e => cases h
  | ok outcome =>
      cases h
      exact recreate_stored hrecreate

theorem MemoryStore.ne_of_free (hfree : s.failPoint? = none) {point : FailPoint} : s.failPoint? ≠ some point := by
  rw [hfree]
  exact (Option.some_ne_none point).symm

/-- An open store that never fails provisions every container. -/
theorem provision_succeeds (hopen : s.closes = 0) (hfree : s.failPoint? = none) (container : String)
    (schema : Schema) : ∃ outcome, ((provision memoryStore container schema).run s).1 = .ok outcome := by
  suffices h : ∃ outcome, ((recreate memoryStore container schema).run s).1 = .ok outcome by
    obtain ⟨outcome, h⟩ := h
    rw [provision, StateT.run_bind]
    rcases hrecreate : (recreate memoryStore container schema).run s with ⟨answer, after⟩
    rw [hrecreate] at h
    obtain rfl : answer = .ok outcome := h
    exact ⟨outcome, rfl⟩
  have hcreate (s' : MemoryStore) (hopen : s'.closes = 0) (hfree : s'.failPoint? = none)
      (habsent : ¬s'.containers.contains container) :
      ∃ after, s'.perform (.create container schema) = (.ok (), after) := by
    rw [MemoryStore.perform_carried hopen (MemoryStore.ne_of_free hfree),
      MemoryStore.effect_create_absent schema habsent]
    exact ⟨_, rfl⟩
  have hexists : s.perform (.exists container) =
      (.ok (s.containers.contains container), s.noted (.exists container)) :=
    MemoryStore.perform_carried hopen (MemoryStore.ne_of_free hfree)
  rw [recreate, MemoryStore.perform_bind hexists]
  cases hpresent : s.containers.contains container with
  | false =>
      obtain ⟨after, hcreated⟩ :=
        hcreate (s.noted (.exists container)) hopen hfree (Bool.eq_false_iff.mp hpresent)
      refine ⟨.created, ?_⟩
      change ((memoryStore.perform _ >>= _).run _).1 = _
      rw [MemoryStore.perform_bind hcreated]
      rfl
  | true =>
      obtain ⟨dropped, hdropped, hopen, hfree, habsent⟩ : ∃ dropped : MemoryStore,
          (s.noted (.exists container)).perform (.drop container) = (.ok (), dropped) ∧
            dropped.closes = 0 ∧ dropped.failPoint? = none ∧ dropped.container? container = none :=
        ⟨_, MemoryStore.perform_carried hopen (MemoryStore.ne_of_free hfree), hopen, hfree,
          NameMap.find?_erase_self _ _⟩
      obtain ⟨after, hcreated⟩ := hcreate dropped hopen hfree
        (Bool.eq_false_iff.mp ((NameMap.contains_eq_false_iff _ _).mpr habsent))
      refine ⟨.recreated, ?_⟩
      change ((memoryStore.perform _ >>= _).run _).1 = _
      rw [MemoryStore.perform_bind hdropped]
      change ((memoryStore.perform _ >>= _).run _).1 = _
      rw [MemoryStore.perform_bind hcreated]
      rfl

end Provision

/-! ### Writing -/

section Write

variable {s : MemoryStore} {container : String} {content : StoredContainer} (hopen : s.closes = 0)
  (hfind : s.container? container = some content)

include hopen

include hfind in
/-- A write that is carried out appends its rows. -/
theorem write_stored (hfree : s.failPoint? ≠ some (.write (s.writes + 1))) {batch : List Row}
    (hwidth : ∀ row ∈ batch, row.width = content.schema.width) :
    ∃ after, s.perform (.write (.single container batch.toArray)) = (.ok (), after) ∧
      SameElsewhere container s after ∧ after.writes = s.writes + 1 ∧
      after.container? container = some { content with rows := content.rows ++ batch.toArray } := by
  have hcarried : s.perform (.write (.single container batch.toArray)) = _ :=
    MemoryStore.perform_carried hopen hfree
  have hrows : ∀ row ∈ batch.toArray, row.width = content.schema.width :=
    fun row hrow => hwidth row (List.mem_toArray.mp hrow)
  obtain ⟨containers, heffect, hafter, hothers⟩ := MemoryStore.effect_write_single hfind hrows
  rw [heffect] at hcarried
  exact ⟨_, hcarried, ⟨rfl, rfl, hothers⟩, rfl, hafter⟩

include hfind in
/-- A write at which the store is to fail stores nothing. -/
theorem write_refused (hfail : s.failPoint? = some (.write (s.writes + 1))) (batch : List Row) :
    ∃ after, s.perform (.write (.single container batch.toArray)) =
        (.error (FailPoint.write (s.writes + 1)).refusal, after) ∧
      after.container? container = some content :=
  ⟨_, MemoryStore.perform_refused hopen hfail, hfind⟩

include hfind in
/-- Writes of which none is to fail append all rows. -/
theorem writeSteps_stored (result : Except LoadError Metrics) (written : Nat) {batches : List (List Row)}
    (hwidth : ∀ batch ∈ batches, ∀ row ∈ batch, row.width = content.schema.width)
    (hfree : ∀ number, s.failPoint? = some (.write number) →
      number ≤ s.writes ∨ s.writes + batches.length < number) :
    ∃ after, (performSteps memoryStore result (writeSteps container written batches)).run s = (result, after) ∧
      after.writes = s.writes + batches.length ∧
      after.container? container = some { content with rows := content.rows ++ batches.flatten.toArray } := by
  induction batches generalizing s content written with
  | nil => exact ⟨s, rfl, rfl, by simp [hfind]⟩
  | cons batch batches ih =>
      rw [List.length_cons] at hfree ⊢
      have hnow : s.failPoint? ≠ some (.write (s.writes + 1)) := fun hfail => by
        have := hfree _ hfail
        omega
      obtain ⟨next, hperform, hsame, hwrites, hnext⟩ :=
        write_stored hopen hfind hnow (hwidth batch List.mem_cons_self)
      have hlater : ∀ number, next.failPoint? = some (.write number) →
          number ≤ next.writes ∨ next.writes + batches.length < number := by
        intro number hfail
        have := hfree number (hsame.failPoint ▸ hfail)
        omega
      obtain ⟨after, hrun, hcount, hafter⟩ := ih (hsame.closes.trans hopen) hnext (written + 1)
        (fun b hb => hwidth b (List.mem_cons_of_mem _ hb)) hlater
      refine ⟨after, ?_, by omega, by simp [hafter]⟩
      rw [writeSteps, performSteps, MemoryStore.perform_bind hperform]
      exact hrun

include hfind in
/-- Writes of which one is to fail append the rows before it, and the error names it. -/
theorem writeSteps_refused (result : Except LoadError Metrics) (written : Nat) {batches : List (List Row)}
    (hwidth : ∀ batch ∈ batches, ∀ row ∈ batch, row.width = content.schema.width) {count : Nat}
    (hcount : count < batches.length) (hfail : s.failPoint? = some (.write (s.writes + count + 1))) :
    ∃ after, (performSteps memoryStore result (writeSteps container written batches)).run s =
        (.error (.write container (written + count + 1) (FailPoint.write (s.writes + count + 1)).refusal),
          after) ∧
      after.container? container =
        some { content with rows := content.rows ++ (batches.take count).flatten.toArray } := by
  induction batches generalizing s content written count with
  | nil => exact absurd hcount (Nat.not_lt_zero _)
  | cons batch batches ih =>
      rw [writeSteps, performSteps]
      cases count with
      | zero =>
          obtain ⟨after, hperform, hafter⟩ := write_refused hopen hfind hfail batch
          refine ⟨after, ?_, by simp [hafter]⟩
          rw [MemoryStore.perform_bind hperform]
          rfl
      | succ count =>
          rw [List.length_cons] at hcount
          have hnow : s.failPoint? ≠ some (.write (s.writes + 1)) := by
            rw [hfail, ne_eq, Option.some.injEq, FailPoint.write.injEq]
            omega
          obtain ⟨next, hperform, hsame, hwrites, hnext⟩ :=
            write_stored hopen hfind hnow (hwidth batch List.mem_cons_self)
          have hnumber : next.writes + count + 1 = s.writes + (count + 1) + 1 := by omega
          obtain ⟨after, hrun, hafter⟩ := ih (hsame.closes.trans hopen) hnext (written + 1)
            (fun b hb => hwidth b (List.mem_cons_of_mem _ hb)) (Nat.lt_of_succ_lt_succ hcount)
            (hnumber ▸ hsame.failPoint.trans hfail)
          have hbatch : written + 1 + count + 1 = written + (count + 1) + 1 := by omega
          rw [hnumber, hbatch] at hrun
          refine ⟨after, ?_, by simp [hafter]⟩
          rw [MemoryStore.perform_bind hperform]
          exact hrun

end Write

end SampleLoad
