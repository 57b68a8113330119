import SampleLoad.Proofs.Generate.Rows
import SampleLoad.Proofs.Load.MemoryCalls

/-!
What generating rows can do to a run. The buffer has room whenever a row comes, and columns that were checked
have values, so that a run with a valid schema can only run out of times, at the first cursor that has none. If
the store refuses nothing, that is all that can go wrong, and it is enough to look at the last cursor.
-/

namespace SampleLoad

namespace Pipeline

/-! ### Items of valid schemas -/

/-- A cursor is the first of a run that lacks a time, and times are needed. -/
structure RunsOut (p : Pipeline) (schema : Schema) (rowCount cursor : Nat) : Prop where
  hasTime : schema.HasTime
  within : cursor < rowCount
  lacks : ¬∃ t, p.generator.timeAt cursor = .ok t
  before : ∀ earlier < cursor, ∃ t, p.generator.timeAt earlier = .ok t

section Valid

variable (p : Pipeline) {schema : Schema} (rowCount : Nat) (hvalid : schema.validate = .ok ())

include hvalid

/-- An item is an error only where the cursor lacks a time that is needed. -/
theorem item_error_iff {index : Nat} {e : GeneratorError} :
    (p.items schema rowCount)[index]? = some (.error e) ↔
      index < rowCount ∧ schema.HasTime ∧ e = .timestampOutOfRange index ∧
        ¬∃ t, p.generator.timeAt index = .ok t := by
  by_cases hindex : index < rowCount
  · obtain ⟨before, hitem⟩ := p.generator.getElem?_itemsFrom schema hindex 0 p.source
    rw [items_eq, hitem, Option.some.injEq, Nat.zero_add, p.generator.rowAt_eq_error_iff hvalid]
    exact (and_iff_right hindex).symm
  · have hnone : (p.items schema rowCount)[index]? = none := by
      rw [List.getElem?_eq_none_iff, items_length]
      omega
    rw [hnone]
    exact ⟨fun h => (nomatch h), fun h => absurd h.1 hindex⟩

/-- Generation fails first where times run out. -/
theorem failsAt_iff_runsOut {index : Nat} {e : GeneratorError} :
    FailsAt (p.items schema rowCount) index e ↔
      e = .timestampOutOfRange index ∧ p.RunsOut schema rowCount index := by
  constructor
  · intro h
    obtain ⟨hindex, hhas, he, hnone⟩ := (p.item_error_iff rowCount hvalid).mp h.here
    refine ⟨he, hhas, hindex, hnone, ?_⟩
    intro earlier hearlier
    refine Classical.byContradiction fun hlacks => ?_
    have hitem := (p.item_error_iff rowCount hvalid).mpr ⟨by omega, hhas, rfl, hlacks⟩
    obtain ⟨row, hrow⟩ := h.before earlier hearlier
    cases hrow.symm.trans hitem
  · rintro ⟨he, h⟩
    refine ⟨(p.item_error_iff rowCount hvalid).mpr ⟨h.within, h.hasTime, he, h.lacks⟩, ?_⟩
    intro earlier hearlier
    have hwithin := h.within
    have hlength : earlier < (p.items schema rowCount).length := by
      rw [items_length]
      omega
    cases hitem : (p.items schema rowCount)[earlier] with
    | ok row => exact ⟨row, by rw [List.getElem?_eq_getElem hlength, hitem]⟩
    | error e' =>
        rw [← Option.some.injEq, ← List.getElem?_eq_getElem hlength, p.item_error_iff rowCount hvalid] at hitem
        exact absurd (h.before earlier hearlier) hitem.2.2.2

/-- Nothing fails if the last cursor has a time, or no time is needed. -/
theorem plan_complete_iff :
    (p.plan schema rowCount).fault? = none ↔
      rowCount = 0 ∨ ¬schema.HasTime ∨ ∃ t, p.generator.timeAt (rowCount - 1) = .ok t := by
  constructor
  · intro hnone
    refine Classical.byContradiction fun hlacks => ?_
    obtain ⟨hpositive, hlacks⟩ := not_or.mp hlacks
    obtain ⟨hhas, hlast⟩ := not_or.mp hlacks
    have hitem := (p.item_error_iff rowCount hvalid).mpr ⟨by omega, Classical.not_not.mp hhas, rfl, hlast⟩
    rw [p.items_of_complete schema rowCount hnone, List.getElem?_map, Option.map_eq_some_iff] at hitem
    obtain ⟨row, -, hrow⟩ := hitem
    cases hrow
  · intro h
    cases hfault : (p.plan schema rowCount).fault? with
    | none => rfl
    | some e =>
        obtain ⟨-, hout⟩ := (p.failsAt_iff_runsOut rowCount hvalid).mp (p.failsAt_of_cut schema rowCount hfault)
        have hwithin := hout.within
        rcases h with hzero | hfree | hlast
        · omega
        · exact absurd hout.hasTime hfree
        · exact absurd (RowGenerator.timeAt_of_le (by omega) hlast) hout.lacks

end Valid

/-! ### Runs -/

namespace FirstFailure

variable {p : Pipeline} {container : String} {schema : Schema} {rowCount : Nat} {loading : List Exchange}

theorem of_generator {e : GeneratorError} (h : p.FirstFailure container schema rowCount loading (.generator e)) :
    schema.validate = .ok () ∧ ∃ index, FailsAt (p.items schema rowCount) index e := by
  cases h with
  | call hvalid hfailed hgenerated => cases hfailed
  | generate hvalid hbefore hwritten hfails => exact ⟨hvalid, _, hfails⟩

end FirstFailure

variable (p : Pipeline) (answers : Answers) (container : String) (schema : Schema) (rowCount : Nat)

/-- A run that reports an error of its own reports what failed first. -/
theorem firstFailure_of_report {fault : LoadError} (hown : ∀ e, fault ≠ .connection e)
    (h : (p.runOver answers container schema rowCount).1 = .error fault) :
    ∃ loading, p.FirstFailure container schema rowCount loading fault := by
  obtain ⟨loading, reported, hload, -, hend⟩ := p.load_first_failure answers container schema rowCount
  rw [p.runOver_eq answers container schema rowCount hload] at h
  rcases hend with ⟨fault, rfl, hfault⟩ | ⟨⟨metrics, rfl⟩, -⟩
  · cases h
    exact ⟨loading, hfault⟩
  · cases hclosed : answers loading .close with
    | ok closed =>
        rw [hclosed] at h
        cases h
    | error e =>
        rw [hclosed] at h
        cases h
        exact absurd rfl (hown e)

/-- A run in which no call fails succeeds if its schema is valid and its plan is complete. -/
theorem unrefused_ok_iff :
    (∃ metrics, p.unrefused schema rowCount = .ok metrics) ↔
      schema.validate = .ok () ∧ (p.plan schema rowCount).fault? = none := by
  rw [unrefused]
  cases schema.validate with
  | error e => simp
  | ok valid =>
      simp only [LoadPlan.outcome]
      cases (p.plan schema rowCount).fault? with
      | none => simp
      | some e => simp

/-- The buffer of a run never overflows, and the only thing that generation can report is the first cursor
without a time. A run over a store in memory that refuses nothing therefore succeeds exactly if its schema is
valid and its last cursor has a time, should there be one and times be needed. -/
theorem run_runs_out_of_time :
    (∀ e, (p.runOver answers container schema rowCount).1 ≠ .error (.buffer e)) ∧
      (∀ e, (p.runOver answers container schema rowCount).1 ≠ .error (.generator (.schema e))) ∧
      (∀ e, (p.runOver answers container schema rowCount).1 = .error (.generator e) →
        ∃ cursor, e = .timestampOutOfRange cursor ∧ p.RunsOut schema rowCount cursor) ∧
      (schema.validate = .ok () → ∀ cursor e,
        FailsAt (p.items schema rowCount) cursor e ↔
          e = .timestampOutOfRange cursor ∧ p.RunsOut schema rowCount cursor) ∧
      ∀ store : MemoryStore, store.closes = 0 → store.failPoint? = none →
        ((∃ metrics, (p.runInMemory store container schema rowCount).1 = .ok metrics) ↔
          schema.validate = .ok () ∧
            (rowCount = 0 ∨ ¬schema.HasTime ∨ ∃ t, p.generator.timeAt (rowCount - 1) = .ok t)) := by
  have hgenerator : ∀ e, (p.runOver answers container schema rowCount).1 = .error (.generator e) →
      ∃ cursor, e = .timestampOutOfRange cursor ∧ p.RunsOut schema rowCount cursor := by
    intro e h
    obtain ⟨loading, hfirst⟩ := p.firstFailure_of_report answers container schema rowCount
      (fun _ => LoadError.noConfusion) h
    obtain ⟨hvalid, index, hfails⟩ := hfirst.of_generator
    exact ⟨index, (p.failsAt_iff_runsOut rowCount hvalid).mp hfails⟩
  refine ⟨?_, ?_, hgenerator, ?_, ?_⟩
  · intro e h
    obtain ⟨loading, hfirst⟩ := p.firstFailure_of_report answers container schema rowCount
      (fun _ => LoadError.noConfusion) h
    exact hfirst.own.2 e rfl
  · intro e h
    obtain ⟨cursor, hcursor, -⟩ := hgenerator _ h
    cases hcursor
  · intro hvalid cursor e
    exact p.failsAt_iff_runsOut rowCount hvalid
  · intro store hopen hfree
    rw [p.runInMemory_calls container schema rowCount hopen hfree, p.unrefused_ok_iff schema rowCount]
    constructor
    · rintro ⟨hvalid, hcomplete⟩
      exact ⟨hvalid, (p.plan_complete_iff rowCount hvalid).mp hcomplete⟩
    · rintro ⟨hvalid, hlast⟩
      exact ⟨hvalid, (p.plan_complete_iff rowCount hvalid).mpr hlast⟩

end Pipeline

end SampleLoad
