import SampleLoad.Proofs.Generate.ExactTimes
import SampleLoad.Proofs.Load.Seeded
import SampleLoad.Proofs.Load.WrittenTimes

/-!
From the option for the step to the times of a run. The option is any signed 64-bit number of milliseconds; what is
below one millisecond is raised to it, and the least number, which is no length of time, stands for the default. On
the way the number becomes nanoseconds and milliseconds again, and nothing of it is lost. So the rows that a run
writes go back by exactly that step, whatever the store answers. Main statement: `Pipeline.rows_step_back`.
-/

namespace SampleLoad

/-- Every timestamp column of the row holds the instant that many nanoseconds after the start of 1970. -/
def Row.HoldsTime (row : Row) (schema : Schema) (nanos : Int) : Prop :=
  ∀ (column : Nat) (c : Column), schema.columns[column]? = some c → c.type = .timestamp →
    ∃ t, row.get? column = some (.timestamp t) ∧ t.nanos = nanos

namespace Pipeline

/-! ### The step -/

def effectiveStep (millis : Int) : Int :=
  if millis = -(signedLimit : Int) then RowGenerator.defaultStepMillis else max 1 millis

theorem effectiveStep_of_ne {millis : Int} (h : millis ≠ -(signedLimit : Int)) :
    effectiveStep millis = max 1 millis :=
  if_neg h

theorem effectiveStep_pos (millis : Int) : 1 ≤ effectiveStep millis := by
  unfold effectiveStep
  split
  · decide
  · exact Int.le_max_left _ _

/-- Only the least number has a larger step than some that are larger. -/
theorem effectiveStep_mono {millis larger : Int} (hleast : millis ≠ -(signedLimit : Int)) (hle : millis ≤ larger) :
    effectiveStep millis ≤ effectiveStep larger := by
  rw [effectiveStep_of_ne hleast]
  unfold effectiveStep
  split
  · simp only [RowGenerator.defaultStepMillis, signedLimit] at *
    omega
  · omega

/-- A whole number of milliseconds keeps its value as a step. -/
theorem withStep_millis (g : RowGenerator) (millis : Int) :
    g.withStep (millis * nanosPerMilli) = { g with stepMillis := max 1 millis } := by
  rw [RowGenerator.withStep, Int.mul_tdiv_cancel millis (by decide)]

theorem withStep_stepOfMillis (g : RowGenerator) (millis : Int) :
    g.withStep (stepOfMillis millis) = { g with stepMillis := effectiveStep millis } := by
  rw [stepOfMillis, withStep_millis, effectiveStep]
  split
  · rfl
  · rfl

variable (p : Pipeline) (options : CommonOptions)

theorem withOptions_generator :
    (p.withOptions options).generator = p.generator.withStep (stepOfMillis options.decreaseUnitMillis) := by
  rw [withOptions]
  cases options.seed? <;> rfl

theorem withOptions_baseTime : (p.withOptions options).generator.baseTime = p.generator.baseTime := by
  rw [withOptions_generator, withStep_stepOfMillis]

theorem withOptions_stepMillis :
    (p.withOptions options).generator.stepMillis = effectiveStep options.decreaseUnitMillis := by
  rw [withOptions_generator, withStep_stepOfMillis]

/-! ### Times of rows -/

section Rows

variable {q : Pipeline} {schema : Schema} (rowCount : Nat)

/-- The time of a cursor in nanoseconds, be it that of an instant or not. -/
def nanosAt (q : Pipeline) (cursor : Nat) : Int :=
  q.generator.baseTime.nanos - cursor * q.generator.stepMillis * nanosPerMilli

/-- Nothing is written for the sake of an invalid schema. -/
theorem valid_of_writtenRow {answers : Answers} {container : String} {index : Nat} {row : Row}
    (hrow : (q.writtenRows answers container schema rowCount)[index]? = some row) : schema.validate = .ok () := by
  obtain ⟨batch, hbatch, -⟩ := List.mem_flatMap.mp (List.mem_of_getElem? hrow)
  obtain ⟨number, hnumber⟩ := List.getElem?_of_mem hbatch
  exact (q.plan_of_writes answers container schema rowCount hnumber).1

variable (hstep : 1 ≤ q.generator.stepMillis) (hvalid : schema.validate = .ok ())

include hstep

theorem hasTimes_of_inRange {count : Nat} (hrange : ∀ cursor < count, Instant.InRange (q.nanosAt cursor)) :
    q.generator.HasTimes schema count := by
  intro _ cursor hcursor
  exact (RowGenerator.timeAt_exists_iff_exact hstep cursor).mpr (hrange cursor hcursor)

include hvalid

/-- A run comes to a row wherever the time of the cursor is an instant. -/
theorem row_of_inRange {index : Nat} (hindex : index < rowCount) (hrange : Instant.InRange (q.nanosAt index)) :
    ∃ row, (q.rows schema rowCount)[index]? = some row := by
  have hlength : index < (q.rows schema rowCount).length := by
    cases hfault : (q.plan schema rowCount).fault? with
    | none => rw [rows_length_of_complete hfault]; exact hindex
    | some e =>
        obtain ⟨-, hout⟩ := (q.failsAt_iff_runsOut rowCount hvalid).mp (q.failsAt_of_cut schema rowCount hfault)
        refine Nat.lt_of_not_le fun hle => hout.lacks (RowGenerator.timeAt_of_le hle ?_)
        exact (RowGenerator.timeAt_exists_iff_exact hstep index).mpr hrange
  exact ⟨_, List.getElem?_eq_getElem hlength⟩

theorem holdsTime_of_row {index : Nat} {row : Row} (hrow : (q.rows schema rowCount)[index]? = some row) :
    row.HoldsTime schema (q.nanosAt index) := by
  intro column c hc htype
  have hitem := q.item_of_row schema rowCount hrow
  have hindex : index < rowCount := by
    rw [← q.items_length schema rowCount]
    exact (List.getElem?_eq_some_iff.mp hitem).1
  obtain ⟨before, hbefore⟩ := q.generator.getElem?_itemsFrom schema hindex 0 q.source
  rw [items_eq, hbefore, Option.some.injEq, Nat.zero_add] at hitem
  obtain ⟨t, hvalue, htime⟩ := q.generator.rowAt_timestamp hvalid hitem hc htype
  exact ⟨t, hvalue, (RowGenerator.timeAt_eq_ok_iff_exact hstep index t).mp htime⟩

end Rows

/-- A run steps by its option: by that many milliseconds, but by one at least, and by the default of a second if the
option is the least number, which is no length of time. Apart from that number a larger option has no smaller step.
Whatever the store answers, a row that the run writes holds the base time less that many steps in every timestamp
column. The run comes to a row wherever that is an instant, and a store that refuses nothing is given all rows if all
are. -/
theorem rows_step_back (answers : Answers) (container : String) (schema : Schema) (rowCount : Nat) :
    let q := p.withOptions options
    let millis := options.decreaseUnitMillis
    q.generator.baseTime = p.generator.baseTime ∧
      (millis ≠ -(signedLimit : Int) → q.generator.stepMillis = max 1 millis) ∧
      (millis = -(signedLimit : Int) → q.generator.stepMillis = 1000) ∧
      (∀ larger : CommonOptions, millis ≠ -(signedLimit : Int) → millis ≤ larger.decreaseUnitMillis →
        q.generator.stepMillis ≤ (p.withOptions larger).generator.stepMillis) ∧
      (∀ (index : Nat) (row : Row), (q.writtenRows answers container schema rowCount)[index]? = some row →
        row.HoldsTime schema (q.nanosAt index)) ∧
      (schema.validate = .ok () → ∀ index < rowCount, Instant.InRange (q.nanosAt index) →
        ∃ row, (q.rows schema rowCount)[index]? = some row ∧ row.HoldsTime schema (q.nanosAt index)) ∧
      (schema.validate = .ok () → (∀ index < rowCount, Instant.InRange (q.nanosAt index)) →
        (∀ history call, ∃ answer, answers history call = .ok answer) →
        q.writtenRows answers container schema rowCount = q.rows schema rowCount ∧
          (q.rows schema rowCount).length = rowCount) := by
  intro q millis
  have hmillis : q.generator.stepMillis = effectiveStep millis := p.withOptions_stepMillis options
  have hstep : 1 ≤ q.generator.stepMillis := hmillis ▸ effectiveStep_pos millis
  refine ⟨p.withOptions_baseTime options, ?_, ?_, ?_, ?_, ?_, ?_⟩
  · intro hleast
    rw [hmillis, effectiveStep_of_ne hleast]
  · intro hleast
    rw [hmillis, hleast]
    rfl
  · intro larger hleast hle
    rw [hmillis, withOptions_stepMillis]
    exact effectiveStep_mono hleast hle
  · intro index row hrow
    have hvalid := valid_of_writtenRow rowCount hrow
    obtain ⟨hwithin, rfl⟩ := List.getElem?_eq_some_iff.mp hrow
    have hprefix := writtenRows_isPrefix q answers container rowCount hvalid
    exact holdsTime_of_row rowCount hstep hvalid (List.prefix_iff_getElem?.mp hprefix index hwithin)
  · intro hvalid index hindex hrange
    obtain ⟨row, hrow⟩ := row_of_inRange rowCount hstep hvalid hindex hrange
    exact ⟨row, hrow, holdsTime_of_row rowCount hstep hvalid hrow⟩
  · intro hvalid hrange hanswers
    have hall := q.writtenRows_length answers container rowCount hvalid (hasTimes_of_inRange hstep hrange) hanswers
    have hprefix := writtenRows_isPrefix q answers container rowCount hvalid
    have hsame : q.writtenRows answers container schema rowCount = q.rows schema rowCount := by
      apply hprefix.eq_of_length_le
      rw [hall]
      exact q.rows_length_le schema rowCount
    exact ⟨hsame, hsame ▸ hall⟩

/-- The least number stands for a second, where the smallest step that there is would be expected, so that its step is
larger than that of zero. -/
theorem least_option_steps_by_default :
    let p := new ⟨1700000000000000000, by decide⟩ (.ofWords [])
    let q := p.withOptions { decreaseUnitMillis := -9223372036854775808 }
    let schema := Builtin.oneThousandRows.schema
    (∃ row, (q.writtenRows .obliging "c" schema 2)[1]? = some row ∧
        ¬row.HoldsTime schema (p.generator.baseTime.nanos - 1 * max 1 (-9223372036854775808) * nanosPerMilli)) ∧
      (p.withOptions { decreaseUnitMillis := 0 }).generator.stepMillis < q.generator.stepMillis := by
  intro p q schema
  refine ⟨⟨_, rfl, ?_⟩, by decide⟩
  intro hholds
  obtain ⟨t, hvalue, hnanos⟩ := hholds 0 _ rfl rfl
  cases hvalue
  exact absurd hnanos (by decide)

end Pipeline

end SampleLoad
