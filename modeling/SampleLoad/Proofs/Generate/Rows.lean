import SampleLoad.Generate.RowGenerator
import SampleLoad.Proofs.Generate.Draw
import SampleLoad.Proofs.Generate.Items
import SampleLoad.Proofs.Generate.Times

/-!
The rows of valid schemas. Every column draws from the source that the columns before it left, and since its
strategy was checked against its type, there is a value. So a row can fail in one way only: the schema has
timestamp columns, and the cursor has no time. Memory is taken to be without limit: a text is as long as its
strategy asks for.
-/

namespace SampleLoad.RowGenerator

/-! ### Columns one by one -/

theorem drawColumns_cons {c : Column} (hcheck : c.strategy.check c.type = .ok ()) {time? : Option Instant}
    {source : RandomSource} {value : Value} (hdraw : (c.strategy.draw time? source).1 = .ok value)
    (schemaName : String) (rest : List Column) :
    drawColumns schemaName time? (c :: rest) source =
      ((drawColumns schemaName time? rest (c.strategy.draw time? source).2).1.map (value :: ·),
        (drawColumns schemaName time? rest (c.strategy.draw time? source).2).2) := by
  rcases hdrawn : c.strategy.draw time? source with ⟨drawn, after⟩
  rw [hdrawn] at hdraw
  obtain rfl : drawn = .ok value := hdraw
  simp only [drawColumns, hcheck, hdrawn]
  rcases drawColumns schemaName time? rest after with ⟨values, last⟩
  cases values <;> rfl

/-- Columns that were checked have values, each drawn from what the columns before it left. -/
theorem drawColumns_of_check {columns : List Column} (hcheck : ∀ c ∈ columns, c.strategy.check c.type = .ok ())
    {time? : Option Instant} (htime : ∀ c ∈ columns, c.type = .timestamp → ∃ t, time? = some t)
    (schemaName : String) (source : RandomSource) :
    ∃ values, (drawColumns schemaName time? columns source).1 = .ok values ∧
      ∀ (i : Nat) (column : Column), columns[i]? = some column →
        ∃ value, values[i]? = some value ∧ value.type = column.type ∧
          Drawn time? (drawColumns schemaName time? (columns.take i) source).2 column.strategy value := by
  induction columns generalizing source with
  | nil => exact ⟨[], rfl, by simp⟩
  | cons c rest ih =>
      have hfirst := hcheck c List.mem_cons_self
      obtain ⟨value, hdraw, htype, hdrawn⟩ := Strategy.draw_of_check hfirst (htime c List.mem_cons_self) source
      obtain ⟨values, hvalues, hcolumns⟩ := ih (fun c hc => hcheck c (List.mem_cons_of_mem _ hc))
        (fun c hc => htime c (List.mem_cons_of_mem _ hc)) (c.strategy.draw time? source).2
      refine ⟨value :: values, by rw [drawColumns_cons hfirst hdraw, hvalues]; rfl, ?_⟩
      intro i column hcolumn
      cases i with
      | zero =>
          obtain rfl : c = column := by simpa using hcolumn
          exact ⟨value, rfl, htype, hdrawn⟩
      | succ i =>
          obtain ⟨next, hnext, hnextType, hnextDrawn⟩ := hcolumns i column (by simpa using hcolumn)
          refine ⟨next, by simpa using hnext, hnextType, ?_⟩
          rw [List.take_succ_cons, drawColumns_cons hfirst hdraw]
          exact hnextDrawn

/-- Columns without timestamps are drawn alike at all times. A strategy that wants one does not pass its check. -/
theorem drawColumns_time_irrelevant {columns : List Column} (hcolumns : ∀ c ∈ columns, c.type ≠ .timestamp)
    (schemaName : String) (time? other? : Option Instant) (source : RandomSource) :
    drawColumns schemaName time? columns source = drawColumns schemaName other? columns source := by
  induction columns generalizing source with
  | nil => rfl
  | cons c rest ih =>
      have hrest := ih fun c hc => hcolumns c (List.mem_cons_of_mem _ hc)
      cases hcheck : c.strategy.check c.type with
      | error fault => simp only [drawColumns, hcheck]
      | ok served =>
          have hstrategy : c.strategy ≠ .cursor := by
            intro hcursor
            have htype := ((Strategy.check_eq_ok_iff _ _).mp hcheck).1
            rw [hcursor] at htype
            exact hcolumns c List.mem_cons_self htype.symm
          simp only [drawColumns, hcheck, Strategy.draw_time_irrelevant hstrategy time? other?, hrest]

/-! ### Rows -/

/-- The source as the columns before a given one leave it. -/
def sourceBefore (g : RowGenerator) (schema : Schema) (cursor : Nat) (source : RandomSource) (index : Nat) :
    RandomSource :=
  (drawColumns schema.name (g.timeAt cursor).toOption (schema.columns.take index) source).2

section AnySchema

variable (g : RowGenerator) {schema : Schema}

/-- The time of a cursor is there for the columns that take it. -/
theorem toOption_timeAt {cursor : Nat} (htime : schema.HasTime → ∃ t, g.timeAt cursor = .ok t) :
    ∀ c ∈ schema.columns, c.type = .timestamp → ∃ t, (g.timeAt cursor).toOption = some t := by
  intro c hc htype
  obtain ⟨t, ht⟩ := htime ⟨c, hc, htype⟩
  exact ⟨t, by rw [ht]; rfl⟩

/-- The values of a row are those of its columns at the time of the cursor, whether or not it is needed. -/
theorem rowAt_eq {cursor : Nat} (htime : schema.HasTime → ∃ t, g.timeAt cursor = .ok t) (source : RandomSource) :
    g.rowAt schema cursor source =
      ((drawColumns schema.name (g.timeAt cursor).toOption schema.columns source).1.map Row.mk,
        (drawColumns schema.name (g.timeAt cursor).toOption schema.columns source).2) := by
  unfold rowAt
  by_cases hhas : schema.HasTime
  · obtain ⟨t, ht⟩ := htime hhas
    rw [if_pos (schema.any_timestamp_iff.mpr hhas), ht]
    rfl
  · rw [if_neg fun hany => hhas (schema.any_timestamp_iff.mp hany),
      drawColumns_time_irrelevant (fun c hc htype => hhas ⟨c, hc, htype⟩) schema.name none
        (g.timeAt cursor).toOption]

/-- Where a time is needed and there is none, nothing is drawn. -/
theorem rowAt_of_no_time {cursor : Nat} (hhas : schema.HasTime) (hnone : ¬∃ t, g.timeAt cursor = .ok t)
    (source : RandomSource) : g.rowAt schema cursor source = (.error (.timestampOutOfRange cursor), source) := by
  have herror : g.timeAt cursor = .error (.timestampOutOfRange cursor) := by
    cases hat : g.timeAt cursor with
    | ok t => exact absurd ⟨t, hat⟩ hnone
    | error e => rw [timeAt_error hat]
  rw [rowAt, if_pos (schema.any_timestamp_iff.mpr hhas), herror]

end AnySchema

section Valid

variable (g : RowGenerator) {schema : Schema} (hvalid : schema.validate = .ok ())

include hvalid

/-- A row takes its values from the columns, one after the other. -/
theorem rowAt_values {cursor : Nat} (htime : schema.HasTime → ∃ t, g.timeAt cursor = .ok t)
    (source : RandomSource) :
    ∃ values, (g.rowAt schema cursor source).1 = .ok ⟨values⟩ ∧
      ∀ (i : Nat) (column : Column), schema.columns[i]? = some column →
        ∃ value, values[i]? = some value ∧ value.type = column.type ∧
          Drawn (g.timeAt cursor).toOption (g.sourceBefore schema cursor source i) column.strategy value := by
  obtain ⟨values, hvalues, hdrawn⟩ :=
    drawColumns_of_check (Schema.check_of_validate hvalid) (g.toOption_timeAt htime) schema.name source
  refine ⟨values, ?_, hdrawn⟩
  rw [g.rowAt_eq htime, hvalues]
  rfl

/-- The cursor's time is the one thing that a row can lack. -/
theorem rowAt_eq_error_iff {cursor : Nat} {source : RandomSource} {e : GeneratorError} :
    (g.rowAt schema cursor source).1 = .error e ↔
      schema.HasTime ∧ e = .timestampOutOfRange cursor ∧ ¬∃ t, g.timeAt cursor = .ok t := by
  by_cases htime : schema.HasTime → ∃ t, g.timeAt cursor = .ok t
  · obtain ⟨values, hvalues, -⟩ := g.rowAt_values hvalid htime source
    rw [hvalues]
    constructor
    · intro h
      cases h
    · rintro ⟨hhas, -, hnone⟩
      exact absurd (htime hhas) hnone
  · obtain ⟨hhas, hnone⟩ := Classical.not_imp.mp htime
    rw [g.rowAt_of_no_time hhas hnone]
    constructor
    · intro h
      cases h
      exact ⟨hhas, rfl, hnone⟩
    · rintro ⟨-, rfl, -⟩
      rfl

/-- The cursor of a row has a time if one is needed. -/
theorem timeAt_of_rowAt {cursor : Nat} {source : RandomSource} {row : Row}
    (h : (g.rowAt schema cursor source).1 = .ok row) (hhas : schema.HasTime) : ∃ t, g.timeAt cursor = .ok t := by
  refine Classical.byContradiction fun hnone => ?_
  have herror := (@rowAt_eq_error_iff g schema hvalid cursor source _).mpr ⟨hhas, rfl, hnone⟩
  cases h.symm.trans herror

/-- Every value of a row was drawn by a strategy. -/
theorem rowAt_drawn {cursor : Nat} {source : RandomSource} {row : Row}
    (h : (g.rowAt schema cursor source).1 = .ok row) {value : Value} (hvalue : value ∈ row.values) :
    ∃ time? before strategy, Drawn time? before strategy value := by
  obtain ⟨values, hvalues, hdrawn⟩ := g.rowAt_values hvalid (g.timeAt_of_rowAt hvalid h) source
  cases h.symm.trans hvalues
  obtain ⟨i, hi⟩ := List.mem_iff_getElem?.mp hvalue
  have hwidth : i < schema.columns.length := by
    rw [← Schema.width, ← rowAt_width hvalues]
    exact (List.getElem?_eq_some_iff.mp hi).1
  obtain ⟨value', hvalue', -, hplace⟩ := hdrawn i _ (List.getElem?_eq_getElem hwidth)
  cases hi.symm.trans hvalue'
  exact ⟨_, _, _, hplace⟩

/-- A timestamp column holds the time of the row's cursor. -/
theorem rowAt_timestamp {cursor : Nat} {source : RandomSource} {row : Row}
    (h : (g.rowAt schema cursor source).1 = .ok row) {i : Nat} {column : Column}
    (hcolumn : schema.columns[i]? = some column) (htype : column.type = .timestamp) :
    ∃ t, row.values[i]? = some (.timestamp t) ∧ g.timeAt cursor = .ok t := by
  obtain ⟨values, hvalues, hdrawn⟩ := g.rowAt_values hvalid (g.timeAt_of_rowAt hvalid h) source
  cases h.symm.trans hvalues
  obtain ⟨value, hvalue, hvalueType, hplace⟩ := hdrawn i column hcolumn
  cases value with
  | timestamp t =>
      refine ⟨t, hvalue, ?_⟩
      have hsome := hplace.time_eq
      cases htime : g.timeAt cursor with
      | ok t' =>
          rw [htime] at hsome
          cases hsome
          rfl
      | error e =>
          rw [htime] at hsome
          cases hsome
  | _ =>
      rw [htype] at hvalueType
      cases hvalueType

/-- There is a row at every cursor that has a time, or at every cursor if no column needs one. It has one value
for each column, of that column's type, and the value lies where the column's strategy puts it; times are those
of the cursor. -/
theorem rowAt_conforms {cursor : Nat} (htime : schema.HasTime → ∃ t, g.timeAt cursor = .ok t)
    (source : RandomSource) :
    ∃ row, (g.rowAt schema cursor source).1 = .ok row ∧ row.width = schema.width ∧
      ∀ (i : Nat) (column : Column), schema.columns[i]? = some column →
        ∃ value, row.get? i = some value ∧ value.type = column.type ∧
          (∀ t, value = .timestamp t → g.timeAt cursor = .ok t) ∧
          Drawn (g.timeAt cursor).toOption (g.sourceBefore schema cursor source i) column.strategy value := by
  obtain ⟨values, hrow, hdrawn⟩ := g.rowAt_values hvalid htime source
  refine ⟨⟨values⟩, hrow, rowAt_width hrow, ?_⟩
  intro i column hcolumn
  obtain ⟨value, hvalue, htype, hplace⟩ := hdrawn i column hcolumn
  refine ⟨value, hvalue, htype, ?_, hplace⟩
  rintro t rfl
  have hsome := hplace.time_eq
  cases ht : g.timeAt cursor with
  | ok t' =>
      rw [ht] at hsome
      cases hsome
      rfl
  | error e =>
      rw [ht] at hsome
      cases hsome

end Valid

/-- Parameters at the limits: a range that starts at the least integer, one that ends at the largest, and
numbers in texts that go beyond them. -/
def limitSchema : Schema where
  name := "limits"
  kind := .timeSeries
  columns := [
    { name := "at", position := 0, type := .timestamp, isKey := true, strategy := .cursor },
    { name := "low", position := 1, type := .integer, strategy := .uniformInt 2147483647 (-2147483648) },
    { name := "high", position := 2, type := .integer, strategy := .uniformInt 1 2147483647 },
    { name := "text", position := 3, type := .string, strategy := .token "t" 2147483647 2147483647 },
    { name := "letters", position := 4, type := .string, strategy := .alphanumeric 3 },
    { name := "fraction", position := 5, type := .float, strategy := .unitFloat }]

/-- A row with parameters at the limits. -/
theorem rowAt_conforms_limits :
    let g := startingAt ⟨1700000000000000000, by decide⟩
    limitSchema.validate = .ok () ∧ (∃ t, g.timeAt 7 = .ok t) ∧
      ∀ source, ∃ row, (g.rowAt limitSchema 7 source).1 = .ok row ∧ row.width = 6 := by
  intro g
  have htime : ∃ t, g.timeAt 7 = .ok t := (g.timeAt_exists_iff 7).mpr (by decide)
  refine ⟨by decide, htime, ?_⟩
  intro source
  have hvalid : limitSchema.validate = .ok () := by decide
  obtain ⟨row, hrow, hwidth, -⟩ := g.rowAt_conforms hvalid (fun _ => htime) source
  exact ⟨row, hrow, hwidth⟩

end SampleLoad.RowGenerator
