import SampleLoad.Proofs.Generate.Rows

/-!
What rows depend on. The time of a cursor is settled before anything is drawn and takes no words from the source,
so that the columns beside it draw what they would draw at any other time. Generators that start from one source
therefore make rows that differ in their timestamp columns only, and leave the source alike; one generator puts
the same times into its rows whatever its source is.
-/

namespace SampleLoad

/-- Rows of a schema that agree in all columns of some types. -/
structure Row.AgreeOn (schema : Schema) (types : ColumnType → Prop) (row other : Row) : Prop where
  width : row.width = schema.width
  otherWidth : other.width = schema.width
  values : ∀ (i : Nat) (column : Column), schema.columns[i]? = some column → types column.type →
    row.get? i = other.get? i

/-- Items that are related rows, or the same error. -/
inductive RelatedItems (related : Row → Row → Prop) :
    Except GeneratorError Row → Except GeneratorError Row → Prop where
  | rows {row other : Row} (h : related row other) : RelatedItems related (.ok row) (.ok other)
  | error (e : GeneratorError) : RelatedItems related (.error e) (.error e)

namespace Strategy

theorem ne_cursor_of_check {s : Strategy} {t : ColumnType} (hcheck : s.check t = .ok ()) (ht : t ≠ .timestamp) :
    s ≠ .cursor := by
  rintro rfl
  obtain ⟨hfits, -⟩ := (check_eq_ok_iff _ _).mp hcheck
  exact ht hfits.symm

/-- The words that a draw takes do not depend on the time. -/
theorem source_of_draw (s : Strategy) (time? other? : Option Instant) (source : RandomSource) :
    (s.draw time? source).2 = (s.draw other? source).2 := by
  by_cases hs : s = .cursor
  · subst hs
    cases time? <;> cases other? <;> rfl
  · rw [draw_time_irrelevant hs]

end Strategy

namespace RowGenerator

/-- The first so many cursors have times, if rows of the schema need them. -/
def HasTimes (g : RowGenerator) (schema : Schema) (count : Nat) : Prop :=
  schema.HasTime → ∀ cursor < count, ∃ t, g.timeAt cursor = .ok t

/-! ### Two times -/

theorem drawColumns_two_times {columns : List Column} (hcheck : ∀ c ∈ columns, c.strategy.check c.type = .ok ())
    {time? other? : Option Instant} (htime : ∀ c ∈ columns, c.type = .timestamp → ∃ t, time? = some t)
    (hother : ∀ c ∈ columns, c.type = .timestamp → ∃ t, other? = some t) (schemaName : String)
    (source : RandomSource) :
    ∃ values others, (drawColumns schemaName time? columns source).1 = .ok values ∧
      (drawColumns schemaName other? columns source).1 = .ok others ∧
      (drawColumns schemaName time? columns source).2 = (drawColumns schemaName other? columns source).2 ∧
      ∀ (i : Nat) (column : Column), columns[i]? = some column → column.type ≠ .timestamp →
        values[i]? = others[i]? := by
  induction columns generalizing source with
  | nil => exact ⟨[], [], rfl, rfl, rfl, by simp⟩
  | cons c rest ih =>
      have hfirst := hcheck c List.mem_cons_self
      obtain ⟨value, hvalue, -⟩ := Strategy.draw_of_check hfirst (htime c List.mem_cons_self) source
      obtain ⟨value', hvalue', -⟩ := Strategy.draw_of_check hfirst (hother c List.mem_cons_self) source
      have hafter := c.strategy.source_of_draw time? other? source
      obtain ⟨values, others, hvalues, hothers, hlast, hagree⟩ := ih (fun c hc => hcheck c (List.mem_cons_of_mem _ hc))
        (fun c hc => htime c (List.mem_cons_of_mem _ hc)) (fun c hc => hother c (List.mem_cons_of_mem _ hc))
        (c.strategy.draw time? source).2
      rw [drawColumns_cons hfirst hvalue, drawColumns_cons hfirst hvalue', ← hafter, hvalues, hothers]
      refine ⟨value :: values, value' :: others, rfl, rfl, hlast, ?_⟩
      intro i column hcolumn htype
      cases i with
      | zero =>
          obtain rfl : c = column := by simpa using hcolumn
          rw [Strategy.draw_time_irrelevant (Strategy.ne_cursor_of_check hfirst htype) time? other?] at hvalue
          cases hvalue.symm.trans hvalue'
          rfl
      | succ i => simpa using hagree i column (by simpa using hcolumn) htype

section Valid

variable (g other : RowGenerator) {schema : Schema} (hvalid : schema.validate = .ok ())

include hvalid

/-- The row at one cursor of each of two generators. -/
theorem rowAt_two_generators {cursor cursor' : Nat} (htime : schema.HasTime → ∃ t, g.timeAt cursor = .ok t)
    (hother : schema.HasTime → ∃ t, other.timeAt cursor' = .ok t) (source : RandomSource) :
    ∃ row row', (g.rowAt schema cursor source).1 = .ok row ∧ (other.rowAt schema cursor' source).1 = .ok row' ∧
      row.AgreeOn schema (· ≠ .timestamp) row' ∧
      (g.rowAt schema cursor source).2 = (other.rowAt schema cursor' source).2 := by
  obtain ⟨values, others, hvalues, hothers, hafter, hagree⟩ := drawColumns_two_times
    (Schema.check_of_validate hvalid) (g.toOption_timeAt htime) (other.toOption_timeAt hother) schema.name source
  have hrow : (g.rowAt schema cursor source).1 = .ok ⟨values⟩ := by
    rw [g.rowAt_eq htime, hvalues]
    rfl
  have hrow' : (other.rowAt schema cursor' source).1 = .ok ⟨others⟩ := by
    rw [other.rowAt_eq hother, hothers]
    rfl
  refine ⟨⟨values⟩, ⟨others⟩, hrow, hrow', ⟨rowAt_width hrow, rowAt_width hrow', hagree⟩, ?_⟩
  rw [g.rowAt_eq htime, other.rowAt_eq hother]
  exact hafter

/-- The rows of two generators that start from one source, and what they leave of it. -/
theorem itemsFrom_two_generators {total : Nat} (htimes : g.HasTimes schema total)
    (hothers : other.HasTimes schema total) {count cursor : Nat} (hcount : cursor + count ≤ total)
    (source : RandomSource) :
    ∃ rows others, g.itemsFrom schema count cursor source = rows.map .ok ∧
      other.itemsFrom schema count cursor source = others.map .ok ∧
      List.Forall₂ (Row.AgreeOn schema (· ≠ .timestamp)) rows others ∧
      g.sourceFrom schema count cursor source = other.sourceFrom schema count cursor source := by
  induction count generalizing cursor source with
  | zero => exact ⟨[], [], rfl, rfl, .nil, rfl⟩
  | succ count ih =>
      obtain ⟨row, row', hrow, hrow', hagree, hafter⟩ := rowAt_two_generators g other hvalid
        (fun hhas => htimes hhas cursor (by omega)) (fun hhas => hothers hhas cursor (by omega)) source
      obtain ⟨rows, others, hitems, hitems', hforall, hlast⟩ :=
        ih (by omega : cursor + 1 + count ≤ total) (g.rowAt schema cursor source).2
      refine ⟨row :: rows, row' :: others, ?_, ?_, .cons hagree hforall, ?_⟩
      · rw [itemsFrom, hrow, hitems, List.map_cons]
      · rw [itemsFrom, hrow', ← hafter, hitems', List.map_cons]
      · rw [sourceFrom, sourceFrom, ← hafter]
        exact hlast

/-! ### Two sources -/

/-- The row at a cursor, drawn from two sources. -/
theorem rowAt_two_sources (cursor : Nat) (source source' : RandomSource) :
    RelatedItems (Row.AgreeOn schema (· = .timestamp)) (g.rowAt schema cursor source).1
      (g.rowAt schema cursor source').1 := by
  have herror (e : GeneratorError) :
      (g.rowAt schema cursor source).1 = .error e ↔ (g.rowAt schema cursor source').1 = .error e := by
    rw [g.rowAt_eq_error_iff hvalid, g.rowAt_eq_error_iff hvalid]
  cases hitem : (g.rowAt schema cursor source).1 with
  | error e =>
      rw [(herror e).mp hitem]
      exact .error e
  | ok row =>
      cases hitem' : (g.rowAt schema cursor source').1 with
      | error e => cases hitem.symm.trans ((herror e).mpr hitem')
      | ok row' =>
          refine .rows ⟨rowAt_width hitem, rowAt_width hitem', fun i column hcolumn htype => ?_⟩
          obtain ⟨t, hvalue, htime⟩ := g.rowAt_timestamp hvalid hitem hcolumn htype
          obtain ⟨t', hvalue', htime'⟩ := g.rowAt_timestamp hvalid hitem' hcolumn htype
          cases htime.symm.trans htime'
          exact hvalue.trans hvalue'.symm

theorem itemsFrom_two_sources (count cursor : Nat) (source source' : RandomSource) :
    List.Forall₂ (RelatedItems (Row.AgreeOn schema (· = .timestamp))) (g.itemsFrom schema count cursor source)
      (g.itemsFrom schema count cursor source') := by
  induction count generalizing cursor source source' with
  | zero => exact .nil
  | succ count ih => exact .cons (g.rowAt_two_sources hvalid cursor source source') (ih _ _ _)

end Valid

end RowGenerator

end SampleLoad
