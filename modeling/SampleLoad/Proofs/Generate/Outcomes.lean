import SampleLoad.Proofs.Generate.ExactTimes
import SampleLoad.Proofs.Generate.Rows
import SampleLoad.Proofs.Schema.WellFormed

/-!
What comes of any schema, valid or not. The time is settled first, and every column is held against its strategy
before anything is drawn for it, so the draws behind a check have a range and a time: the first column that does
not pass ends the row with a fault of its own. Main statement: `RowGenerator.rowAt_outcomes`.
-/

namespace SampleLoad.RowGenerator

/-- A column does not pass its check, and all before it do. -/
def FirstUnserved (columns : List Column) (c : Column) (fault : StrategyFault) : Prop :=
  ∃ before after, columns = before ++ c :: after ∧ (∀ b ∈ before, b.strategy.check b.type = .ok ()) ∧
    c.strategy.check c.type = .error fault

theorem FirstUnserved.cons {b c : Column} {rest : List Column} {fault : StrategyFault}
    (hb : b.strategy.check b.type = .ok ()) (h : FirstUnserved rest c fault) :
    FirstUnserved (b :: rest) c fault := by
  obtain ⟨before, after, rfl, hbefore, hc⟩ := h
  exact ⟨b :: before, after, rfl, List.forall_mem_cons.mpr ⟨hb, hbefore⟩, hc⟩

theorem served_or_firstUnserved (columns : List Column) :
    (∀ c ∈ columns, c.strategy.check c.type = .ok ()) ∨ ∃ c fault, FirstUnserved columns c fault := by
  induction columns with
  | nil => exact .inl (by simp)
  | cons b rest ih =>
      cases hb : b.strategy.check b.type with
      | error fault => exact .inr ⟨b, fault, [], rest, rfl, by simp, hb⟩
      | ok served =>
          rcases ih with hrest | ⟨c, fault, hfirst⟩
          · exact .inl (List.forall_mem_cons.mpr ⟨hb, hrest⟩)
          · exact .inr ⟨c, fault, hfirst.cons hb⟩

/-- Columns are drawn up to the first that does not pass, for which nothing is drawn. -/
theorem drawColumns_of_unserved {before after : List Column} {c : Column} {fault : StrategyFault}
    (hbefore : ∀ b ∈ before, b.strategy.check b.type = .ok ()) (hc : c.strategy.check c.type = .error fault)
    {time? : Option Instant} (htime : ∀ b ∈ before, b.type = .timestamp → ∃ t, time? = some t)
    (schemaName : String) (source : RandomSource) :
    drawColumns schemaName time? (before ++ c :: after) source =
      (.error (.schema (.mismatch schemaName (.strategy c.name fault))),
        (drawColumns schemaName time? before source).2) := by
  induction before generalizing source with
  | nil => simp only [List.nil_append, drawColumns, hc]
  | cons b rest ih =>
      have hfirst := hbefore b List.mem_cons_self
      obtain ⟨value, hdraw, -⟩ := Strategy.draw_of_check hfirst (htime b List.mem_cons_self) source
      rw [List.cons_append, drawColumns_cons hfirst hdraw, drawColumns_cons hfirst hdraw,
        ih (fun b hb => hbefore b (List.mem_cons_of_mem _ hb)) fun b hb => htime b (List.mem_cons_of_mem _ hb)]
      rfl

/-- A column wants a time, and the instant that many steps before the base does not exist. -/
def LacksTime (g : RowGenerator) (schema : Schema) (cursor : Nat) : Prop :=
  schema.HasTime ∧ ¬Instant.InRange (g.baseTime.nanos - g.distanceAt cursor * nanosPerMilli)

section Step

-- The steps of all generators are this long, whatever they were asked for.
variable {g : RowGenerator} (hstep : 1 ≤ g.stepMillis)

include hstep

theorem lacksTime_iff (schema : Schema) (cursor : Nat) :
    g.LacksTime schema cursor ↔ schema.HasTime ∧ ¬∃ t, g.timeAt cursor = .ok t := by
  rw [LacksTime, timeAt_exists_iff_exact hstep]

theorem timeAt_of_not_lacksTime {schema : Schema} {cursor : Nat} (h : ¬g.LacksTime schema cursor) :
    schema.HasTime → ∃ t, g.timeAt cursor = .ok t := by
  intro hhas
  refine Classical.byContradiction fun hnone => ?_
  exact h ((lacksTime_iff hstep schema cursor).mpr ⟨hhas, hnone⟩)

theorem rowAt_of_lacksTime {schema : Schema} {cursor : Nat} (h : g.LacksTime schema cursor)
    (source : RandomSource) : g.rowAt schema cursor source = (.error (.timestampOutOfRange cursor), source) := by
  obtain ⟨hhas, hnone⟩ := (lacksTime_iff hstep schema cursor).mp h
  exact g.rowAt_of_no_time hhas hnone source

theorem rowAt_of_firstUnserved {schema : Schema} {cursor : Nat} (h : ¬g.LacksTime schema cursor) {c : Column}
    {fault : StrategyFault} (hfirst : FirstUnserved schema.columns c fault) (source : RandomSource) :
    (g.rowAt schema cursor source).1 = .error (.schema (.mismatch schema.name (.strategy c.name fault))) := by
  have htime := timeAt_of_not_lacksTime hstep h
  have hgiven := g.toOption_timeAt htime
  obtain ⟨before, after, hcolumns, hbefore, hc⟩ := hfirst
  rw [g.rowAt_eq htime]
  rw [hcolumns] at hgiven ⊢
  rw [drawColumns_of_unserved hbefore hc fun b hb => hgiven b (List.mem_append_left _ hb)]
  rfl

theorem rowAt_of_served {schema : Schema} {cursor : Nat} (h : ¬g.LacksTime schema cursor)
    (hserved : ∀ c ∈ schema.columns, c.strategy.check c.type = .ok ()) (source : RandomSource) :
    ∃ row, (g.rowAt schema cursor source).1 = .ok row := by
  have htime := timeAt_of_not_lacksTime hstep h
  obtain ⟨values, hvalues, -⟩ := drawColumns_of_check hserved (g.toOption_timeAt htime) schema.name source
  exact ⟨⟨values⟩, by rw [g.rowAt_eq htime, hvalues]; rfl⟩

theorem rowAt_error_iff (schema : Schema) (cursor : Nat) (source : RandomSource) (e : GeneratorError) :
    (g.rowAt schema cursor source).1 = .error e ↔
      g.LacksTime schema cursor ∧ e = .timestampOutOfRange cursor ∨
        ¬g.LacksTime schema cursor ∧ ∃ c fault, FirstUnserved schema.columns c fault ∧
          e = .schema (.mismatch schema.name (.strategy c.name fault)) := by
  constructor
  · intro h
    by_cases hlacks : g.LacksTime schema cursor
    · rw [rowAt_of_lacksTime hstep hlacks] at h
      exact .inl ⟨hlacks, (Except.error.inj h).symm⟩
    refine .inr ⟨hlacks, ?_⟩
    rcases served_or_firstUnserved schema.columns with hserved | ⟨c, fault, hfirst⟩
    · obtain ⟨row, hrow⟩ := rowAt_of_served hstep hlacks hserved source
      cases h.symm.trans hrow
    · rw [rowAt_of_firstUnserved hstep hlacks hfirst] at h
      exact ⟨c, fault, hfirst, (Except.error.inj h).symm⟩
  · rintro (⟨hlacks, rfl⟩ | ⟨hgiven, c, fault, hfirst, rfl⟩)
    · rw [rowAt_of_lacksTime hstep hlacks]
    · exact rowAt_of_firstUnserved hstep hgiven hfirst source

theorem rowAt_ok_iff (schema : Schema) (cursor : Nat) (source : RandomSource) :
    (∃ row, (g.rowAt schema cursor source).1 = .ok row) ↔
      ¬g.LacksTime schema cursor ∧ ∀ c ∈ schema.columns, c.strategy.check c.type = .ok () := by
  constructor
  · rintro ⟨row, hrow⟩
    have hlacks : ¬g.LacksTime schema cursor := by
      intro hlacks
      rw [rowAt_of_lacksTime hstep hlacks] at hrow
      cases hrow
    refine ⟨hlacks, ?_⟩
    rcases served_or_firstUnserved schema.columns with hserved | ⟨c, fault, hfirst⟩
    · exact hserved
    · rw [rowAt_of_firstUnserved hstep hlacks hfirst] at hrow
      cases hrow
  · rintro ⟨hlacks, hserved⟩
    exact rowAt_of_served hstep hlacks hserved source

/-- A row fails for want of a time before a word is taken, or else at the first column that does not pass its
check, and comes out otherwise. Nothing is drawn from an empty range or at a time that is not given, and no
check overflows. -/
theorem rowAt_outcomes (schema : Schema) (cursor : Nat) (source : RandomSource) :
    (g.rowAt schema cursor source = (.error (.timestampOutOfRange cursor), source) ↔
        g.LacksTime schema cursor) ∧
      (∀ e, (g.rowAt schema cursor source).1 = .error e ↔
        g.LacksTime schema cursor ∧ e = .timestampOutOfRange cursor ∨
          ¬g.LacksTime schema cursor ∧ ∃ c fault, FirstUnserved schema.columns c fault ∧
            e = .schema (.mismatch schema.name (.strategy c.name fault))) ∧
      ((∃ row, (g.rowAt schema cursor source).1 = .ok row) ↔
        ¬g.LacksTime schema cursor ∧ ∀ c ∈ schema.columns, c.strategy.check c.type = .ok ()) ∧
      (∀ column, (g.rowAt schema cursor source).1 ≠ .error (.emptyRange column)) ∧
      (∀ name column, (g.rowAt schema cursor source).1 ≠ .error (.schema (.mismatch name (.noCursorTime column)))) ∧
      ∀ c ∈ schema.columns, c.strategy.checkWith? predInRange? c.type = some (c.strategy.check c.type) := by
  have herror := rowAt_error_iff hstep schema cursor source
  refine ⟨⟨?_, fun hlacks => rowAt_of_lacksTime hstep hlacks source⟩, herror,
    rowAt_ok_iff hstep schema cursor source, ?_, ?_, fun c _ => c.strategy.checkWith?_inRange c.type⟩
  · intro h
    rcases (herror _).mp (congrArg Prod.fst h) with ⟨hlacks, -⟩ | ⟨-, c, fault, -, hmismatch⟩
    · exact hlacks
    · cases hmismatch
  · intro column h
    rcases (herror _).mp h with ⟨-, htime⟩ | ⟨-, c, fault, -, hmismatch⟩
    · cases htime
    · cases hmismatch
  · intro name column h
    rcases (herror _).mp h with ⟨-, htime⟩ | ⟨-, c, fault, -, hmismatch⟩
    · cases htime
    · cases hmismatch

end Step

/-- A column with nothing to draw, and behind it one whose strategy does not fit. -/
def brokenSchema : Schema where
  name := "broken"
  kind := .collection
  columns := [
    { name := "at", position := 7, type := .timestamp, strategy := .cursor },
    { name := "count", position := 7, type := .integer, strategy := .uniformInt 10 0 },
    { name := "none", position := 0, type := .string, strategy := .token "t" 5 0 },
    { name := "flag", position := 0, type := .bool, strategy := .cursor }]

/-- The first fault is reported, unless the time is out of range. -/
theorem rowAt_outcomes_broken :
    let g := startingAt ⟨1700000000000000000, by decide⟩
    1 ≤ g.stepMillis ∧
      ∀ source,
        (g.rowAt brokenSchema 7 source).1 =
            .error (.schema (.mismatch "broken" (.strategy "none" (.spreadNotPositive 0)))) ∧
          g.rowAt brokenSchema 9223372036854775808 source =
            (.error (.timestampOutOfRange 9223372036854775808), source) := by
  intro g
  have hstep : 1 ≤ g.stepMillis := by decide
  refine ⟨hstep, ?_⟩
  intro source
  constructor
  · apply ((rowAt_outcomes hstep brokenSchema 7 source).2.1 _).mpr
    refine .inr ⟨fun hlacks => hlacks.2 (by decide), _, .spreadNotPositive 0,
      ⟨brokenSchema.columns.take 2, brokenSchema.columns.drop 3, rfl, by decide, by decide⟩, rfl⟩
  · apply (rowAt_outcomes hstep brokenSchema 9223372036854775808 source).1.mpr
    exact ⟨⟨_, List.mem_cons_self, rfl⟩, by decide⟩

end SampleLoad.RowGenerator
