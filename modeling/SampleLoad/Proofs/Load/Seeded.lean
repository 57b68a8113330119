import SampleLoad.Proofs.Generate.Independence
import SampleLoad.Proofs.Load.Generation

/-!
Runs with one seed. What a run writes are rows of its generator from the first on, and a seed settles the source, so
that runs with the same seed write the same data but for their times, however far apart they start and wherever they
are cut off. Main statement: `Pipeline.values_and_times_independent`.
-/

namespace SampleLoad.Pipeline

/-! ### Written rows -/

section Written

variable (p : Pipeline) (answers : Answers) (container : String) (schema : Schema) (rowCount : Nat)

def writtenRows : List Row :=
  (Exchange.writes (p.runOver answers container schema rowCount).2).flatMap (·.rowsOf container)

theorem rowsOf_batches (batches : List (List Row)) :
    (batches.map fun batch => Batch.single container batch.toArray).flatMap (·.rowsOf container) =
      batches.flatten := by
  induction batches with
  | nil => rfl
  | cons batch batches ih =>
      rw [List.map_cons, List.flatMap_cons, ih, Batch.rowsOf_single, if_pos rfl, List.flatten_cons]

variable {schema} (hvalid : schema.validate = .ok ())

include hvalid

/-- Written rows are the first of those generated. -/
theorem writtenRows_isPrefix : p.writtenRows answers container schema rowCount <+: p.rows schema rowCount := by
  obtain ⟨loading, reported, hload, -, hperformed⟩ := p.load_run answers container schema rowCount hvalid
  have hwrites : Exchange.writes (p.runOver answers container schema rowCount).2 = Exchange.writes loading := by
    rw [p.runOver_eq answers container schema rowCount hload, Exchange.writes_append]
    exact List.append_nil _
  obtain ⟨later, hlater⟩ := p.writes_prefix answers container schema rowCount hperformed
  have hrows := congrArg (List.flatMap (·.rowsOf container)) hlater
  rw [List.flatMap_append, rowsOf_batches, ← hwrites] at hrows
  exact List.IsPrefix.trans ⟨_, hrows⟩ (p.plan_flatten_isPrefix schema rowCount)

/-- A store that refuses nothing is given a row for every cursor. -/
theorem writtenRows_length (htimes : p.generator.HasTimes schema rowCount)
    (hanswers : ∀ history call, ∃ answer, answers history call = .ok answer) :
    (p.writtenRows answers container schema rowCount).length = rowCount := by
  obtain ⟨loading, reported, hload, hgave, hperformed⟩ := p.load_run answers container schema rowCount hvalid
  have hscript := hperformed.cutShort.complete (Answers.not_failed_of_gave hanswers hgave)
  have hwrites : Exchange.writes (p.runOver answers container schema rowCount).2 =
      (p.plan schema rowCount).batches.map fun batch => .single container batch.toArray := by
    rw [p.runOver_eq answers container schema rowCount hload, Exchange.writes_append, Exchange.writes_eq loading,
      hscript, steps_writes]
    exact List.append_nil _
  have hnone : (p.plan schema rowCount).fault? = none := by
    refine (p.plan_complete_iff rowCount hvalid).mpr ?_
    by_cases hzero : rowCount = 0
    · exact .inl hzero
    · by_cases hhas : schema.HasTime
      · exact .inr (.inr (htimes hhas (rowCount - 1) (by omega)))
      · exact .inr (.inl hhas)
  rw [writtenRows, hwrites, rowsOf_batches, p.plan_complete_flatten schema rowCount hnone]
  exact rows_length_of_complete hnone

/-- A row shows that the cursors up to its own have times. -/
theorem hasTimes_of_row {index : Nat} {row : Row} (h : (p.rows schema rowCount)[index]? = some row) :
    p.generator.HasTimes schema (index + 1) := by
  intro hhas cursor hcursor
  have hitem := p.item_of_row schema rowCount h
  have hindex : index < rowCount := by
    rw [← p.items_length schema rowCount]
    exact (List.getElem?_eq_some_iff.mp hitem).1
  obtain ⟨before, hbefore⟩ := p.generator.getElem?_itemsFrom schema hindex 0 p.source
  rw [items_eq, hbefore, Option.some.injEq] at hitem
  obtain ⟨t, ht⟩ := p.generator.timeAt_of_rowAt hvalid hitem hhas
  exact RowGenerator.timeAt_of_le (by omega) ⟨t, ht⟩

/-- The rows at one place of two runs that start from one source. How many rows each run is to make, and whether all
of them have times, does not matter. -/
theorem rows_agree {p q : Pipeline} (hsource : p.source = q.source) {rowCount rowCount' index : Nat} {row row' : Row}
    (hrow : (p.rows schema rowCount)[index]? = some row) (hrow' : (q.rows schema rowCount')[index]? = some row') :
    row.AgreeOn schema (· ≠ .timestamp) row' := by
  have hfirst {p : Pipeline} {rowCount : Nat} {row : Row} {rows : List Row}
      (hrow : (p.rows schema rowCount)[index]? = some row)
      (hrows : p.generator.itemsFrom schema (index + 1) 0 p.source = rows.map .ok) : rows[index]? = some row := by
    have hitem := p.item_of_row schema rowCount hrow
    have hindex : index + 1 ≤ rowCount := by
      rw [← p.items_length schema rowCount]
      exact (List.getElem?_eq_some_iff.mp hitem).1
    rw [← List.getElem?_take_of_lt (Nat.lt_succ_self index), p.items_prefix schema hindex, items_eq, hrows,
      List.getElem?_map, Option.map_eq_some_iff] at hitem
    obtain ⟨first, hfirst, heq⟩ := hitem
    cases heq
    exact hfirst
  obtain ⟨rows, others, hitems, hitems', hforall, -⟩ := p.generator.itemsFrom_two_generators q.generator hvalid
    (p.hasTimes_of_row rowCount hvalid hrow) (q.hasTimes_of_row rowCount' hvalid hrow')
    (Nat.le_of_eq (Nat.zero_add (index + 1))) p.source
  rw [hsource] at hitems'
  obtain ⟨hplace, rfl⟩ := List.getElem?_eq_some_iff.mp (hfirst hrow hitems)
  obtain ⟨hplace', rfl⟩ := List.getElem?_eq_some_iff.mp (hfirst hrow' hitems')
  exact hforall.get hplace hplace'

end Written

/-! ### Seeded runs -/

theorem source_of_seed (p : Pipeline) {options : CommonOptions} {seed : UInt64} (hseed : options.seed? = some seed) :
    (p.withOptions options).source = .ofSeed seed := by
  rw [withOptions, hseed]
  rfl

/-- The rows at one place of what two runs with one seed write, whatever their stores answer. -/
theorem seeded_rows_agree {schema : Schema} (hvalid : schema.validate = .ok ()) {seed : UInt64}
    {options options' : CommonOptions} (hseed : options.seed? = some seed) (hseed' : options'.seed? = some seed)
    (p q : Pipeline) (answers answers' : Answers) (container container' : String) {rowCount rowCount' index : Nat}
    {row row' : Row}
    (hrow : ((p.withOptions options).writtenRows answers container schema rowCount)[index]? = some row)
    (hrow' : ((q.withOptions options').writtenRows answers' container' schema rowCount')[index]? = some row') :
    row.AgreeOn schema (· ≠ .timestamp) row' := by
  have hsource : (p.withOptions options).source = (q.withOptions options').source := by
    rw [source_of_seed p hseed, source_of_seed q hseed']
  obtain ⟨hplace, rfl⟩ := List.getElem?_eq_some_iff.mp hrow
  obtain ⟨hplace', rfl⟩ := List.getElem?_eq_some_iff.mp hrow'
  exact rows_agree hvalid hsource
    (List.prefix_iff_getElem?.mp (writtenRows_isPrefix _ answers container rowCount hvalid) index hplace)
    (List.prefix_iff_getElem?.mp (writtenRows_isPrefix _ answers' container' rowCount' hvalid) index hplace')

/-- Drawn values do not depend on times, nor times on what is drawn. Two generators that start from one source make
rows that differ in timestamp columns only and leave the source alike. One generator puts the same times into its
rows, or lacks them at the same cursors, whatever source it starts from. So runs with one seed that start at
different times write the same data but for their times, whatever their stores answer, and all of it where nothing
is refused. -/
theorem values_and_times_independent {schema : Schema} (hvalid : schema.validate = .ok ()) :
    (∀ (g other : RowGenerator) (count : Nat) (source : RandomSource),
      g.HasTimes schema count → other.HasTimes schema count →
      ∃ rows others,
        (RowSequence.take count { generator := g, schema, count } source).1 = rows.map .ok ∧
        (RowSequence.take count { generator := other, schema, count } source).1 = others.map .ok ∧
        rows.length = count ∧ List.Forall₂ (Row.AgreeOn schema (· ≠ .timestamp)) rows others ∧
        (RowSequence.take count { generator := g, schema, count } source).2.2 =
          (RowSequence.take count { generator := other, schema, count } source).2.2) ∧
      (∀ (g : RowGenerator) (count : Nat) (source source' : RandomSource),
        List.Forall₂ (RelatedItems (Row.AgreeOn schema (· = .timestamp)))
          (RowSequence.take count { generator := g, schema, count } source).1
          (RowSequence.take count { generator := g, schema, count } source').1) ∧
      ∀ (seed : UInt64) (options options' : CommonOptions),
        options.seed? = some seed → options'.seed? = some seed →
        ∀ (now later : Instant) (fresh fresh' : RandomSource) (answers answers' : Answers) (container : String)
          (rowCount : Nat),
          let p := (new now fresh).withOptions options
          let q := (new later fresh').withOptions options'
          (∀ (index : Nat) (row row' : Row), (p.writtenRows answers container schema rowCount)[index]? = some row →
            (q.writtenRows answers' container schema rowCount)[index]? = some row' →
            row.AgreeOn schema (· ≠ .timestamp) row') ∧
          (p.generator.HasTimes schema rowCount → (∀ history call, ∃ answer, answers history call = .ok answer) →
            (p.writtenRows answers container schema rowCount).length = rowCount) := by
  refine ⟨?_, ?_, ?_⟩
  · intro g other count source htimes hothers
    rw [g.take_all, other.take_all]
    obtain ⟨rows, others, hitems, hitems', hforall, hafter⟩ :=
      g.itemsFrom_two_generators other hvalid htimes hothers (Nat.le_of_eq (Nat.zero_add count)) source
    have hlength := congrArg List.length hitems
    rw [RowGenerator.itemsFrom_length, List.length_map] at hlength
    exact ⟨rows, others, hitems, hitems', hlength.symm, hforall, hafter⟩
  · intro g count source source'
    rw [g.take_all, g.take_all]
    exact g.itemsFrom_two_sources hvalid count 0 source source'
  · intro seed options options' hseed hseed' now later fresh fresh' answers answers' container rowCount p q
    refine ⟨fun index row row' hrow hrow' => ?_, p.writtenRows_length answers container rowCount hvalid⟩
    exact seeded_rows_agree hvalid hseed hseed' (new now fresh) (new later fresh') answers answers' container container
      hrow hrow'

/-- Columns of most types, today by the second and at the start of the epoch by the minute. -/
theorem values_and_times_independent_limits :
    let schema := RowGenerator.limitSchema
    let now : Instant := ⟨1700000000000000000, by decide⟩
    let g := RowGenerator.startingAt now
    let other := (RowGenerator.startingAt ⟨0, by decide⟩).withStep 60000000000
    let p := (new now (.ofWords [])).withOptions { seed? := some 42 }
    let q := (new ⟨0, by decide⟩ (.ofWords [7])).withOptions { seed? := some 42, decreaseUnitMillis := 60000 }
    schema.validate = .ok () ∧ g.HasTimes schema 3 ∧ other.HasTimes schema 3 ∧
      (∃ rows others,
        (RowSequence.take 3 { generator := g, schema, count := 3 } (.ofSeed 42)).1 = rows.map .ok ∧
        (RowSequence.take 3 { generator := other, schema, count := 3 } (.ofSeed 42)).1 = others.map .ok ∧
        rows.length = 3 ∧ List.Forall₂ (Row.AgreeOn schema (· ≠ .timestamp)) rows others) ∧
      List.Forall₂ (RelatedItems (Row.AgreeOn schema (· = .timestamp)))
        (RowSequence.take 3 { generator := g, schema, count := 3 } (.ofSeed 42)).1
        (RowSequence.take 3 { generator := g, schema, count := 3 } (.ofWords [7])).1 ∧
      (p.writtenRows .obliging "t" schema 3).length = 3 ∧ (q.writtenRows .obliging "t" schema 3).length = 3 ∧
      ∀ (index : Nat) (row row' : Row), (p.writtenRows .obliging "t" schema 3)[index]? = some row →
        (q.writtenRows .obliging "t" schema 3)[index]? = some row' → row.AgreeOn schema (· ≠ .timestamp) row' := by
  intro schema now g other p q
  have hvalid : schema.validate = .ok () := by decide
  have hg : g.HasTimes schema 3 := fun _ cursor hcursor =>
    RowGenerator.timeAt_of_le (by omega : cursor ≤ 2) ((g.timeAt_exists_iff 2).mpr (by decide))
  have hother : other.HasTimes schema 3 := fun _ cursor hcursor =>
    RowGenerator.timeAt_of_le (by omega : cursor ≤ 2) ((other.timeAt_exists_iff 2).mpr (by decide))
  have hp : p.generator = g := by decide
  have hq : q.generator = other := by decide
  obtain ⟨hrows, htimes, hseeded⟩ := values_and_times_independent hvalid
  obtain ⟨rows, others, hitems, hitems', hlength, hforall, -⟩ := hrows g other 3 (.ofSeed 42) hg hother
  obtain ⟨hagree, hwritten⟩ := hseeded 42 { seed? := some 42 } { seed? := some 42, decreaseUnitMillis := 60000 } rfl rfl
    now ⟨0, by decide⟩ (.ofWords []) (.ofWords [7]) .obliging .obliging "t" 3
  obtain ⟨-, hwritten'⟩ := hseeded 42 { seed? := some 42, decreaseUnitMillis := 60000 } { seed? := some 42 } rfl rfl
    ⟨0, by decide⟩ now (.ofWords [7]) (.ofWords []) .obliging .obliging "t" 3
  exact ⟨hvalid, hg, hother, ⟨rows, others, hitems, hitems', hlength, hforall⟩,
    htimes g 3 (.ofSeed 42) (.ofWords [7]), hwritten (hp ▸ hg) Answers.obliging_ok,
    hwritten' (hq ▸ hother) Answers.obliging_ok, hagree⟩

end SampleLoad.Pipeline
