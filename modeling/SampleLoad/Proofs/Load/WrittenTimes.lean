import SampleLoad.Proofs.Generate.ExactTimes
import SampleLoad.Proofs.Load.DryRun
import SampleLoad.Proofs.Schema.WellFormed
import SampleLoad.Proofs.Time.CellText

/-!
The times that a run writes. A generator starts at a whole millisecond and steps by whole milliseconds, so nothing
of a time is below what a cell can hold: the cell of a row in a timestamp column reads back as the time of the row's
cursor, and different rows have different cells there. Main statement: `Pipeline.written_times_read_back`.
-/

namespace SampleLoad

/-- A cursor is one place of one batch. -/
theorem place_unique {size number number' place place' : Nat} (hplace : place < size) (hplace' : place' < size)
    (h : number * size + place = number' * size + place') : number = number' ∧ place = place' := by
  have hsize : 0 < size := Nat.zero_lt_of_lt hplace
  have hnumber := congrArg (· / size) h
  have hrest := congrArg (· % size) h
  simp only [Nat.mul_comm _ size, Nat.mul_add_div hsize, Nat.div_eq_of_lt hplace, Nat.div_eq_of_lt hplace',
    Nat.mul_add_mod, Nat.mod_eq_of_lt hplace, Nat.mod_eq_of_lt hplace'] at hnumber hrest
  exact ⟨hnumber, hrest⟩

namespace RowGenerator

/-- All times of a generator are whole milliseconds, however it was made. -/
theorem timeAt_aligned {base : Instant} {stepNanos : Int} {cursor : Nat} {t : Instant}
    (h : ((startingAt base).withStep stepNanos).timeAt cursor = .ok t) : t.MilliAligned := by
  rw [timeAt_eq_ok_iff_exact (stepMillis_withStep_pos _ stepNanos), baseTime_sub_distanceAt, exactNanos] at h
  rw [Instant.MilliAligned, h]
  exact Int.mul_emod_left _ _

theorem cursor_unique {g : RowGenerator} (hstep : 1 ≤ g.stepMillis) {cursor other : Nat} {t : Instant}
    (h : g.timeAt cursor = .ok t) (hother : g.timeAt other = .ok t) : cursor = other := by
  rw [timeAt_eq_ok_iff_exact hstep] at h hother
  simp only [nanosPerMilli] at h hother
  rcases Nat.lt_trichotomy cursor other with hlt | heq | hgt
  · have hdistance := distanceAt_lt hstep hlt
    omega
  · exact heq
  · have hdistance := distanceAt_lt hstep hgt
    omega

end RowGenerator

namespace Pipeline

variable (p : Pipeline) (answers : Answers) (container : String) (schema : Schema) (rowCount : Nat)

/-- What a run writes are batches of its plan. -/
theorem plan_of_writes {number : Nat} {batch : Batch}
    (h : (Exchange.writes (p.runOver answers container schema rowCount).2)[number]? = some batch) :
    schema.validate = .ok () ∧
      ∃ rows, (p.plan schema rowCount).batches[number]? = some rows ∧ batch = .single container rows.toArray := by
  cases hvalid : schema.validate with
  | error e =>
      have hload : (p.load answers.store container schema rowCount).run [] = (.error (.schema e), []) := by
        rw [p.load_invalid answers.store container hvalid]
        rfl
      rw [p.runOver_eq answers container schema rowCount hload] at h
      cases h
  | ok valid =>
      obtain ⟨loading, reported, hload, -, hperformed⟩ := p.load_run answers container schema rowCount hvalid
      rw [p.runOver_eq answers container schema rowCount hload, Exchange.writes_append] at h
      have hprefix := p.writes_prefix answers container schema rowCount hperformed
      have hwritten : Exchange.writes loading ++ Exchange.writes [⟨.close, answers loading .close⟩] =
          Exchange.writes loading := List.append_nil _
      rw [hwritten] at h
      obtain ⟨hnumber, rfl⟩ := List.getElem?_eq_some_iff.mp h
      have hplanned := List.prefix_iff_getElem?.mp hprefix number hnumber
      rw [List.getElem?_map, Option.map_eq_some_iff] at hplanned
      obtain ⟨rows, hrows, hbatch⟩ := hplanned
      exact ⟨rfl, rows, hrows, hbatch.symm⟩

/-- The cell that a run writes for a row, which is given by the number of its batch and its place in it, in one
column: the body of the batch has an array for the row, and that has the cell. -/
def WrittenCell (number place column : Nat) (cell : Json) : Prop :=
  ∃ batch rows arrays cs, (Exchange.writes (p.runOver answers container schema rowCount).2)[number]? = some batch ∧
    batch.rowsFor? container = some rows ∧ WebApi.rowsBody rows = .ok (.arr arrays) ∧
    arrays[place]? = some (.arr cs) ∧ cs[column]? = some cell

variable {p answers container schema rowCount} in
/-- A written cell is that of a row, and the row is that of a cursor. -/
theorem WrittenCell.rowAt {number place column : Nat} {cell : Json}
    (h : p.WrittenCell answers container schema rowCount number place column cell) :
    schema.validate = .ok () ∧ place < p.capacity.rows ∧
      ∃ row source value, (p.generator.rowAt schema (number * p.capacity.rows + place) source).1 = .ok row ∧
        row.values[column]? = some value ∧ WebApi.cell value = .ok cell := by
  obtain ⟨batch, rows, arrays, cs, hbatch, hrows, hbody, harray, hcell⟩ := h
  obtain ⟨hvalid, planned, hplanned, rfl⟩ := p.plan_of_writes answers container schema rowCount hbatch
  rw [Batch.rowsFor?_single] at hrows
  cases hrows
  obtain ⟨_, harrays, hforall⟩ := WebApi.rowsBody_eq_ok_iff.mp hbody
  cases harrays
  obtain ⟨row, hrow, _, hcs, hcells⟩ := getElem?_of_forall₂ hforall harray
  cases hcs
  obtain ⟨value, hvalue, hvalueCell⟩ := getElem?_of_forall₂ hcells hcell
  obtain ⟨hplace, hitem⟩ := p.plan_getElem? schema rowCount hplanned hrow
  refine ⟨hvalid, hplace, row, ?_⟩
  have hcursor : number * p.capacity.rows + place < rowCount := by
    rw [← p.items_length schema rowCount]
    exact (List.getElem?_eq_some_iff.mp hitem).1
  obtain ⟨source, hrowAt⟩ := p.generator.getElem?_itemsFrom schema hcursor 0 p.source
  rw [items_eq, hrowAt, Nat.zero_add] at hitem
  exact ⟨source, value, Option.some.inj hitem, hvalue, hvalueCell⟩

variable {p answers container schema rowCount} in
theorem WrittenCell.time {number place column : Nat} {cell : Json}
    (h : p.WrittenCell answers container schema rowCount number place column cell) {c : Column}
    (hc : schema.columns[column]? = some c) (htype : c.type = .timestamp) :
    ∃ t, cell = .str t.cellText ∧ p.generator.timeAt (number * p.capacity.rows + place) = .ok t := by
  obtain ⟨hvalid, -, row, source, value, hrow, hvalue, hcell⟩ := h.rowAt
  obtain ⟨t, htimestamp, htime⟩ := p.generator.rowAt_timestamp hvalid hrow hc htype
  cases hvalue.symm.trans htimestamp
  cases hcell
  exact ⟨t, rfl, htime⟩

theorem writtenCell_exists {number : Nat} {batch : Batch}
    (h : (Exchange.writes (p.runOver answers container schema rowCount).2)[number]? = some batch) :
    ∃ rows, batch.rowsFor? container = some rows ∧ ∀ place < rows.size, ∀ column < schema.width,
      ∃ cell, p.WrittenCell answers container schema rowCount number place column cell := by
  obtain ⟨hvalid, planned, hplanned, rfl⟩ := p.plan_of_writes answers container schema rowCount h
  have hmem := List.mem_of_getElem? hplanned
  obtain ⟨body, hbody⟩ := WebApi.rowsBody_of_hasCells (p.plan_hasCells schema rowCount hvalid hmem)
  obtain ⟨arrays, rfl, hforall⟩ := WebApi.rowsBody_eq_ok_iff.mp hbody
  refine ⟨planned.toArray, Batch.rowsFor?_single _ _, fun place hplace column hcolumn => ?_⟩
  rw [List.size_toArray] at hplace
  have hwidth := p.plan_width schema rowCount hmem (List.getElem_mem hplace)
  obtain ⟨array, harray, cs, rfl, hcells⟩ := forall₂_getElem? hforall (List.getElem?_eq_getElem hplace)
  obtain ⟨cell, hcell, -⟩ := forall₂_getElem? hcells (List.getElem?_eq_getElem (hwidth ▸ hcolumn))
  exact ⟨cell, _, _, arrays, cs, h, Batch.rowsFor?_single _ _, hbody, harray, hcell⟩

/-- The times of a run are written without loss. The text of any instant reads back as that instant, cut to whole
milliseconds, and whole milliseconds have different texts. Whatever the store answers, every row that is written has
a cell in every column; that of a timestamp column reads back as the time of the row's cursor, and two rows never
have the same there. The key of a time series is such a column. -/
theorem written_times_read_back (capacity : Capacity) (base : Instant) (stepNanos : Int) (source : RandomSource) :
    let p : Pipeline := ⟨capacity, (RowGenerator.startingAt base).withStep stepNanos, source⟩
    (∀ t : Instant, CellText.read? t.cellText = some t.floorMilli) ∧
      (∀ t other : Instant, t.MilliAligned → other.MilliAligned → t.cellText = other.cellText → t = other) ∧
      (∀ number batch, (Exchange.writes (p.runOver answers container schema rowCount).2)[number]? = some batch →
        ∃ rows, batch.rowsFor? container = some rows ∧ ∀ place < rows.size, ∀ column < schema.width,
          ∃ cell, p.WrittenCell answers container schema rowCount number place column cell) ∧
      (∀ number place column cell c, p.WrittenCell answers container schema rowCount number place column cell →
        schema.columns[column]? = some c → c.type = .timestamp →
        ∃ t text, cell = .str text ∧ p.generator.timeAt (number * capacity.rows + place) = .ok t ∧
          CellText.read? text = some t) ∧
      (∀ number place number' place' column column' cell c c',
        p.WrittenCell answers container schema rowCount number place column cell →
        p.WrittenCell answers container schema rowCount number' place' column' cell →
        schema.columns[column]? = some c → c.type = .timestamp → schema.columns[column']? = some c' →
        c'.type = .timestamp → number = number' ∧ place = place') ∧
      (schema.validate = .ok () → schema.kind = .timeSeries →
        ∃ key, schema.columns[0]? = some key ∧ key.isKey = true ∧ key.type = .timestamp) := by
  intro p
  refine ⟨CellText.read?_cellText, fun t other => CellText.cellText_injective, fun number batch =>
    p.writtenCell_exists answers container schema rowCount, ?_, ?_, Schema.key_of_timeSeries⟩
  · intro number place column cell c hcell hc htype
    obtain ⟨t, rfl, htime⟩ := hcell.time hc htype
    refine ⟨t, _, rfl, htime, ?_⟩
    rw [CellText.read?_cellText, CellText.floorMilli_of_aligned (RowGenerator.timeAt_aligned htime)]
  · intro number place number' place' column column' cell c c' hcell hcell' hc htype hc' htype'
    obtain ⟨t, rfl, htime⟩ := hcell.time hc htype
    obtain ⟨t', htext, htime'⟩ := hcell'.time hc' htype'
    have hsame : t = t' := CellText.cellText_injective (RowGenerator.timeAt_aligned htime)
      (RowGenerator.timeAt_aligned htime') (Json.str.inj htext)
    have hcursor := RowGenerator.cursor_unique (RowGenerator.stepMillis_withStep_pos _ stepNanos) htime
      (hsame ▸ htime')
    obtain ⟨-, hplace, -⟩ := hcell.rowAt
    obtain ⟨-, hplace', -⟩ := hcell'.rowAt
    exact place_unique hplace hplace' hcursor

/-- The last row of one batch and the first of the next. -/
theorem written_times_read_back_three :
    ∃ first second t text,
      inPairs.WrittenCell .obliging "t" Builtin.oneThousandRows.schema 3 0 1 0 first ∧
      inPairs.WrittenCell .obliging "t" Builtin.oneThousandRows.schema 3 1 0 0 second ∧
      first ≠ second ∧ second = .str text ∧ inPairs.generator.timeAt 2 = .ok t ∧ CellText.read? text = some t := by
  obtain ⟨-, -, hcells, htimes, hdistinct, -⟩ := written_times_read_back .obliging "t" Builtin.oneThousandRows.schema 3
    { rows := 2 } ⟨1700000000000000000, by decide⟩ 1000000000 (.ofWords [7, 2147483648])
  obtain ⟨rows, hrows, hfirst⟩ := hcells 0 _ rfl
  obtain ⟨rows', hrows', hsecond⟩ := hcells 1 _ rfl
  cases hrows
  cases hrows'
  obtain ⟨first, hfirst⟩ := hfirst 1 (by decide) 0 (by decide)
  obtain ⟨second, hsecond⟩ := hsecond 0 (by decide) 0 (by decide)
  obtain ⟨t, text, htext, htime, hread⟩ := htimes 1 0 0 second _ hsecond rfl rfl
  refine ⟨first, second, t, text, hfirst, hsecond, ?_, htext, htime, hread⟩
  rintro rfl
  exact absurd (hdistinct 0 1 1 0 0 0 first _ _ hfirst hsecond rfl rfl rfl rfl).1 (by decide)

end Pipeline

end SampleLoad
