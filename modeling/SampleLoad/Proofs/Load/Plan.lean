import SampleLoad.Load.Pipeline
import SampleLoad.Proofs.Generate.Items

/-!
What a run is to write, settled without its store. Rows fill batches of the capacity; what is left over is
the last batch, be it empty, unless an item that is no row ends the run before. The number and the sizes of
the batches follow from the number of rows, and together they hold the rows in order.
-/

namespace SampleLoad

/-! ### Filling batches -/

/-- The full batches that rows make behind those that are pending, and the rows left over. -/
def fill (capacity : Nat) : (pending rows : List Row) → List (List Row) × List Row
  | pending, [] => ([], pending)
  | pending, row :: rows =>
    if pending.length + 1 = capacity then
      ((pending ++ [row]) :: (fill capacity [] rows).1, (fill capacity [] rows).2)
    else fill capacity (pending ++ [row]) rows

/-- No row is lost, doubled or moved. -/
theorem fill_joined (capacity : Nat) (pending rows : List Row) :
    (fill capacity pending rows).1.flatten ++ (fill capacity pending rows).2 = pending ++ rows := by
  induction rows generalizing pending with
  | nil => rw [fill, List.flatten_nil, List.nil_append, List.append_nil]
  | cons row rows ih =>
      rw [fill]
      split
      · rw [List.flatten_cons, List.append_assoc, ih, List.nil_append, List.append_assoc,
          List.singleton_append]
      · rw [ih, List.append_assoc, List.singleton_append]

theorem length_of_mem_fill {capacity : Nat} {pending rows batch : List Row}
    (h : batch ∈ (fill capacity pending rows).1) : batch.length = capacity := by
  induction rows generalizing pending with
  | nil => cases h
  | cons row rows ih =>
      rw [fill] at h
      split at h
      · rename_i hfull
        rcases List.mem_cons.mp h with rfl | htail
        · rw [List.length_append, List.length_singleton, hfull]
        · exact ih htail
      · exact ih h

theorem fill_left_lt {capacity : Nat} {pending : List Row} (hpending : pending.length < capacity)
    (rows : List Row) : (fill capacity pending rows).2.length < capacity := by
  induction rows generalizing pending with
  | nil => exact hpending
  | cons row rows ih =>
      rw [fill]
      split
      · exact ih (Nat.zero_lt_of_lt hpending)
      · refine ih ?_
        rw [List.length_append, List.length_singleton]
        omega

section EqualLengths

variable {batches : List (List Row)} {size : Nat}

theorem length_flatten_of_length (h : ∀ batch ∈ batches, batch.length = size) :
    batches.flatten.length = batches.length * size := by
  induction batches with
  | nil => rw [List.flatten_nil, List.length_nil, List.length_nil, Nat.zero_mul]
  | cons batch batches ih =>
      rw [List.flatten_cons, List.length_append, h batch List.mem_cons_self,
        ih fun b hb => h b (List.mem_cons_of_mem _ hb), List.length_cons, Nat.succ_mul, Nat.add_comm]

/-- The first batches of one size hold the first rows. -/
theorem take_flatten_of_length (h : ∀ batch ∈ batches, batch.length = size) (left : List Row) {count : Nat}
    (hcount : count ≤ batches.length) :
    (batches.flatten ++ left).take (count * size) = (batches.take count).flatten := by
  have hfirst : (batches.take count).flatten.length = count * size := by
    rw [length_flatten_of_length fun b hb => h b (List.mem_of_mem_take hb), List.length_take,
      Nat.min_eq_left hcount]
  have hsplit : batches.flatten = (batches.take count).flatten ++ (batches.drop count).flatten := by
    rw [← List.flatten_append, List.take_append_drop]
  rw [hsplit, List.append_assoc, ← hfirst, List.take_left]

/-- A row of a batch by its place among all rows. -/
theorem getElem?_flatten_of_length (h : ∀ batch ∈ batches, batch.length = size) (left : List Row)
    {number place : Nat} {batch : List Row} {row : Row} (hbatch : (batches ++ [left])[number]? = some batch)
    (hrow : batch[place]? = some row) : (batches.flatten ++ left)[number * size + place]? = some row := by
  induction batches generalizing number with
  | nil =>
      cases number with
      | zero =>
          cases hbatch
          rw [Nat.zero_mul, Nat.zero_add]
          exact hrow
      | succ number => cases hbatch
  | cons first batches ih =>
      rw [List.flatten_cons, List.append_assoc]
      cases number with
      | zero =>
          cases hbatch
          rw [Nat.zero_mul, Nat.zero_add, List.getElem?_append_left (List.getElem?_eq_some_iff.mp hrow).1]
          exact hrow
      | succ number =>
          rw [Nat.succ_mul, Nat.add_right_comm, ← h first List.mem_cons_self, List.getElem?_append_right (by omega),
            Nat.add_sub_cancel, h first List.mem_cons_self]
          exact ih (fun b hb => h b (List.mem_cons_of_mem _ hb)) hbatch

end EqualLengths

theorem fill_length (capacity : Capacity) (rows : List Row) :
    (fill capacity.rows [] rows).1.length = rows.length / capacity.rows ∧
      (fill capacity.rows [] rows).2.length = rows.length % capacity.rows := by
  have hjoined := congrArg List.length (fill_joined capacity.rows [] rows)
  rw [List.length_append, length_flatten_of_length fun _ hb => length_of_mem_fill hb, List.nil_append] at hjoined
  have hleft : (fill capacity.rows [] rows).2.length < capacity.rows := fill_left_lt capacity.positive rows
  rw [← hjoined, Nat.add_comm, Nat.add_mul_div_right _ _ capacity.positive, Nat.add_mul_mod_self_right,
    Nat.div_eq_of_lt hleft, Nat.mod_eq_of_lt hleft, Nat.zero_add]
  exact ⟨rfl, rfl⟩

/-! ### Plans -/

/-- The batches that a run is to write in order, and the error that then ends it, if there is one. -/
structure LoadPlan where
  batches : List (List Row)
  fault? : Option GeneratorError

namespace LoadPlan

/-- The plan for items to come behind rows that are pending. -/
def ofItems (capacity : Nat) (pending : List Row) (items : List (Except GeneratorError Row)) : LoadPlan where
  batches :=
    (fill capacity pending (upToError items).1).1 ++
      match (upToError items).2 with
      | none => [(fill capacity pending (upToError items).1).2]
      | some _ => []
  fault? := (upToError items).2

/-- How a run ends that has written all batches; `before` counts what it wrote earlier. -/
def outcome (plan : LoadPlan) (before : Metrics) : Except LoadError Metrics :=
  match plan.fault? with
  | none => .ok ⟨before.rowsWritten + plan.batches.flatten.length, before.batchCount + plan.batches.length⟩
  | some e => .error (.generator e)

end LoadPlan

namespace Pipeline

/-- A run of two rows at a time whose source goes round two words. -/
def inPairs : Pipeline :=
  ⟨{ rows := 2 }, .startingAt ⟨1700000000000000000, by decide⟩, .ofWords [7, 2147483648]⟩

def items (p : Pipeline) (schema : Schema) (rowCount : Nat) : List (Except GeneratorError Row) :=
  (RowSequence.take rowCount { generator := p.generator, schema, count := rowCount } p.source).1

theorem items_eq (p : Pipeline) (schema : Schema) (rowCount : Nat) :
    p.items schema rowCount = p.generator.itemsFrom schema rowCount 0 p.source := by
  rw [items, p.generator.take_all]

theorem items_length (p : Pipeline) (schema : Schema) (rowCount : Nat) :
    (p.items schema rowCount).length = rowCount := by
  rw [items_eq, RowGenerator.itemsFrom_length]

/-- Fewer items are the first of more. -/
theorem items_prefix (p : Pipeline) (schema : Schema) {rowCount total : Nat} (htotal : rowCount ≤ total) :
    (p.items schema total).take rowCount = p.items schema rowCount := by
  rw [items_eq, items_eq, RowGenerator.take_itemsFrom _ _ htotal]

def rows (p : Pipeline) (schema : Schema) (rowCount : Nat) : List Row := (upToError (p.items schema rowCount)).1

theorem rows_width {p : Pipeline} {schema : Schema} {rowCount : Nat} {row : Row}
    (h : row ∈ p.rows schema rowCount) : row.width = schema.width := by
  have hitem : .ok row ∈ p.items schema rowCount := mem_of_mem_upToError h
  rw [items_eq] at hitem
  exact RowGenerator.itemsFrom_width hitem

theorem rows_length_le (p : Pipeline) (schema : Schema) (rowCount : Nat) :
    (p.rows schema rowCount).length ≤ rowCount := by
  have hprefix := congrArg List.length (eq_of_upToError (p.items schema rowCount)).1
  rw [List.length_take, List.length_map, items_length] at hprefix
  exact hprefix ▸ Nat.min_le_right _ _

/-- Without an error there is a row for every cursor. -/
theorem rows_length_of_complete {p : Pipeline} {schema : Schema} {rowCount : Nat}
    (hnone : (upToError (p.items schema rowCount)).2 = none) : (p.rows schema rowCount).length = rowCount := by
  have hend := (eq_of_upToError (p.items schema rowCount)).2
  rw [hnone, Option.map_none, List.getElem?_eq_none_iff, items_length] at hend
  exact Nat.le_antisymm (p.rows_length_le schema rowCount) hend

/-- The first items are the rows before an error. -/
theorem items_take (p : Pipeline) (schema : Schema) (rowCount : Nat) {count : Nat}
    (hcount : count ≤ (p.rows schema rowCount).length) :
    (p.items schema rowCount).take count = ((p.rows schema rowCount).take count).map .ok := by
  rw [rows] at hcount ⊢
  rw [List.map_take, ← (eq_of_upToError (p.items schema rowCount)).1, List.take_take,
    Nat.min_eq_left hcount]

def plan (p : Pipeline) (schema : Schema) (rowCount : Nat) : LoadPlan :=
  .ofItems p.capacity.rows [] (p.items schema rowCount)

variable (p : Pipeline) (schema : Schema) (rowCount : Nat)

theorem plan_fault? : (p.plan schema rowCount).fault? = (upToError (p.items schema rowCount)).2 := rfl

/-- The first batches hold the first rows, as long as they are full. -/
theorem plan_take {count : Nat} (hcount : count ≤ (p.rows schema rowCount).length / p.capacity.rows) :
    ((p.plan schema rowCount).batches.take count).flatten =
      (p.rows schema rowCount).take (count * p.capacity.rows) := by
  have hlength := (fill_length p.capacity (p.rows schema rowCount)).1
  have hfull := take_flatten_of_length (fun _ hb => length_of_mem_fill hb)
    (fill p.capacity.rows [] (p.rows schema rowCount)).2 (hlength ▸ hcount)
  rw [fill_joined, List.nil_append] at hfull
  rw [hfull, plan, LoadPlan.ofItems, List.take_append_of_le_length (hlength ▸ hcount)]
  rfl

/-- Without an error the last batch is what the full ones leave. -/
theorem plan_complete (hnone : (p.plan schema rowCount).fault? = none) :
    ∃ full last, (p.plan schema rowCount).batches = full ++ [last] ∧
      full.length = (p.rows schema rowCount).length / p.capacity.rows ∧
      (∀ batch ∈ full, batch.length = p.capacity.rows) ∧
      last.length = (p.rows schema rowCount).length % p.capacity.rows ∧
      full.flatten ++ last = p.rows schema rowCount := by
  obtain ⟨hfull, hlast⟩ := fill_length p.capacity (p.rows schema rowCount)
  refine ⟨_, _, ?_, hfull, fun _ hb => length_of_mem_fill hb, hlast, fill_joined _ _ _⟩
  rw [plan_fault?] at hnone
  rw [plan, LoadPlan.ofItems, hnone]
  rfl

/-- Without an error the batches hold all rows. -/
theorem plan_complete_flatten (hnone : (p.plan schema rowCount).fault? = none) :
    (p.plan schema rowCount).batches.flatten = p.rows schema rowCount := by
  obtain ⟨full, last, hbatches, -, -, -, hjoined⟩ := p.plan_complete schema rowCount hnone
  rw [hbatches, List.flatten_append, List.flatten_singleton, hjoined]

/-- With an error there is no last batch. -/
theorem plan_cut {e : GeneratorError} (hsome : (p.plan schema rowCount).fault? = some e) :
    (p.plan schema rowCount).batches.length = (p.rows schema rowCount).length / p.capacity.rows := by
  rw [plan_fault?] at hsome
  rw [plan, LoadPlan.ofItems, hsome, List.append_nil]
  exact (fill_length p.capacity (p.rows schema rowCount)).1

/-- With an error the batches hold what full batches can. -/
theorem plan_cut_flatten {e : GeneratorError} (hsome : (p.plan schema rowCount).fault? = some e) :
    (p.plan schema rowCount).batches.flatten = (p.rows schema rowCount).take
      ((p.rows schema rowCount).length / p.capacity.rows * p.capacity.rows) := by
  rw [← p.plan_take schema rowCount (Nat.le_refl _), ← p.plan_cut schema rowCount hsome, List.take_length]

/-- The batches hold the first rows, be it all of them or not. -/
theorem plan_flatten_isPrefix : (p.plan schema rowCount).batches.flatten <+: p.rows schema rowCount := by
  cases hfault : (p.plan schema rowCount).fault? with
  | none => exact p.plan_complete_flatten schema rowCount hfault ▸ List.prefix_rfl
  | some e =>
      rw [p.plan_cut_flatten schema rowCount hfault]
      exact List.take_prefix _ _

/-- Batches are made of rows of the run. -/
theorem mem_rows_of_plan {batch : List Row} (hbatch : batch ∈ (p.plan schema rowCount).batches) {row : Row}
    (hrow : row ∈ batch) : row ∈ p.rows schema rowCount :=
  (p.plan_flatten_isPrefix schema rowCount).subset (List.mem_flatten.mpr ⟨batch, hbatch, hrow⟩)

/-- Rows are the items at their places. -/
theorem item_of_row {index : Nat} {row : Row} (h : (p.rows schema rowCount)[index]? = some row) :
    (p.items schema rowCount)[index]? = some (.ok row) := by
  have hwithin := (List.getElem?_eq_some_iff.mp h).1
  rw [← List.getElem?_take_of_lt hwithin, p.items_take schema rowCount (Nat.le_refl _), List.take_length,
    List.getElem?_map, h]
  rfl

/-- The rows of a batch are the items at their places. -/
theorem plan_getElem? {number place : Nat} {batch : List Row} {row : Row}
    (hbatch : (p.plan schema rowCount).batches[number]? = some batch) (hrow : batch[place]? = some row) :
    place < p.capacity.rows ∧ (p.items schema rowCount)[number * p.capacity.rows + place]? = some (.ok row) := by
  have hall : ((fill p.capacity.rows [] (p.rows schema rowCount)).1 ++
      [(fill p.capacity.rows [] (p.rows schema rowCount)).2])[number]? = some batch := by
    have hprefix : (p.plan schema rowCount).batches <+:
        (fill p.capacity.rows [] (p.rows schema rowCount)).1 ++
          [(fill p.capacity.rows [] (p.rows schema rowCount)).2] := by
      rw [plan, LoadPlan.ofItems]
      refine (List.prefix_append_right_inj _).mpr ?_
      cases (upToError (p.items schema rowCount)).2 with
      | none => exact List.prefix_rfl
      | some e => exact List.nil_prefix
    obtain ⟨hnumber, rfl⟩ := List.getElem?_eq_some_iff.mp hbatch
    exact List.prefix_iff_getElem?.mp hprefix number hnumber
  have hplace : place < batch.length := (List.getElem?_eq_some_iff.mp hrow).1
  constructor
  · rcases List.mem_append.mp (List.mem_of_getElem? hall) with hfull | hlast
    · rw [← length_of_mem_fill hfull]
      exact hplace
    · rw [List.mem_singleton.mp hlast] at hplace
      exact Nat.lt_trans hplace (fill_left_lt p.capacity.positive _)
  · have hrows := getElem?_flatten_of_length (fun _ hb => length_of_mem_fill hb) _ hall hrow
    rw [fill_joined, List.nil_append] at hrows
    exact p.item_of_row schema rowCount hrows

theorem plan_width {batch : List Row} (hbatch : batch ∈ (p.plan schema rowCount).batches) {row : Row}
    (hrow : row ∈ batch) : row.width = schema.width :=
  rows_width (p.mem_rows_of_plan schema rowCount hbatch hrow)

theorem plan_length_of_rows {rows : List Row} (hrows : p.items schema rowCount = rows.map .ok) :
    (p.plan schema rowCount).batches.length = rowCount / p.capacity.rows + 1 := by
  have hnone : (upToError (p.items schema rowCount)).2 = none := by
    rw [hrows, upToError_map_ok]
  obtain ⟨full, last, hbatches, hfull, -⟩ := p.plan_complete schema rowCount hnone
  rw [hbatches, List.length_append, List.length_singleton, hfull, rows_length_of_complete hnone]

theorem plan_length_of_failsAt {index : Nat} {e : GeneratorError}
    (h : FailsAt (p.items schema rowCount) index e) :
    (p.plan schema rowCount).batches.length = index / p.capacity.rows := by
  obtain ⟨hlength, hfault⟩ := (failsAt_iff _ _ _).mp h
  rw [p.plan_cut schema rowCount hfault, rows, hlength]

theorem plan_length_le_rows :
    (p.plan schema rowCount).batches.length ≤ (p.rows schema rowCount).length / p.capacity.rows + 1 := by
  cases hfault : (p.plan schema rowCount).fault? with
  | none =>
      obtain ⟨full, last, hbatches, hfull, -⟩ := p.plan_complete schema rowCount hfault
      exact Nat.le_of_eq (by rw [hbatches, List.length_append, List.length_singleton, hfull])
  | some e =>
      rw [p.plan_cut schema rowCount hfault]
      exact Nat.le_succ _

theorem plan_length_le : (p.plan schema rowCount).batches.length ≤ rowCount / p.capacity.rows + 1 :=
  Nat.le_trans (p.plan_length_le_rows schema rowCount)
    (Nat.succ_le_succ (Nat.div_le_div_right (p.rows_length_le schema rowCount)))

end Pipeline

end SampleLoad
