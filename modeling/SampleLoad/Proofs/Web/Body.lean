import SampleLoad.Proofs.Generate.Rows
import SampleLoad.Web.Body

/-!
Bodies of writes. A value has a cell unless it is an infinite number or none, and then the error is one of the
encoding. The body of rows has an array for each row and in it a cell for each value, both in order; there is one
exactly if every number is finite. Values that were drawn are, so they always have a body.
Main statements: `WebApi.rowsBody_eq_ok_iff`, `WebApi.rowsBody_exists_iff`.
-/

namespace SampleLoad

/-- The value is no floating point number, or one that is finite. -/
def Value.IsFinite : Value → Prop
  | double d => d.isFinite = true
  | float s => s.isFinite = true
  | _ => True

/-! ### Lists that go in step -/

section InStep

variable {α β : Type} {r : α → β → Prop} {as : List α} {bs : List β}

theorem forall₂_exists_iff (r : α → β → Prop) (as : List α) :
    (∃ bs, List.Forall₂ r as bs) ↔ ∀ a ∈ as, ∃ b, r a b := by
  induction as with
  | nil => exact ⟨fun _ a ha => (nomatch ha), fun _ => ⟨[], .nil⟩⟩
  | cons a as ih =>
      rw [List.forall_mem_cons, ← ih]
      constructor
      · rintro ⟨bs, h⟩
        obtain ⟨b, rest, hb, hrest, -⟩ := List.forall₂_cons_left_iff.mp h
        exact ⟨⟨b, hb⟩, rest, hrest⟩
      · rintro ⟨⟨b, hb⟩, bs, hbs⟩
        exact ⟨b :: bs, .cons hb hbs⟩

theorem forall₂_getElem? (h : List.Forall₂ r as bs) {i : Nat} {a : α} (ha : as[i]? = some a) :
    ∃ b, bs[i]? = some b ∧ r a b := by
  induction h generalizing i with
  | nil => cases ha
  | cons hfirst hrest ih =>
      cases i with
      | zero =>
          cases ha
          exact ⟨_, rfl, hfirst⟩
      | succ i => exact ih ha

theorem getElem?_of_forall₂ (h : List.Forall₂ r as bs) {i : Nat} {b : β} (hb : bs[i]? = some b) :
    ∃ a, as[i]? = some a ∧ r a b :=
  forall₂_getElem? h.flip hb

end InStep

namespace WebApi

/-! ### Cells -/

theorem floatCell_of_finite {d : Double} (h : d.isFinite = true) : floatCell d = .ok (.float d) := by
  rw [floatCell, if_pos h]

theorem floatCell_error {d : Double} {e : StoreError} (h : floatCell d = .error e) : ∃ text, e = .encoding text := by
  unfold floatCell at h
  split at h
  · cases h
  · cases h
    exact ⟨_, rfl⟩

theorem floatCell_exists_iff (d : Double) : (∃ c, floatCell d = .ok c) ↔ d.isFinite = true := by
  constructor
  · rintro ⟨c, hc⟩
    refine Classical.byContradiction fun hinfinite => ?_
    rw [floatCell, if_neg hinfinite] at hc
    cases hc
  · intro h
    exact ⟨_, floatCell_of_finite h⟩

/-- The values that have cells are the finite ones. A number of single precision is widened before it is looked at,
which keeps it finite or infinite. -/
theorem cell_exists_iff (value : Value) : (∃ c, cell value = .ok c) ↔ value.IsFinite := by
  cases value with
  | double d => exact floatCell_exists_iff d
  | float s => exact (floatCell_exists_iff s.widen).trans ⟨Single.isFinite_of_widen, Single.widen_isFinite⟩
  | _ => exact ⟨fun _ => trivial, fun _ => ⟨_, rfl⟩⟩

theorem cell_error {value : Value} {e : StoreError} (h : cell value = .error e) : ∃ text, e = .encoding text := by
  cases value with
  | double d => exact floatCell_error h
  | float s => exact floatCell_error h
  | _ => cases h

/-- Values that were drawn are finite. -/
theorem cell_of_drawn {time? : Option Instant} {source : RandomSource} {strategy : Strategy} {value : Value}
    (h : Drawn time? source strategy value) : ∃ c, cell value = .ok c := by
  cases h with
  | unitDouble hfinite hvalue => exact ⟨_, floatCell_of_finite hfinite⟩
  | unitFloat hfinite hvalue => exact ⟨_, floatCell_of_finite (Single.widen_isFinite hfinite)⟩
  | _ => exact ⟨_, rfl⟩

/-! ### Rows of cells -/

theorem cells_eq_ok_iff {values : List Value} {cs : List Json} :
    cells values = .ok cs ↔ List.Forall₂ (fun value c => cell value = .ok c) values cs := by
  induction values generalizing cs with
  | nil => simp [cells, eq_comm]
  | cons value rest ih =>
      rw [List.forall₂_cons_left_iff]
      constructor
      · intro h
        rw [cells] at h
        split at h
        · cases h
        · split at h
          · cases h
          · rename_i c hc _ others hothers
            cases h
            exact ⟨c, others, hc, ih.mp hothers, rfl⟩
      · rintro ⟨c, others, hc, hothers, rfl⟩
        simp only [cells, hc, ih.mpr hothers]

theorem cells_error {values : List Value} {e : StoreError} (h : cells values = .error e) :
    ∃ text, e = .encoding text := by
  induction values with
  | nil => cases h
  | cons value rest ih =>
      rw [cells] at h
      split at h
      · rename_i hvalue
        cases h
        exact cell_error hvalue
      · split at h
        · rename_i hrest
          cases h
          exact ih hrest
        · cases h

/-- The array holds the cells of the row. -/
def IsArrayOf (row : Row) (array : Json) : Prop :=
  ∃ cs, array = .arr cs ∧ List.Forall₂ (fun value c => cell value = .ok c) row.values cs

theorem rowArrays_eq_ok_iff {rows : List Row} {arrays : List Json} :
    rowArrays rows = .ok arrays ↔ List.Forall₂ IsArrayOf rows arrays := by
  induction rows generalizing arrays with
  | nil => simp [rowArrays, eq_comm]
  | cons row rest ih =>
      rw [List.forall₂_cons_left_iff]
      constructor
      · intro h
        rw [rowArrays] at h
        split at h
        · cases h
        · split at h
          · cases h
          · rename_i cs hcs _ others hothers
            cases h
            exact ⟨.arr cs, others, ⟨cs, rfl, cells_eq_ok_iff.mp hcs⟩, ih.mp hothers, rfl⟩
      · rintro ⟨array, others, ⟨cs, rfl, hcs⟩, hothers, rfl⟩
        simp only [rowArrays, cells_eq_ok_iff.mpr hcs, ih.mpr hothers]

theorem rowArrays_error {rows : List Row} {e : StoreError} (h : rowArrays rows = .error e) :
    ∃ text, e = .encoding text := by
  induction rows with
  | nil => cases h
  | cons row rest ih =>
      rw [rowArrays] at h
      split at h
      · rename_i hrow
        cases h
        exact cells_error hrow
      · split at h
        · rename_i hrest
          cases h
          exact ih hrest
        · cases h

/-! ### Bodies -/

/-- Rows whose values all have cells. -/
def HasCells (rows : List Row) : Prop := ∀ row ∈ rows, ∀ value ∈ row.values, ∃ c, cell value = .ok c

theorem hasCells_iff (rows : List Row) :
    HasCells rows ↔ ∀ row ∈ rows, ∀ value ∈ row.values, value.IsFinite := by
  simp only [HasCells, cell_exists_iff]

/-- The body holds the cells of all rows, in order. -/
theorem rowsBody_eq_ok_iff {rows : Array Row} {body : Json} :
    rowsBody rows = .ok body ↔ ∃ arrays, body = .arr arrays ∧ List.Forall₂ IsArrayOf rows.toList arrays := by
  simp only [rowsBody, ← rowArrays_eq_ok_iff]
  cases rowArrays rows.toList with
  | error e => simp [Except.map]
  | ok arrays => simp [Except.map, eq_comm]

theorem isArrayOf_exists_iff (row : Row) :
    (∃ array, IsArrayOf row array) ↔ ∀ value ∈ row.values, ∃ c, cell value = .ok c := by
  rw [← forall₂_exists_iff]
  constructor
  · rintro ⟨array, cs, -, hcs⟩
    exact ⟨cs, hcs⟩
  · rintro ⟨cs, hcs⟩
    exact ⟨.arr cs, cs, rfl, hcs⟩

theorem rowsBody_exists_iff_hasCells (rows : Array Row) :
    (∃ body, rowsBody rows = .ok body) ↔ HasCells rows.toList := by
  have hrows := forall₂_exists_iff IsArrayOf rows.toList
  simp only [isArrayOf_exists_iff] at hrows
  rw [HasCells, ← hrows]
  simp only [rowsBody_eq_ok_iff]
  constructor
  · rintro ⟨body, arrays, -, harrays⟩
    exact ⟨arrays, harrays⟩
  · rintro ⟨arrays, harrays⟩
    exact ⟨.arr arrays, arrays, rfl, harrays⟩

/-- There is a body exactly if every number of the rows is finite. -/
theorem rowsBody_exists_iff (rows : Array Row) :
    (∃ body, rowsBody rows = .ok body) ↔ ∀ row ∈ rows.toList, ∀ value ∈ row.values, value.IsFinite := by
  rw [rowsBody_exists_iff_hasCells, hasCells_iff]

theorem rowsBody_error {rows : Array Row} {e : StoreError} (h : rowsBody rows = .error e) :
    ∃ text, e = .encoding text := by
  rw [rowsBody] at h
  cases harrays : rowArrays rows.toList with
  | error e' =>
      rw [harrays] at h
      cases h
      exact rowArrays_error harrays
  | ok arrays =>
      rw [harrays] at h
      cases h

theorem rowsBody_of_hasCells {rows : List Row} (h : HasCells rows) : ∃ body, rowsBody rows.toArray = .ok body :=
  (rowsBody_exists_iff_hasCells rows.toArray).mpr h

end WebApi

end SampleLoad
