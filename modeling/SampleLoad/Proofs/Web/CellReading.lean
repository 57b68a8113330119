import SampleLoad.Proofs.Number.Narrowing
import SampleLoad.Proofs.Schema.Notation
import SampleLoad.Proofs.Time.CellText
import SampleLoad.Proofs.Web.Body

/-!
Reading the cells of a body. Who knows the column types gets every value back: numbers of either precision bit for bit,
instants cut to whole milliseconds. So rows of the same types with whole milliseconds have different bodies.
Main statement: `WebApi.rowsBody_reads_back`.
-/

namespace SampleLoad

/-- The value without what is finer than a millisecond. -/
def Value.floorMilli : Value → Value
  | timestamp t => timestamp t.floorMilli
  | value => value

/-- The value is no instant, or one of a whole millisecond. -/
def Value.MilliAligned : Value → Prop
  | timestamp t => t.MilliAligned
  | _ => True

def Row.types (row : Row) : List ColumnType := row.values.map Value.type

def Row.MilliAligned (row : Row) : Prop := ∀ value ∈ row.values, value.MilliAligned

theorem Value.floorMilli_of_aligned {value : Value} (h : value.MilliAligned) : value.floorMilli = value := by
  cases value with
  | timestamp t => exact congrArg timestamp (CellText.floorMilli_of_aligned h)
  | _ => rfl

namespace WebApi

/-- The value of a column type that a cell holds. -/
def readCell? : ColumnType → Json → Option Value
  | .timestamp, .str s => (CellText.read? s).map .timestamp
  | .integer, .whole n => (int32OfInt? n).map .integer
  | .string, .str s => some (.string s)
  | .bool, .bool b => some (.bool b)
  | .double, .float d => some (.double d)
  | .float, .float d => some (.float d.narrow)
  | _, _ => none

/-- The array holds cells from which the values of the row are read. -/
def ReadsBack (row : Row) (array : Json) : Prop :=
  ∃ cs, array = .arr cs ∧ List.Forall₂ (fun value c => readCell? value.type c = some value.floorMilli) row.values cs

theorem floatCell_eq_ok_iff {d : Double} {c : Json} : floatCell d = .ok c ↔ d.isFinite = true ∧ c = .float d := by
  rw [floatCell]
  split
  · rename_i hfinite
    simp [hfinite, eq_comm]
  · rename_i hinfinite
    simp [hinfinite]

/-- Reading undoes writing, up to the millisecond. -/
theorem readCell?_cell {value : Value} {c : Json} (h : cell value = .ok c) :
    readCell? value.type c = some value.floorMilli := by
  cases value with
  | timestamp t =>
      cases h
      show (CellText.read? t.cellText).map Value.timestamp = some (.timestamp t.floorMilli)
      rw [CellText.read?_cellText, Option.map_some]
  | integer n =>
      cases h
      exact congrArg (Option.map Value.integer) (int32OfInt?_toInt n)
  | string s =>
      cases h
      rfl
  | bool b =>
      cases h
      rfl
  | double d =>
      obtain ⟨-, rfl⟩ := floatCell_eq_ok_iff.mp h
      rfl
  | float s =>
      obtain ⟨hfinite, rfl⟩ := floatCell_eq_ok_iff.mp h
      have hnarrow := Single.narrow_widen (Single.isFinite_of_widen hfinite)
      exact congrArg (fun narrowed => some (Value.float narrowed)) hnarrow

theorem IsArrayOf.readsBack {row : Row} {array : Json} (h : IsArrayOf row array) : ReadsBack row array := by
  obtain ⟨cs, rfl, hcs⟩ := h
  exact ⟨cs, rfl, hcs.imp fun _ _ => readCell?_cell⟩

theorem rowsBody_readsBack {rows : Array Row} {body : Json} (h : rowsBody rows = .ok body) :
    ∃ arrays, body = .arr arrays ∧ List.Forall₂ ReadsBack rows.toList arrays := by
  obtain ⟨arrays, rfl, harrays⟩ := rowsBody_eq_ok_iff.mp h
  exact ⟨arrays, rfl, harrays.imp fun _ _ => IsArrayOf.readsBack⟩

/-! ### Rows that have one body -/

/-- Who knows the column types reads one row from the cells. -/
theorem ReadsBack.floorMilli_eq {row other : Row} {array : Json} (hrow : ReadsBack row array)
    (hother : ReadsBack other array) (htypes : row.types = other.types) :
    row.values.map Value.floorMilli = other.values.map Value.floorMilli := by
  have hread : ∀ {values : List Value} {cs : List Json},
      List.Forall₂ (fun value c => readCell? value.type c = some value.floorMilli) values cs →
        List.zipWith readCell? (values.map Value.type) cs = (values.map Value.floorMilli).map some := by
    intro values cs h
    induction h with
    | nil => rfl
    | cons hfirst hrest ih => rw [List.map_cons, List.zipWith_cons_cons, hfirst, ih, List.map_cons, List.map_cons]
  obtain ⟨cs, rfl, hcs⟩ := hrow
  obtain ⟨_, harray, hothers⟩ := hother
  cases harray
  have hsame := hread hcs
  rw [show row.values.map Value.type = other.values.map Value.type from htypes, hread hothers] at hsame
  exact (List.map_injective_iff.mpr (Option.some_injective Value) hsame).symm

theorem ReadsBack.eq {row other : Row} {array : Json} (hrow : ReadsBack row array) (hother : ReadsBack other array)
    (htypes : row.types = other.types) (haligned : row.MilliAligned) (hotherAligned : other.MilliAligned) :
    row = other := by
  have hfloor : ∀ {row : Row}, row.MilliAligned → row.values.map Value.floorMilli = row.values := by
    intro row h
    exact (List.map_congr_left fun value hvalue => Value.floorMilli_of_aligned (h value hvalue)).trans (List.map_id _)
  have hvalues := hrow.floorMilli_eq hother htypes
  rw [hfloor haligned, hfloor hotherAligned] at hvalues
  exact congrArg Row.mk hvalues

/-- Lists are the same if what one of them has at a place is what the other has there. -/
theorem eq_of_forall₂ {α β : Type} {r : α → β → Prop} {as others : List α} {bs : List β}
    (hsame : ∀ a ∈ as, ∀ other ∈ others, ∀ b, r a b → r other b → a = other) (has : List.Forall₂ r as bs)
    (hothers : List.Forall₂ r others bs) : as = others := by
  induction has generalizing others with
  | nil =>
      cases hothers
      rfl
  | cons hfirst hrest ih =>
      cases hothers with
      | cons hother hlater =>
          refine congrArg₂ List.cons (hsame _ List.mem_cons_self _ List.mem_cons_self _ hfirst hother) ?_
          refine ih (fun a ha other hmem => ?_) hlater
          exact hsame a (List.mem_cons_of_mem _ ha) other (List.mem_cons_of_mem _ hmem)

/-- Rows have a body if their numbers are finite, else an error of the encoding. The body has an array for each row and
in it a cell for each value, both in order, and each value is read back from its cell by its type. Rows of the same
column types and of whole milliseconds have the same body only if they are the same. -/
theorem rowsBody_reads_back (rows : Array Row) :
    ((∃ body, rowsBody rows = .ok body) ↔ ∀ row ∈ rows.toList, ∀ value ∈ row.values, value.IsFinite) ∧
      ((¬∃ body, rowsBody rows = .ok body) ↔ ∃ text, rowsBody rows = .error (.encoding text)) ∧
      (∀ body, rowsBody rows = .ok body → ∃ arrays, body = .arr arrays ∧ List.Forall₂ ReadsBack rows.toList arrays) ∧
      ∀ (others : Array Row) (types : List ColumnType) (body : Json),
        (∀ row ∈ rows.toList ++ others.toList, row.types = types ∧ row.MilliAligned) →
          rowsBody rows = .ok body → rowsBody others = .ok body → rows = others := by
  refine ⟨rowsBody_exists_iff rows, ?_, fun body => rowsBody_readsBack, ?_⟩
  · cases hbody : rowsBody rows with
    | error e =>
        obtain ⟨text, rfl⟩ := rowsBody_error hbody
        simp
    | ok body => simp
  · intro others types body hrows hbody hothers
    obtain ⟨arrays, rfl, harrays⟩ := rowsBody_readsBack hbody
    obtain ⟨_, hsame, hotherArrays⟩ := rowsBody_readsBack hothers
    cases hsame
    refine Array.toList_inj.mp (eq_of_forall₂ ?_ harrays hotherArrays)
    intro row hrow other hother array hread hotherRead
    obtain ⟨htypes, haligned⟩ := hrows row (List.mem_append_left _ hrow)
    obtain ⟨hotherTypes, hotherAligned⟩ := hrows other (List.mem_append_right _ hother)
    exact hread.eq hotherRead (htypes.trans hotherTypes.symm) haligned hotherAligned

/-- The least number of single precision and a negative zero are read back, and the two zeros have different bodies. -/
theorem rowsBody_reads_back_zeros :
    let row : Row := ⟨[.timestamp ⟨1500000, by decide⟩, .float ⟨1⟩, .double ⟨0x8000000000000000⟩]⟩
    (∃ arrays, rowsBody #[row] = .ok (.arr arrays) ∧ List.Forall₂ ReadsBack [row] arrays) ∧
      ∀ body, rowsBody #[⟨[.float ⟨0⟩]⟩] = .ok body → rowsBody #[⟨[.float ⟨0x80000000⟩]⟩] ≠ .ok body := by
  intro row
  have hfinite : ∀ value ∈ row.values, value.IsFinite := by
    intro value hvalue
    simp only [row, List.mem_cons, List.not_mem_nil, or_false] at hvalue
    rcases hvalue with rfl | rfl | rfl
    · trivial
    · show Single.isFinite ⟨1⟩ = true
      decide
    · show Double.isFinite ⟨0x8000000000000000⟩ = true
      decide
  constructor
  · obtain ⟨body, hbody⟩ := (rowsBody_reads_back #[row]).1.mpr fun r hr => by
      rw [List.mem_singleton.mp hr]
      exact hfinite
    obtain ⟨arrays, rfl, harrays⟩ := (rowsBody_reads_back #[row]).2.2.1 body hbody
    exact ⟨arrays, hbody, harrays⟩
  · intro body hpositive hnegative
    have hrows := (rowsBody_reads_back #[⟨[.float ⟨0⟩]⟩]).2.2.2 #[⟨[.float ⟨0x80000000⟩]⟩] [.float] body (by
      intro row hrow
      have hcases : row = ⟨[.float ⟨0⟩]⟩ ∨ row = ⟨[.float ⟨0x80000000⟩]⟩ := by simpa using hrow
      rcases hcases with rfl | rfl
      · exact ⟨rfl, fun value hvalue => List.mem_singleton.mp hvalue ▸ trivial⟩
      · exact ⟨rfl, fun value hvalue => List.mem_singleton.mp hvalue ▸ trivial⟩) hpositive hnegative
    exact absurd hrows (by decide)

end WebApi

end SampleLoad
