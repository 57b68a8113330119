import Mathlib.Data.List.Induction
import SampleLoad.Proofs.Rows.Batch
import SampleLoad.Proofs.Rows.NameOrder
import SampleLoad.Proofs.Text.ByteOrder

/-!
Batches that were put together by insertions. Such a batch has an entry for each name that something was inserted under,
even if that was no rows, and the entry holds the rows in the order of the insertions. Insertions under other names make
no difference to it, wherever they come in between. Main statement: `Batch.entries_of_insertions`.
-/

namespace SampleLoad.Batch

/-- Rows inserted under names, one insertion after the other. -/
abbrev Insertions : Type := List (String × Array Row)

def ofInsertions (insertions : Insertions) : Batch :=
  insertions.foldl (fun b (name, rows) => b.insert name rows) empty

def Insertions.names (insertions : Insertions) : List String := insertions.map (·.1)

def Insertions.rows (insertions : Insertions) : List Row := insertions.flatMap (·.2.toList)

def Ordered (b : Batch) : Prop := b.rowsByName.Ordered

theorem ofInsertions_append_singleton (insertions : Insertions) (name : String) (rows : Array Row) :
    ofInsertions (insertions ++ [(name, rows)]) = (ofInsertions insertions).insert name rows :=
  List.foldl_append

theorem rowsIn_append (name : String) (first second : Insertions) :
    rowsIn name (first ++ second) = rowsIn name first ++ rowsIn name second := by
  rw [rowsIn, List.filter_append, List.flatMap_append]
  rfl

/-! ### One insertion -/

theorem Ordered.insert {b : Batch} (h : b.Ordered) (name : String) (rows : Array Row) : (b.insert name rows).Ordered :=
  NameMap.Ordered.alter h name _

theorem Ordered.rowsFor?_insert {b : Batch} (h : b.Ordered) (name other : String) (rows : Array Row) :
    (b.insert name rows).rowsFor? other =
      if other = name then some ((b.rowsFor? name).getD #[] ++ rows) else b.rowsFor? other := by
  by_cases hother : other = name
  · subst hother
    rw [if_pos rfl]
    exact NameMap.Ordered.find?_alter_self h other _
  · rw [if_neg hother]
    exact NameMap.find?_alterEntries_of_ne hother _ _

theorem foldl_size (entries : List (String × Array Row)) (sum : Nat) :
    entries.foldl (fun sum (_, rows) => sum + rows.size) sum = sum + (Insertions.rows entries).length := by
  induction entries generalizing sum with
  | nil => rfl
  | cons entry rest ih =>
      have hcons : Insertions.rows (entry :: rest) = entry.2.toList ++ Insertions.rows rest := List.flatMap_cons
      rw [List.foldl_cons, ih, hcons, List.length_append, Nat.add_assoc]
      rfl

theorem rowCount_eq (b : Batch) : b.rowCount = (Insertions.rows b.entries).length := by
  rw [rowCount, foldl_size, Nat.zero_add]

/-- An insertion adds its rows to the others, whether or not the name has an entry. -/
theorem rowCount_insert (b : Batch) (name : String) (rows : Array Row) :
    (b.insert name rows).rowCount = b.rowCount + rows.size := by
  obtain ⟨⟨entries⟩⟩ := b
  rw [rowCount_eq, rowCount_eq]
  show (Insertions.rows (NameMap.alterEntries name (fun present => present.getD #[] ++ rows) entries)).length =
    (Insertions.rows entries).length + rows.size
  have hcons (entry : String × Array Row) (rest : List (String × Array Row)) :
      (Insertions.rows (entry :: rest)).length = entry.2.size + (Insertions.rows rest).length := by
    simp [Insertions.rows]
  induction entries with
  | nil => simp [NameMap.alterEntries, Insertions.rows]
  | cons entry rest ih =>
      obtain ⟨key, present⟩ := entry
      rw [NameMap.alterEntries]
      split
      · simp only [hcons, Option.getD_none, Array.empty_append]
        omega
      · split
        · simp only [hcons, Option.getD_some, Array.size_append]
          omega
        · simp only [hcons, ih]
          omega

/-! ### Insertions in order -/

theorem ordered_ofInsertions (insertions : Insertions) : (ofInsertions insertions).Ordered := by
  induction insertions using List.reverseRecOn with
  | nil => exact NameMap.ordered_empty
  | append_singleton insertions last ih =>
      rw [ofInsertions_append_singleton]
      exact ih.insert last.1 last.2

/-- A name has an entry exactly if something was inserted under it, and the entry holds the rows. -/
theorem rowsFor?_cases (insertions : Insertions) (name : String) :
    name ∈ insertions.names ∧ (ofInsertions insertions).rowsFor? name = some (rowsIn name insertions).toArray ∨
      name ∉ insertions.names ∧ (ofInsertions insertions).rowsFor? name = none ∧ rowsIn name insertions = [] := by
  induction insertions using List.reverseRecOn with
  | nil => exact .inr ⟨List.not_mem_nil, rfl, rfl⟩
  | append_singleton insertions last ih =>
      have hnames : name ∈ Insertions.names (insertions ++ [last]) ↔
          name ∈ Insertions.names insertions ∨ name = last.1 := by
        simp [Insertions.names]
      have hrows : rowsIn name (insertions ++ [last]) =
          rowsIn name insertions ++ if last.1 = name then last.2.toList else [] := by
        rw [rowsIn_append, rowsIn_cons]
        exact congrArg _ (List.append_nil _)
      rw [hnames, hrows, ofInsertions_append_singleton, (ordered_ofInsertions insertions).rowsFor?_insert]
      by_cases hlast : name = last.1
      · subst hlast
        refine .inl ⟨.inr rfl, ?_⟩
        rcases ih with ⟨-, hfound⟩ | ⟨-, hnone, hbare⟩
        · simp [hfound]
        · simp [hnone, hbare]
      · rw [if_neg hlast, if_neg (Ne.symm hlast), List.append_nil, or_iff_left hlast]
        exact ih

theorem rowCount_ofInsertions (insertions : Insertions) :
    (ofInsertions insertions).rowCount = insertions.rows.length := by
  induction insertions using List.reverseRecOn with
  | nil => rfl
  | append_singleton insertions last ih =>
      rw [ofInsertions_append_singleton, rowCount_insert, ih, Insertions.rows, Insertions.rows, List.flatMap_append]
      simp

theorem rowsFor?_ofInsertions (insertions : Insertions) (name : String) :
    (ofInsertions insertions).rowsFor? name =
      if name ∈ insertions.names then some (rowsIn name insertions).toArray else none := by
  rcases rowsFor?_cases insertions name with ⟨hmem, hfound⟩ | ⟨hmem, hnone, -⟩
  · rw [if_pos hmem, hfound]
  · rw [if_neg hmem, hnone]

theorem rowsOf_ofInsertions (insertions : Insertions) (name : String) :
    ((ofInsertions insertions).rowsFor? name).getD #[] = (rowsIn name insertions).toArray := by
  rcases rowsFor?_cases insertions name with ⟨-, hfound⟩ | ⟨-, hnone, hbare⟩
  · rw [hfound, Option.getD_some]
  · rw [hnone, hbare, Option.getD_none]

theorem mem_containers_iff (insertions : Insertions) (name : String) :
    name ∈ (ofInsertions insertions).containers ↔ name ∈ insertions.names := by
  refine (NameMap.mem_names_iff _ name).trans ?_
  show ((ofInsertions insertions).rowsFor? name).isSome ↔ _
  rw [rowsFor?_ofInsertions]
  split <;> simp [*]

/-- Each container comes with the rows inserted under its name. -/
theorem entries_ofInsertions (insertions : Insertions) :
    (ofInsertions insertions).entries =
      (ofInsertions insertions).containers.map fun name => (name, (rowsIn name insertions).toArray) := by
  have hentry : ∀ entry ∈ (ofInsertions insertions).entries, entry = (entry.1, (rowsIn entry.1 insertions).toArray) := by
    rintro ⟨name, rows⟩ hmem
    have hrows : (ofInsertions insertions).rowsFor? name = some rows :=
      ((ordered_ofInsertions insertions).mem_entries_iff name rows).mp hmem
    rw [← rowsOf_ofInsertions, hrows, Option.getD_some]
  rw [containers, NameMap.names, List.map_map]
  exact (List.map_id _).symm.trans (List.map_congr_left hentry)

/-- Batches are equal exactly if the same names and the same rows under each were inserted. -/
theorem ofInsertions_eq_iff (insertions other : Insertions) :
    ofInsertions insertions = ofInsertions other ↔
      ∀ name, (name ∈ insertions.names ↔ name ∈ other.names) ∧ rowsIn name insertions = rowsIn name other := by
  constructor
  · intro h name
    have hrows := rowsOf_ofInsertions insertions name
    rw [h, rowsOf_ofInsertions] at hrows
    rw [← mem_containers_iff, ← mem_containers_iff, h]
    exact ⟨Iff.rfl, congrArg Array.toList hrows.symm⟩
  · intro h
    refine congrArg Batch.mk ((ordered_ofInsertions insertions).eq_of_find? (ordered_ofInsertions other) ?_)
    intro name
    show (ofInsertions insertions).rowsFor? name = (ofInsertions other).rowsFor? name
    simp only [rowsFor?_ofInsertions, h name]

theorem mem_names_iff_filter (insertions : Insertions) (name : String) :
    name ∈ insertions.names ↔ insertions.filter (·.1 = name) ≠ [] := by
  rw [Insertions.names, List.mem_map, Ne, List.filter_eq_nil_iff]
  simp

/-- A batch has an entry for exactly the names that something was inserted under, with the rows inserted under the name
in order, and lists them by the bytes of the names. It counts all rows that were inserted. So it matters only what was
inserted under each name, in which order, and not what came in between. -/
theorem entries_of_insertions (insertions : Insertions) :
    let b := ofInsertions insertions
    (∀ name, b.rowsFor? name = if name ∈ insertions.names then some (rowsIn name insertions).toArray else none) ∧
      (∀ name, name ∈ b.containers ↔ name ∈ insertions.names) ∧
      b.containers.Pairwise (fun name later => Utf8.bytes name < Utf8.bytes later) ∧
      b.entries = b.containers.map (fun name => (name, (rowsIn name insertions).toArray)) ∧
      b.rowCount = insertions.rows.length ∧
      (b.isEmpty ↔ insertions.rows.length = 0) ∧
      (∀ other, ofInsertions other = b ↔
        ∀ name, (name ∈ other.names ↔ name ∈ insertions.names) ∧ rowsIn name other = rowsIn name insertions) ∧
      ∀ other : Insertions, (∀ name, other.filter (·.1 = name) = insertions.filter (·.1 = name)) →
        ofInsertions other = b := by
  intro b
  refine ⟨rowsFor?_ofInsertions insertions, mem_containers_iff insertions, ?_, entries_ofInsertions insertions,
    rowCount_ofInsertions insertions, ?_, fun other => ofInsertions_eq_iff other insertions, ?_⟩
  · exact (ordered_ofInsertions insertions).names.imp Utf8.bytes_lt_of_lt
  · rw [isEmpty, decide_eq_true_iff, rowCount_ofInsertions]
  · intro other hsame
    refine (ofInsertions_eq_iff other insertions).mpr fun name => ⟨?_, ?_⟩
    · rw [mem_names_iff_filter, mem_names_iff_filter, hsame name]
    · rw [rowsIn, hsame name]
      rfl

/-- Rows under three names, of which one has none and one is not in ASCII, in two orders. -/
theorem entries_of_insertions_interleaved :
    let one : Row := ⟨[.integer 1]⟩
    let two : Row := ⟨[.bool true]⟩
    let insertions : Insertions := [("z", #[one]), ("é", #[]), ("z", #[two]), ("a", #[two, one])]
    let other : Insertions := [("a", #[two, one]), ("z", #[one]), ("z", #[two]), ("é", #[])]
    (∀ name, other.filter (·.1 = name) = insertions.filter (·.1 = name)) ∧
      ofInsertions other = ofInsertions insertions ∧
      (ofInsertions insertions).entries = [("a", #[two, one]), ("z", #[one, two]), ("é", #[])] := by
  intro one two insertions other
  have hsame (name : String) : other.filter (·.1 = name) = insertions.filter (·.1 = name) := by
    by_cases ha : "a" = name
    · subst ha
      rfl
    · by_cases hz : "z" = name
      · subst hz
        rfl
      · simp [other, insertions, List.filter_cons, ha, hz]
  exact ⟨hsame, (entries_of_insertions insertions).2.2.2.2.2.2.2 other hsame, by decide⟩

end SampleLoad.Batch
