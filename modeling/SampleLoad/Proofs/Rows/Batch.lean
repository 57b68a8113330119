import SampleLoad.Rows.Batch

/-!
The rows that a batch holds for each container. A batch is empty exactly if no entry has rows.
-/

namespace SampleLoad.Batch

def rowsIn (name : String) (entries : List (String × Array Row)) : List Row :=
  (entries.filter (·.1 = name)).flatMap (·.2.toList)

/-- The rows for a container, none if it has no entry. -/
def rowsOf (b : Batch) (name : String) : List Row := rowsIn name b.entries

theorem rowsIn_cons (name : String) (entry : String × Array Row) (rest : List (String × Array Row)) :
    rowsIn name (entry :: rest) = (if entry.1 = name then entry.2.toList else []) ++ rowsIn name rest := by
  by_cases h : entry.1 = name
  · simp [rowsIn, h]
  · simp [rowsIn, h]

theorem single_entries (name : String) (rows : Array Row) : (single name rows).entries = [(name, rows)] :=
  congrArg (fun present => [(name, present)]) Array.empty_append

theorem rowsFor?_single (name : String) (rows : Array Row) : (single name rows).rowsFor? name = some rows := by
  have hentries : (single name rows).rowsByName = ⟨[(name, rows)]⟩ := congrArg NameMap.mk (single_entries name rows)
  rw [rowsFor?, hentries, NameMap.find?, List.find?_cons_of_pos (by simp)]
  rfl

theorem rowsOf_single (name other : String) (rows : Array Row) :
    (single name rows).rowsOf other = if name = other then rows.toList else [] := by
  rw [rowsOf, single_entries, rowsIn_cons]
  exact List.append_nil _

theorem mem_rowsOf {b : Batch} {name : String} {row : Row} (h : row ∈ b.rowsOf name) :
    ∃ rows, (name, rows) ∈ b.entries ∧ row ∈ rows := by
  obtain ⟨⟨other, rows⟩, hentry, hrow⟩ := List.mem_flatMap.mp h
  obtain ⟨hmem, hname⟩ := List.mem_filter.mp hentry
  obtain rfl : other = name := of_decide_eq_true hname
  exact ⟨rows, hmem, Array.mem_toList_iff.mp hrow⟩

theorem foldl_size_eq_zero_iff (entries : List (String × Array Row)) (sum : Nat) :
    entries.foldl (fun sum (_, rows) => sum + rows.size) sum = 0 ↔ sum = 0 ∧ ∀ entry ∈ entries, entry.2 = #[] := by
  induction entries generalizing sum with
  | nil => simp
  | cons entry rest ih =>
      rw [List.foldl_cons, ih, List.forall_mem_cons, Nat.add_eq_zero_iff, Array.size_eq_zero_iff, and_assoc]

theorem isEmpty_iff (b : Batch) : b.isEmpty ↔ ∀ entry ∈ b.entries, entry.2 = #[] := by
  rw [isEmpty, decide_eq_true_iff, rowCount, foldl_size_eq_zero_iff, and_iff_right rfl]

theorem rowsOf_of_isEmpty {b : Batch} (h : b.isEmpty) (name : String) : b.rowsOf name = [] := by
  rw [List.eq_nil_iff_forall_not_mem]
  intro row hrow
  obtain ⟨rows, hentry, hmem⟩ := mem_rowsOf hrow
  obtain rfl : rows = #[] := b.isEmpty_iff.mp h _ hentry
  exact Array.not_mem_empty row hmem

end SampleLoad.Batch
