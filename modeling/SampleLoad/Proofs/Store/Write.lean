import SampleLoad.Proofs.Rows.Batch
import SampleLoad.Proofs.Store.Memory

/-!
Writes to a store in memory, of batches with any number of entries. A write is carried out if every entry goes to
a container that is there and has rows of its width, or if there are no rows at all; then each container has its
rows of the batch appended, and otherwise no container changes.
-/

namespace SampleLoad

namespace StoredContainer

/-- The container with rows added behind those it has. -/
def extend (content : StoredContainer) (rows : List Row) : StoredContainer :=
  { content with rows := content.rows ++ rows.toArray }

@[simp]
theorem extend_nil (content : StoredContainer) : content.extend [] = content := by
  simp [extend]

@[simp]
theorem extend_extend (content : StoredContainer) (first second : List Row) :
    (content.extend first).extend second = content.extend (first ++ second) := by
  simp [extend]

end StoredContainer

namespace MemoryStore

/-! ### What a write asks for -/

/-- The container of an entry is there, and the rows are as wide as it has columns. -/
def Takes (containers : NameMap StoredContainer) (entry : String × Array Row) : Prop :=
  ∃ content, containers.find? entry.1 = some content ∧ ∀ row ∈ entry.2, row.width = content.schema.width

theorem accepts_eq_ok_iff (containers : NameMap StoredContainer) (name : String) (rows : Array Row) :
    accepts containers name rows = .ok () ↔ Takes containers (name, rows) := by
  rw [accepts, Takes]
  cases containers.find? name with
  | none => simp
  | some content =>
      have hany : rows.any (fun row => row.width ≠ content.schema.width) ↔
          ¬∀ row ∈ rows, row.width = content.schema.width := by
        rw [Array.any_eq_true']
        simp
      simp only [hany, Option.some.injEq, exists_eq_left']
      split
      · rename_i hwidth
        simp only [reduceCtorEq, hwidth]
      · rename_i hwidth
        exact ⟨fun _ => Classical.not_not.mp hwidth, fun _ => rfl⟩

theorem acceptsAll_eq_ok_iff (containers : NameMap StoredContainer) (entries : List (String × Array Row)) :
    acceptsAll containers entries = .ok () ↔ ∀ entry ∈ entries, Takes containers entry := by
  induction entries with
  | nil => simp [acceptsAll]
  | cons entry rest ih =>
      rw [List.forall_mem_cons, ← ih, ← accepts_eq_ok_iff, acceptsAll]
      cases accepts containers entry.1 entry.2 <;> simp

/-! ### What a write does -/

theorem find?_appendRows (containers : NameMap StoredContainer) (name other : String) (rows : Array Row) :
    (appendRows containers name rows).find? other =
      (containers.find? other).map (·.extend (if name = other then rows.toList else [])) := by
  rw [appendRows]
  by_cases hname : name = other
  · subst hname
    cases hfind : containers.find? name with
    | none => simp [hfind]
    | some content => simp [StoredContainer.extend]
  · cases hfind : containers.find? name with
    | none => simp [hname]
    | some content => simp [hname, NameMap.find?_insert_of_ne _ (Ne.symm hname)]

/-- Rows of entries written one after the other, as one container has them in the end. -/
theorem find?_foldl_appendRows (containers : NameMap StoredContainer) (entries : List (String × Array Row))
    (name : String) :
    (entries.foldl (fun cs (name, rows) => appendRows cs name rows) containers).find? name =
      (containers.find? name).map (·.extend (Batch.rowsIn name entries)) := by
  induction entries generalizing containers with
  | nil => simp [Batch.rowsIn]
  | cons entry rest ih =>
      rw [List.foldl_cons, ih, find?_appendRows, Option.map_map, Batch.rowsIn_cons]
      congr 1
      funext content
      exact content.extend_extend _ _

/-- A write is carried out as a whole: all containers of its entries take them, or it brings no rows. -/
theorem effect_write_ok_iff (containers : NameMap StoredContainer) (batch : Batch) :
    (effect containers (.write batch)).1 = .ok () ↔
      batch.isEmpty ∨ ∀ entry ∈ batch.entries, Takes containers entry := by
  rw [← acceptsAll_eq_ok_iff, effect]
  by_cases hempty : batch.isEmpty
  · simp [hempty]
  · cases acceptsAll containers batch.entries <;> simp [hempty]

/-- Then every container has its rows of the batch appended. -/
theorem find?_effect_write {containers : NameMap StoredContainer} {batch : Batch}
    (hok : (effect containers (.write batch)).1 = .ok ()) (name : String) :
    (effect containers (.write batch)).2.find? name =
      (containers.find? name).map (·.extend (batch.rowsOf name)) := by
  rw [effect] at hok ⊢
  by_cases hempty : batch.isEmpty
  · simp [hempty, Batch.rowsOf_of_isEmpty hempty]
  · rw [if_neg hempty] at hok ⊢
    cases haccepts : acceptsAll containers batch.entries with
    | error e =>
        rw [haccepts] at hok
        cases hok
    | ok accepted => exact find?_foldl_appendRows containers batch.entries name

/-- The rows of a batch that was written are as wide as their containers. -/
theorem width_of_effect_write {containers : NameMap StoredContainer} {batch : Batch}
    (hok : (effect containers (.write batch)).1 = .ok ()) {name : String} {content : StoredContainer}
    (hfind : containers.find? name = some content) : ∀ row ∈ batch.rowsOf name, row.width = content.schema.width := by
  intro row hrow
  rcases (effect_write_ok_iff containers batch).mp hok with hempty | htakes
  · rw [Batch.rowsOf_of_isEmpty hempty] at hrow
    cases hrow
  · obtain ⟨rows, hentry, hmem⟩ := Batch.mem_rowsOf hrow
    obtain ⟨taken, htaken, hwidth⟩ := htakes _ hentry
    obtain rfl : content = taken := Option.some.inj (hfind.symm.trans htaken)
    exact hwidth row hmem

/-- Rows of the right width for one container that is there are appended to it, and nothing else happens. -/
theorem effect_write_single {containers : NameMap StoredContainer} {name : String} {container : StoredContainer}
    (hfind : containers.find? name = some container) {rows : Array Row}
    (hwidth : ∀ row ∈ rows, row.width = container.schema.width) :
    ∃ after, effect containers (.write (.single name rows)) = (.ok (), after) ∧
      after.find? name = some { container with rows := container.rows ++ rows } ∧
      ∀ other, other ≠ name → after.find? other = containers.find? other := by
  have hok : (effect containers (.write (.single name rows))).1 = .ok () := by
    rw [effect_write_ok_iff, Batch.single_entries, List.forall_mem_singleton]
    exact .inr ⟨container, hfind, hwidth⟩
  refine ⟨_, Prod.ext hok rfl, ?_, ?_⟩
  · rw [find?_effect_write hok, hfind, Batch.rowsOf_single]
    simp [StoredContainer.extend]
  · intro other hne
    rw [find?_effect_write hok, Batch.rowsOf_single, if_neg (Ne.symm hne)]
    simp

end MemoryStore

end SampleLoad
