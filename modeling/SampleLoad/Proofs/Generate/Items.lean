import SampleLoad.Generate.RowGenerator

/-!
The items of a row sequence, without the bookkeeping of the sequence: one item for each cursor, each drawn
from the source that the item before left behind. An item that is an error ends what a reader of rows can
use, though the sequence itself goes on. Every row has one value for each column.
-/

namespace SampleLoad

namespace RowGenerator

/-- The items of `count` cursors from `cursor` on. -/
def itemsFrom (g : RowGenerator) (schema : Schema) :
    (count cursor : Nat) → RandomSource → List (Except GeneratorError Row)
  | 0, _, _ => []
  | count + 1, cursor, source =>
    (g.rowAt schema cursor source).1 ::
      g.itemsFrom schema count (cursor + 1) (g.rowAt schema cursor source).2

@[simp]
theorem itemsFrom_length (g : RowGenerator) (schema : Schema) (count cursor : Nat) (source : RandomSource) :
    (g.itemsFrom schema count cursor source).length = count := by
  induction count generalizing cursor source with
  | zero => rfl
  | succ count ih => rw [itemsFrom, List.length_cons, ih]

/-- The source as the items of `count` cursors from `cursor` on leave it. -/
def sourceFrom (g : RowGenerator) (schema : Schema) : (count cursor : Nat) → RandomSource → RandomSource
  | 0, _, source => source
  | count + 1, cursor, source => g.sourceFrom schema count (cursor + 1) (g.rowAt schema cursor source).2

/-- Fewer items are the first of more. -/
theorem take_itemsFrom (g : RowGenerator) (schema : Schema) {count total : Nat} (hcount : count ≤ total)
    (cursor : Nat) (source : RandomSource) :
    (g.itemsFrom schema total cursor source).take count = g.itemsFrom schema count cursor source := by
  induction count generalizing total cursor source with
  | zero => rfl
  | succ count ih =>
      obtain ⟨rest, rfl⟩ : ∃ rest, total = rest + 1 := ⟨total - 1, by omega⟩
      rw [itemsFrom, itemsFrom, List.take_succ_cons, ih (by omega)]

/-- The items of a sequence are those of its cursors. -/
theorem getElem?_itemsFrom (g : RowGenerator) (schema : Schema) {count index : Nat} (hindex : index < count)
    (cursor : Nat) (source : RandomSource) :
    ∃ before, (g.itemsFrom schema count cursor source)[index]? =
      some (g.rowAt schema (cursor + index) before).1 := by
  induction index generalizing count cursor source with
  | zero =>
      obtain ⟨rest, rfl⟩ : ∃ rest, count = rest + 1 := ⟨count - 1, by omega⟩
      exact ⟨source, rfl⟩
  | succ index ih =>
      obtain ⟨rest, rfl⟩ : ∃ rest, count = rest + 1 := ⟨count - 1, by omega⟩
      obtain ⟨before, hitem⟩ := ih (by omega : index < rest) (cursor + 1) (g.rowAt schema cursor source).2
      refine ⟨before, ?_⟩
      rw [itemsFrom, List.getElem?_cons_succ, hitem]
      exact congrArg (fun later => some (g.rowAt schema later before).1) (by omega)

theorem mem_itemsFrom {g : RowGenerator} {schema : Schema} {count cursor : Nat} {source : RandomSource}
    {item : Except GeneratorError Row} (h : item ∈ g.itemsFrom schema count cursor source) :
    ∃ cursor before, item = (g.rowAt schema cursor before).1 := by
  obtain ⟨index, hitem⟩ := List.mem_iff_getElem?.mp h
  have hindex : index < count := by
    rw [← g.itemsFrom_length schema count cursor source]
    exact (List.getElem?_eq_some_iff.mp hitem).1
  obtain ⟨before, hbefore⟩ := g.getElem?_itemsFrom schema hindex cursor source
  exact ⟨cursor + index, before, Option.some.inj (hitem.symm.trans hbefore)⟩

theorem drawColumns_length {schemaName : String} {time? : Option Instant} {columns : List Column}
    {source : RandomSource} {values : List Value}
    (h : (drawColumns schemaName time? columns source).1 = .ok values) :
    values.length = columns.length := by
  induction columns generalizing source values with
  | nil =>
      rw [drawColumns] at h
      cases h
      rfl
  | cons column columns ih =>
      rw [drawColumns] at h
      split at h
      · cases h
      · split at h
        · cases h
        · cases h
        · split at h
          · cases h
          · rename_i hrest
            cases h
            rw [List.length_cons, List.length_cons, ih (congrArg Prod.fst hrest)]

/-- A row is as wide as its schema. -/
theorem rowAt_width {g : RowGenerator} {schema : Schema} {cursor : Nat} {source : RandomSource} {row : Row}
    (h : (g.rowAt schema cursor source).1 = .ok row) : row.width = schema.width := by
  have hmap (time? : Option Instant)
      (h : (drawColumns schema.name time? schema.columns source).1.map Row.mk = .ok row) :
      row.width = schema.width := by
    cases hvalues : (drawColumns schema.name time? schema.columns source).1 with
    | error e =>
        rw [hvalues] at h
        cases h
    | ok values =>
        rw [hvalues] at h
        cases h
        exact drawColumns_length hvalues
  rw [rowAt] at h
  split at h
  · split at h
    · cases h
    · exact hmap _ h
  · exact hmap _ h

theorem itemsFrom_width {g : RowGenerator} {schema : Schema} {count cursor : Nat} {source : RandomSource}
    {row : Row} (h : .ok row ∈ g.itemsFrom schema count cursor source) : row.width = schema.width := by
  obtain ⟨cursor, before, hrow⟩ := mem_itemsFrom h
  exact rowAt_width hrow.symm

end RowGenerator

/-- Taking items one by one from a sequence gives those of its cursors, as many as there are. -/
theorem RowSequence.take_eq (limit : Nat) (r : RowSequence) (source : RandomSource) :
    RowSequence.take limit r source =
      (r.generator.itemsFrom r.schema (min limit r.remaining) r.cursor source,
        { r with cursor := r.cursor + min limit r.remaining },
        r.generator.sourceFrom r.schema (min limit r.remaining) r.cursor source) := by
  induction limit generalizing r source with
  | zero => rw [Nat.zero_min]; rfl
  | succ limit ih =>
      by_cases hend : r.count ≤ r.cursor
      · have hnone : r.remaining = 0 := Nat.sub_eq_zero_of_le hend
        rw [hnone, Nat.min_zero, take, next, if_pos hend]
        rfl
      · have hsome : min (limit + 1) r.remaining = min limit (r.count - (r.cursor + 1)) + 1 := by
          rw [remaining]
          omega
        have hcursor : r.cursor + (min limit (r.count - (r.cursor + 1)) + 1) =
            r.cursor + 1 + min limit (r.count - (r.cursor + 1)) := by omega
        rw [hsome, hcursor, RowGenerator.itemsFrom, RowGenerator.sourceFrom, take, next, if_neg hend]
        simp only [ih, remaining]

/-- Taking all items of a sequence. -/
theorem RowGenerator.take_all (g : RowGenerator) (schema : Schema) (count : Nat) (source : RandomSource) :
    RowSequence.take count { generator := g, schema, count } source =
      (g.itemsFrom schema count 0 source, { generator := g, schema, count, cursor := count },
        g.sourceFrom schema count 0 source) := by
  rw [RowSequence.take_eq, RowSequence.remaining, Nat.sub_zero, Nat.min_self, Nat.zero_add]

section UpToError

variable {ε α : Type}

/-- The values before the first error, and that error. -/
def upToError : List (Except ε α) → List α × Option ε
  | [] => ([], none)
  | .ok value :: rest => (value :: (upToError rest).1, (upToError rest).2)
  | .error e :: _ => ([], some e)

theorem upToError_map_ok (values : List α) :
    upToError (values.map (.ok : α → Except ε α)) = (values, none) := by
  induction values with
  | nil => rfl
  | cons value values ih => rw [List.map_cons, upToError, ih]

/-- What stands before the first error is a prefix; without an error it is everything. -/
theorem eq_of_upToError (items : List (Except ε α)) :
    items.take (upToError items).1.length = (upToError items).1.map .ok ∧
      items[(upToError items).1.length]? = (upToError items).2.map .error := by
  induction items with
  | nil => exact ⟨rfl, rfl⟩
  | cons item items ih =>
      cases item with
      | error e => exact ⟨rfl, rfl⟩
      | ok value =>
          rw [upToError, List.length_cons, List.take_succ_cons, List.getElem?_cons_succ, List.map_cons]
          exact ⟨congrArg _ ih.1, ih.2⟩

theorem mem_of_mem_upToError {items : List (Except ε α)} {value : α} (h : value ∈ (upToError items).1) :
    .ok value ∈ items := by
  have hmap : .ok value ∈ (upToError items).1.map (.ok : α → Except ε α) := List.mem_map_of_mem h
  rw [← (eq_of_upToError items).1] at hmap
  exact List.mem_of_mem_take hmap

/-- The first error among items, and where it stands. -/
structure FailsAt (items : List (Except ε α)) (index : Nat) (e : ε) : Prop where
  here : items[index]? = some (.error e)
  before : ∀ i < index, ∃ value, items[i]? = some (.ok value)

theorem failsAt_iff (items : List (Except ε α)) (index : Nat) (e : ε) :
    FailsAt items index e ↔ (upToError items).1.length = index ∧ (upToError items).2 = some e := by
  constructor
  · intro h
    induction items generalizing index with
    | nil => cases h.here
    | cons item items ih =>
        cases index with
        | zero =>
            cases h.here
            exact ⟨rfl, rfl⟩
        | succ index =>
            obtain ⟨value, hvalue⟩ := h.before 0 (Nat.succ_pos _)
            cases hvalue
            have hrest := ih index ⟨h.here, fun i hi => h.before (i + 1) (Nat.succ_lt_succ hi)⟩
            exact ⟨congrArg Nat.succ hrest.1, hrest.2⟩
  · rintro ⟨rfl, herror⟩
    obtain ⟨hvalues, hhere⟩ := eq_of_upToError items
    rw [herror] at hhere
    refine ⟨hhere, fun i hi => ⟨(upToError items).1[i], ?_⟩⟩
    rw [← List.getElem?_take_of_lt hi, hvalues, List.getElem?_map, List.getElem?_eq_getElem hi]
    rfl

end UpToError

end SampleLoad
