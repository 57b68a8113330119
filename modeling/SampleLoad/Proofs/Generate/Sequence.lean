import SampleLoad.Proofs.Generate.Outcomes

/-!
Row sequences that are asked for one item after the other, also behind their end. Each item is the row of its cursor, or
the error in its place, drawn from the source as the items before left it. The cursor never passes the count, so what is
said to remain is what is yet to come. Main statement: `RowSequence.yields_item_of_each_cursor`.
-/

namespace SampleLoad

namespace RowGenerator

/-- An item starts from the source that the item before left behind. -/
theorem getElem?_itemsFrom_source (g : RowGenerator) (schema : Schema) {count index : Nat} (hindex : index < count)
    (cursor : Nat) (source : RandomSource) :
    (g.itemsFrom schema count cursor source)[index]? =
      some (g.rowAt schema (cursor + index) (g.sourceFrom schema index cursor source)).1 := by
  induction index generalizing count cursor source with
  | zero =>
      obtain ⟨rest, rfl⟩ : ∃ rest, count = rest + 1 := ⟨count - 1, by omega⟩
      rfl
  | succ index ih =>
      obtain ⟨rest, rfl⟩ : ∃ rest, count = rest + 1 := ⟨count - 1, by omega⟩
      rw [itemsFrom, List.getElem?_cons_succ, ih (by omega), sourceFrom, Nat.add_right_comm, Nat.add_assoc]

/-- A range was checked not to be empty before anything is drawn from it. -/
theorem drawColumns_ne_emptyRange {columns : List Column} {time? : Option Instant}
    (htime : ∀ c ∈ columns, c.type = .timestamp → ∃ t, time? = some t) (schemaName : String) (source : RandomSource)
    (column : String) : (drawColumns schemaName time? columns source).1 ≠ .error (.emptyRange column) := by
  intro h
  rcases served_or_firstUnserved columns with hserved | ⟨c, fault, before, after, rfl, hbefore, hc⟩
  · obtain ⟨values, hvalues, -⟩ := drawColumns_of_check hserved htime schemaName source
    cases h.symm.trans hvalues
  · rw [drawColumns_of_unserved hbefore hc fun b hb => htime b (List.mem_append_left _ hb)] at h
    cases h

theorem rowAt_ne_emptyRange (g : RowGenerator) (schema : Schema) (cursor : Nat) (source : RandomSource)
    (column : String) : (g.rowAt schema cursor source).1 ≠ .error (.emptyRange column) := by
  intro h
  by_cases htime : schema.HasTime → ∃ t, g.timeAt cursor = .ok t
  · rw [g.rowAt_eq htime] at h
    cases hvalues : (drawColumns schema.name (g.timeAt cursor).toOption schema.columns source).1 with
    | ok values =>
        rw [hvalues] at h
        cases h
    | error e =>
        rw [hvalues] at h
        cases h
        exact drawColumns_ne_emptyRange (g.toOption_timeAt htime) schema.name source column hvalues
  · obtain ⟨hhas, hnone⟩ := Classical.not_imp.mp htime
    rw [g.rowAt_of_no_time hhas hnone] at h
    cases h

end RowGenerator

namespace RowSequence

/-- The answers to so many requests for the next item, and what is left. Requests are also made behind the end. -/
def ask : (requests : Nat) → RowSequence → RandomSource →
    List (Option (Except GeneratorError Row)) × RowSequence × RandomSource
  | 0, r, source => ([], r, source)
  | requests + 1, r, source =>
    let (answer, r, source) := r.next source
    let (answers, r, source) := ask requests r source
    (answer :: answers, r, source)

theorem next_of_end {r : RowSequence} (hend : r.count ≤ r.cursor) (source : RandomSource) :
    r.next source = (none, r, source) := by
  rw [next, if_pos hend]

theorem next_of_more {r : RowSequence} (hmore : r.cursor < r.count) (source : RandomSource) :
    r.next source =
      (some (r.generator.rowAt r.schema r.cursor source).1, { r with cursor := r.cursor + 1 },
        (r.generator.rowAt r.schema r.cursor source).2) := by
  rw [next, if_neg (Nat.not_le.mpr hmore)]

/-- Behind the end every request is answered in the same way, and nothing is drawn for it. -/
theorem ask_of_end {r : RowSequence} (hend : r.count ≤ r.cursor) (requests : Nat) (source : RandomSource) :
    ask requests r source = (List.replicate requests none, r, source) := by
  induction requests with
  | zero => rfl
  | succ requests ih =>
      rw [ask, next_of_end hend]
      simp only [ih]
      rfl

/-- Requests are answered by the items that remain, and then by none. -/
theorem ask_eq (requests : Nat) (r : RowSequence) (source : RandomSource) :
    ask requests r source =
      ((r.generator.itemsFrom r.schema (min requests r.remaining) r.cursor source).map some ++
          List.replicate (requests - r.remaining) none,
        { r with cursor := r.cursor + min requests r.remaining },
        r.generator.sourceFrom r.schema (min requests r.remaining) r.cursor source) := by
  induction requests generalizing r source with
  | zero =>
      rw [Nat.zero_min, Nat.zero_sub]
      rfl
  | succ requests ih =>
      by_cases hend : r.count ≤ r.cursor
      · have hnone : r.remaining = 0 := Nat.sub_eq_zero_of_le hend
        rw [ask_of_end hend, hnone, Nat.min_zero]
        rfl
      · have hmore : r.cursor < r.count := by omega
        have hmin : min (requests + 1) r.remaining = min requests (r.count - (r.cursor + 1)) + 1 := by
          rw [remaining]
          omega
        have hleft : requests + 1 - r.remaining = requests - (r.count - (r.cursor + 1)) := by
          rw [remaining]
          omega
        rw [ask, next_of_more hmore, hmin, hleft]
        simp only [ih, remaining, RowGenerator.itemsFrom, RowGenerator.sourceFrom, List.map_cons, List.cons_append]
        rw [Nat.add_right_comm, Nat.add_assoc]

section New

variable (g : RowGenerator) (schema : Schema) (count : Nat) (source : RandomSource) (requests : Nat)

theorem ask_new :
    ask requests { generator := g, schema, count } source =
      ((g.itemsFrom schema (min requests count) 0 source).map some ++ List.replicate (requests - count) none,
        { generator := g, schema, count, cursor := min requests count },
        g.sourceFrom schema (min requests count) 0 source) := by
  rw [ask_eq]
  simp only [remaining, Nat.sub_zero, Nat.zero_add]

theorem length_ask_new : (ask requests { generator := g, schema, count } source).1.length = requests := by
  rw [ask_new, List.length_append, List.length_map, RowGenerator.itemsFrom_length, List.length_replicate]
  omega

theorem getElem?_ask_new {i : Nat} (hi : i < requests) :
    (ask requests { generator := g, schema, count } source).1[i]? =
      some (if i < count then some (g.rowAt schema i (g.sourceFrom schema i 0 source)).1 else none) := by
  have hlength : ((g.itemsFrom schema (min requests count) 0 source).map some).length = min requests count := by simp
  rw [ask_new]
  by_cases hcount : i < count
  · have hitem := g.getElem?_itemsFrom_source schema (show i < min requests count by omega) 0 source
    rw [List.getElem?_append_left (by omega), List.getElem?_map, hitem, if_pos hcount, Nat.zero_add]
    rfl
  · rw [List.getElem?_append_right (by omega), List.getElem?_replicate, if_pos (by omega), if_neg hcount]

end New

/-- However often a sequence is asked: the answers are, for each cursor below the count in turn, the row at the cursor
or the error in its place, drawn from the source that the items before left, and none from then on. Whether items are
errors makes no difference to the number of them, and none stands for a draw that cannot be made. What remains is the
count less the items given, which are never more; and once nothing does, a request changes neither the sequence nor the
source. -/
theorem yields_item_of_each_cursor (g : RowGenerator) (schema : Schema) (count : Nat) (source : RandomSource)
    (requests : Nat) :
    let asked := ask requests { generator := g, schema, count } source
    let answers := asked.1
    let rest := asked.2.1
    let left := asked.2.2
    answers.length = requests ∧
      (∀ i < requests, answers[i]? =
        some (if i < count then some (g.rowAt schema i (g.sourceFrom schema i 0 source)).1 else none)) ∧
      left = g.sourceFrom schema (min requests count) 0 source ∧
      rest.cursor = min requests count ∧ rest.cursor ≤ rest.count ∧
      rest.remaining = count - requests ∧
      (count ≤ requests → rest.next left = (none, rest, left)) ∧
      ∀ (i : Nat) (column : String), answers[i]? ≠ some (some (.error (.emptyRange column))) := by
  intro asked answers rest left
  have hlength : answers.length = requests := length_ask_new g schema count source requests
  have hanswer {i : Nat} (hi : i < requests) : answers[i]? = _ := getElem?_ask_new g schema count source requests hi
  have hrest : rest = { generator := g, schema, count, cursor := min requests count } :=
    congrArg (fun asked => asked.2.1) (ask_new g schema count source requests)
  have hleft : left = g.sourceFrom schema (min requests count) 0 source :=
    congrArg (fun asked => asked.2.2) (ask_new g schema count source requests)
  have hbound : rest.cursor ≤ rest.count := by
    rw [hrest]
    exact Nat.min_le_right requests count
  refine ⟨hlength, fun i hi => hanswer hi, hleft, congrArg cursor hrest, hbound, ?_, ?_, ?_⟩
  · rw [hrest]
    show count - min requests count = count - requests
    omega
  · intro hend
    refine next_of_end ?_ left
    rw [hrest]
    exact Nat.le_min.mpr ⟨hend, Nat.le_refl count⟩
  · intro i column h
    have hi : i < requests := hlength ▸ (List.getElem?_eq_some_iff.mp h).1
    rw [hanswer hi] at h
    split at h
    · exact g.rowAt_ne_emptyRange schema i _ column (Option.some.inj (Option.some.inj h))
    · cases h

end RowSequence

end SampleLoad
