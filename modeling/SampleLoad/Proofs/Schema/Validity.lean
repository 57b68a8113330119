import SampleLoad.Schema.Validity

/-!
What a check that passes says. A strategy passes for a type exactly if its values have that type and it has a
range to draw from that ends within 32-bit integers; all sums are those of the integers themselves, so the
check itself stays in range. A schema that passes has such a strategy in every column.
-/

namespace SampleLoad

namespace Strategy

/-- There is a value to draw, and no value is too large. -/
def HasRange : Strategy → Prop
  | uniformInt bound bias => 0 < bound.toInt ∧ bound.toInt - 1 + bias.toInt ≤ 2147483647
  | token _ _ spread => 0 < spread.toInt
  | _ => True

theorem toInt_pred {bound : Int32} (hbound : 0 < bound.toInt) : (bound - 1).toInt = bound.toInt - 1 := by
  apply Int32.toInt_sub_of_le
  · decide
  · rw [Int32.le_iff_toInt_le]
    exact hbound

theorem addInRange?_isNone (a b : Int32) :
    (addInRange? a b).isNone ↔ a.toInt + b.toInt < -2147483648 ∨ 2147483647 < a.toInt + b.toInt := by
  unfold addInRange? int32OfInt?
  split
  · simp only [Option.isNone_some, Bool.false_eq_true, false_iff]
    omega
  · simp only [Option.isNone_none, true_iff]
    omega

theorem le_zero_iff_toInt (n : Int32) : n ≤ 0 ↔ n.toInt ≤ 0 := Int32.le_iff_toInt_le

/-- The check of a strategy against a type, in terms of the integers. -/
theorem check_eq_ok_iff (s : Strategy) (t : ColumnType) : s.check t = .ok () ↔ s.valueType = t ∧ s.HasRange := by
  unfold check fits
  by_cases hfits : s.valueType = t
  · rw [if_pos (decide_eq_true hfits)]
    cases s with
    | uniformInt bound bias =>
        have hbias := bias.le_toInt
        simp only [HasRange, hfits, true_and, le_zero_iff_toInt, addInRange?_isNone]
        by_cases hbound : 0 < bound.toInt
        · rw [if_neg (by omega), toInt_pred hbound]
          split
          · simp only [reduceCtorEq, false_iff]
            omega
          · simp only [true_iff]
            omega
        · rw [if_pos (by omega)]
          simp only [reduceCtorEq, false_iff]
          omega
    | token stem base spread =>
        simp only [HasRange, hfits, true_and, le_zero_iff_toInt]
        split
        · simp only [reduceCtorEq, false_iff]
          omega
        · simp only [true_iff]
          omega
    | _ => simp [HasRange, hfits]
  · rw [if_neg (by simpa using hfits)]
    simp [hfits]

end Strategy

namespace Schema

def HasTime (s : Schema) : Prop := ∃ c ∈ s.columns, c.type = .timestamp

theorem any_timestamp_iff (s : Schema) : s.columns.any (·.type = .timestamp) = true ↔ s.HasTime := by
  simp [HasTime]

theorem checkColumns_cons_eq_ok_iff (index : Nat) (seen : List String) (c : Column) (rest : List Column) :
    checkColumns index seen (c :: rest) = .ok () ↔
      c.position.toNat = index ∧ c.name ∉ seen ∧ c.strategy.check c.type = .ok () ∧
        checkColumns (index + 1) (c.name :: seen) rest = .ok () := by
  rw [checkColumns]
  by_cases hplace : c.position.toNat = index
  · by_cases hname : c.name ∈ seen
    · simp [hplace, hname]
    · cases hcheck : c.strategy.check c.type with
      | ok served => simp [hplace, hname]
      | error fault => simp [hplace, hname]
  · simp [hplace]

theorem check_of_checkColumns {index : Nat} {seen : List String} {columns : List Column}
    (h : checkColumns index seen columns = .ok ()) : ∀ c ∈ columns, c.strategy.check c.type = .ok () := by
  induction columns generalizing index seen with
  | nil => simp
  | cons column columns ih =>
      obtain ⟨-, -, hcheck, hrest⟩ := (checkColumns_cons_eq_ok_iff index seen column columns).mp h
      exact List.forall_mem_cons.mpr ⟨hcheck, ih hrest⟩

/-- Every column of a valid schema has a strategy that serves it. -/
theorem check_of_validate {s : Schema} (hvalid : s.validate = .ok ()) :
    ∀ c ∈ s.columns, c.strategy.check c.type = .ok () := by
  unfold validate check at hvalid
  split at hvalid
  · cases hvalid
  · rename_i hcheck
    split at hcheck
    · cases hcheck
    · split at hcheck
      · cases hcheck
      · rename_i hcolumns
        exact check_of_checkColumns hcolumns

theorem validate_error {s : Schema} {e : SchemaError} (h : s.validate = .error e) :
    ∃ fault, e = .mismatch s.name fault := by
  rw [validate] at h
  split at h
  · cases h
    exact ⟨_, rfl⟩
  · cases h

end Schema

end SampleLoad
