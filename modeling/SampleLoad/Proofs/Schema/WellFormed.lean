import SampleLoad.Proofs.Schema.Validity

/-!
What makes a schema valid, said without the order in which it is checked: columns at their positions, names
that differ, strategies that serve, and keys as the kind of container wants them. Main statement:
`Schema.validate_decides_wellFormed`. A schema that is refused has the fault that is reported, and no sum or
difference that the check forms leaves the 32-bit integers.
-/

namespace SampleLoad

/-- The number below, where there is one. -/
def predInRange? (n : Int32) : Option Int32 := int32OfInt? (n.toInt - 1)

namespace Strategy

/-- `check`, with the step down from the bound left open. Where that step has no result, nor has the check. -/
def checkWith? (pred? : Int32 → Option Int32) (s : Strategy) (t : ColumnType) :
    Option (Except StrategyFault Unit) :=
  if s.fits t then
    match s with
    | uniformInt bound bias =>
      if bound ≤ 0 then some (.error (.boundNotPositive bound))
      else (pred? bound).map fun largest =>
        if (addInRange? largest bias).isNone then .error (.beyondInteger bound bias) else .ok ()
    | token _ _ spread => some (if spread ≤ 0 then .error (.spreadNotPositive spread) else .ok ())
    | _ => some (.ok ())
  else some (.error (.unfit s t))

theorem checkWith?_wrapping (s : Strategy) (t : ColumnType) :
    s.checkWith? (fun n => some (n - 1)) t = some (s.check t) := by
  unfold checkWith? check
  split
  · cases s with
    | uniformInt bound bias => simp only [Option.map_some]; split <;> rfl
    | _ => rfl
  · rfl

/-- The step is made from positive bounds only. -/
theorem checkWith?_congr {pred? other? : Int32 → Option Int32}
    (h : ∀ n : Int32, 0 < n.toInt → pred? n = other? n) (s : Strategy) (t : ColumnType) :
    s.checkWith? pred? t = s.checkWith? other? t := by
  unfold checkWith?
  split
  · cases s with
    | uniformInt bound bias =>
        by_cases hbound : bound ≤ 0
        · simp only [if_pos hbound]
        · rw [le_zero_iff_toInt] at hbound
          simp only [h bound (by omega)]
    | _ => rfl
  · rfl

theorem predInRange?_of_pos {n : Int32} (hn : 0 < n.toInt) : predInRange? n = some (n - 1) := by
  have hmax : n.toInt < 2147483648 := n.toInt_lt
  have hpred : Int32.ofInt (n.toInt - 1) = n - 1 := by
    rw [← toInt_pred hn, Int32.ofInt_toInt]
  rw [predInRange?, int32OfInt?, if_pos (by omega), hpred]

/-- The check never leaves the 32-bit integers. -/
theorem checkWith?_inRange (s : Strategy) (t : ColumnType) :
    s.checkWith? predInRange? t = some (s.check t) := by
  rw [checkWith?_congr (fun _ hn => predInRange?_of_pos hn), checkWith?_wrapping]

end Strategy

namespace Schema

/-! ### What is asked of a schema -/

def keys (s : Schema) : List Column := s.columns.filter (·.isKey)

/-- How many keys a container has, and what a key holds. -/
def KeysFit : ContainerKind → List Column → Prop
  | .collection, keys => keys.length ≤ 1
  | .timeSeries, keys => keys.length = 1 ∧ ∀ key ∈ keys, key.type = .timestamp

structure WellFormed (s : Schema) : Prop where
  nonempty : s.columns ≠ []
  inPlace : ∀ (i : Nat) (c : Column), s.columns[i]? = some c → c.position.toNat = i
  distinct : s.columnNames.Nodup
  served : ∀ c ∈ s.columns, c.strategy.fits c.type ∧ c.strategy.HasRange
  keyFirst : ∀ (i : Nat) (c : Column), s.columns[i]? = some c → c.isKey → i = 0
  keysFit : KeysFit s.kind s.keys

/-- The faults that a check reports, each where the schema has it. -/
inductive HasFault (s : Schema) : SchemaFault → Prop where
  | noColumns (h : s.columns = []) : HasFault s .noColumns
  | misplaced {i : Nat} {c : Column} (hc : s.columns[i]? = some c) (h : c.position.toNat ≠ i) :
    HasFault s (.misplaced c.name c.position i)
  | duplicateName {i j : Nat} {c d : Column} (hij : i < j) (hc : s.columns[i]? = some c)
    (hd : s.columns[j]? = some d) (h : c.name = d.name) : HasFault s (.duplicateName d.name)
  | strategy {c : Column} {fault : StrategyFault} (hc : c ∈ s.columns)
    (h : c.strategy.check c.type = .error fault) : HasFault s (.strategy c.name fault)
  | manyKeys (hkind : s.kind = .collection) (h : 1 < s.keys.length) : HasFault s (.manyKeys s.keys.length)
  | keyNotFirst {c : Column} (hkind : s.kind = .collection) (hc : c ∈ s.keys) (h : c.position ≠ 0) :
    HasFault s (.keyNotFirst c.name c.position)
  | keyCount (hkind : s.kind = .timeSeries) (h : s.keys.length ≠ 1) : HasFault s (.keyCount s.keys.length)
  | keyNotTime {c : Column} (hkind : s.kind = .timeSeries) (hc : c ∈ s.keys)
    (h : c.position ≠ 0 ∨ c.type ≠ .timestamp) : HasFault s (.keyNotTime c.name)

/-! ### Columns one by one -/

/-- Positions counted on behind a column. -/
theorem inPlace_cons_iff (index : Nat) (c : Column) (rest : List Column) :
    (∀ (i : Nat) (d : Column), (c :: rest)[i]? = some d → d.position.toNat = index + i) ↔
      c.position.toNat = index ∧
        ∀ (i : Nat) (d : Column), rest[i]? = some d → d.position.toNat = index + 1 + i := by
  constructor
  · intro h
    refine ⟨h 0 c rfl, ?_⟩
    intro i d hd
    have hnext := h (i + 1) d hd
    omega
  · rintro ⟨hc, hrest⟩ i d hd
    cases i with
    | zero =>
        obtain rfl : c = d := Option.some.inj hd
        exact hc
    | succ i =>
        have hnext := hrest i d hd
        omega

/-- The columns from an index on pass, behind columns with names already seen. -/
theorem checkColumns_eq_ok_iff (index : Nat) (seen : List String) (columns : List Column) :
    checkColumns index seen columns = .ok () ↔
      (∀ (i : Nat) (c : Column), columns[i]? = some c → c.position.toNat = index + i) ∧
        ((columns.map (·.name)).Nodup ∧ ∀ c ∈ columns, c.name ∉ seen) ∧
          ∀ c ∈ columns, c.strategy.check c.type = .ok () := by
  induction columns generalizing index seen with
  | nil => simp [checkColumns]
  | cons c rest ih =>
      have hnames : ((c :: rest).map (·.name)).Nodup ∧ (∀ d ∈ c :: rest, d.name ∉ seen) ↔
          c.name ∉ seen ∧ (rest.map (·.name)).Nodup ∧ ∀ d ∈ rest, d.name ∉ c.name :: seen := by
        rw [List.map_cons, List.nodup_cons, List.forall_mem_cons]
        simp only [List.mem_map, List.mem_cons, not_or, not_exists, not_and]
        constructor
        · rintro ⟨⟨hfresh, hnodup⟩, hc, hrest⟩
          exact ⟨hc, hnodup, fun d hd => ⟨hfresh d hd, hrest d hd⟩⟩
        · rintro ⟨hc, hnodup, hrest⟩
          exact ⟨⟨fun d hd => (hrest d hd).1, hnodup⟩, hc, fun d hd => (hrest d hd).2⟩
      rw [checkColumns_cons_eq_ok_iff, ih, inPlace_cons_iff, hnames, List.forall_mem_cons]
      constructor
      · rintro ⟨hplace, hc, hcheck, hplaces, hrest, hchecks⟩
        exact ⟨⟨hplace, hplaces⟩, ⟨hc, hrest⟩, hcheck, hchecks⟩
      · rintro ⟨⟨hplace, hplaces⟩, ⟨hc, hrest⟩, hcheck, hchecks⟩
        exact ⟨hplace, hc, hcheck, hplaces, hrest, hchecks⟩

/-- The fault of the first column that does not pass is one of the schema. `past` are the columns before. -/
theorem hasFault_of_checkColumns {s : Schema} (past : List Column) {columns : List Column} {fault : SchemaFault}
    (hcolumns : s.columns = past ++ columns) {seen : List String}
    (hseen : ∀ name ∈ seen, ∃ c ∈ past, c.name = name)
    (h : checkColumns past.length seen columns = .error fault) : s.HasFault fault := by
  induction columns generalizing past seen with
  | nil => cases h
  | cons c rest ih =>
      have hc : s.columns[past.length]? = some c := by
        rw [hcolumns]
        simp
      have hmem : c ∈ s.columns := List.mem_of_getElem? hc
      unfold checkColumns at h
      split at h
      · rename_i hplace
        cases h
        exact .misplaced hc hplace
      · split at h
        · rename_i hname
          cases h
          obtain ⟨d, hd, hsame⟩ := hseen c.name hname
          obtain ⟨i, hi, hget⟩ := List.mem_iff_getElem.mp hd
          have hearlier : s.columns[i]? = some d := by
            rw [hcolumns, List.getElem?_append_left hi, List.getElem?_eq_getElem hi, hget]
          exact .duplicateName hi hearlier hc hsame
        · split at h
          · rename_i hcheck
            cases h
            exact .strategy hmem hcheck
          · apply ih (past ++ [c]) (by rw [hcolumns, List.append_assoc]; rfl) ?_ (by simpa using h)
            intro name hname
            rcases List.mem_cons.mp hname with rfl | hbefore
            · exact ⟨c, by simp, rfl⟩
            · obtain ⟨d, hd, hsame⟩ := hseen name hbefore
              exact ⟨d, by simp [hd], hsame⟩

/-! ### Keys -/

theorem checkKeys_eq_ok_iff (kind : ContainerKind) (keys : List Column) :
    checkKeys kind keys = .ok () ↔ KeysFit kind keys ∧ ∀ key ∈ keys, key.position = 0 := by
  cases kind with
  | collection =>
      rw [checkKeys, KeysFit]
      by_cases hmany : 1 < keys.length
      · simp [hmany, Nat.not_le.mpr hmany]
      · rw [if_neg hmany, and_iff_right (Nat.not_lt.mp hmany)]
        cases hfound : keys.find? (·.position ≠ 0) with
        | none => simpa using hfound
        | some key =>
            have hmem := List.mem_of_find?_eq_some hfound
            have hfar : key.position ≠ 0 := by simpa using List.find?_some hfound
            simp only [reduceCtorEq, false_iff]
            intro hzero
            exact hfar (hzero key hmem)
  | timeSeries =>
      match keys with
      | [] => simp [checkKeys, KeysFit]
      | [key] =>
          by_cases hplace : key.position = 0
          · simp [checkKeys, KeysFit, hplace]
          · simp [checkKeys, KeysFit, hplace]
      | key :: other :: rest => simp [checkKeys, KeysFit]

/-- Where columns stand in their places, a key at position 0 is the first column. -/
theorem keyFirst_iff {s : Schema}
    (hplaces : ∀ (i : Nat) (c : Column), s.columns[i]? = some c → c.position.toNat = i) :
    (∀ key ∈ s.keys, key.position = 0) ↔
      ∀ (i : Nat) (c : Column), s.columns[i]? = some c → c.isKey → i = 0 := by
  constructor
  · intro h i c hc hkey
    have hzero := h c (List.mem_filter.mpr ⟨List.mem_of_getElem? hc, hkey⟩)
    have hplace := hplaces i c hc
    rw [hzero] at hplace
    exact hplace.symm
  · intro h key hkey
    obtain ⟨hmem, hiskey⟩ := List.mem_filter.mp hkey
    obtain ⟨i, hi⟩ := List.mem_iff_getElem?.mp hmem
    have hplace := hplaces i key hi
    rw [h i key hi hiskey] at hplace
    exact UInt64.toNat.inj hplace

theorem hasFault_of_checkKeys {s : Schema} {fault : SchemaFault}
    (h : checkKeys s.kind s.keys = .error fault) : s.HasFault fault := by
  cases hkind : s.kind with
  | collection =>
      rw [hkind, checkKeys] at h
      split at h
      · rename_i hmany
        cases h
        exact .manyKeys hkind hmany
      · split at h
        · rename_i key hfound
          cases h
          apply HasFault.keyNotFirst hkind (List.mem_of_find?_eq_some hfound)
          simpa using List.find?_some hfound
        · cases h
  | timeSeries =>
      rw [hkind] at h
      unfold checkKeys at h
      split at h
      · rename_i heq
        cases heq
      · rename_i key _ hkeys
        split at h
        · rename_i hnot
          cases h
          have hmem : key ∈ s.keys := by simp [hkeys]
          exact .keyNotTime hkind hmem (by simpa using hnot)
        · cases h
      · rename_i hnot
        cases h
        apply HasFault.keyCount hkind
        intro hone
        obtain ⟨key, hkey⟩ := List.length_eq_one_iff.mp hone
        exact hnot key hkey

/-! ### The whole check -/

theorem check_eq_ok_iff_parts (s : Schema) :
    s.check = .ok () ↔
      s.columns ≠ [] ∧ checkColumns 0 [] s.columns = .ok () ∧ checkKeys s.kind s.keys = .ok () := by
  rw [check, keys]
  by_cases hempty : s.columns = []
  · simp [hempty]
  · cases hcheck : checkColumns 0 [] s.columns with
    | error fault => simp [hempty]
    | ok passed => simp [hempty]

theorem check_eq_ok_iff_wellFormed (s : Schema) : s.check = .ok () ↔ s.WellFormed := by
  have hserved : (∀ c ∈ s.columns, c.strategy.check c.type = .ok ()) ↔
      ∀ c ∈ s.columns, c.strategy.fits c.type ∧ c.strategy.HasRange := by
    simp [Strategy.check_eq_ok_iff, Strategy.fits]
  rw [check_eq_ok_iff_parts, checkColumns_eq_ok_iff, checkKeys_eq_ok_iff, hserved]
  simp only [Nat.zero_add, List.not_mem_nil, not_false_eq_true, implies_true, and_true]
  constructor
  · rintro ⟨hnonempty, ⟨hplaces, hdistinct, hserved⟩, hfit, hfirst⟩
    exact ⟨hnonempty, hplaces, hdistinct, hserved, (keyFirst_iff hplaces).mp hfirst, hfit⟩
  · intro h
    exact ⟨h.nonempty, ⟨h.inPlace, h.distinct, h.served⟩, h.keysFit, (keyFirst_iff h.inPlace).mpr h.keyFirst⟩

theorem wellFormed_of_validate {s : Schema} (hvalid : s.validate = .ok ()) : s.WellFormed := by
  apply s.check_eq_ok_iff_wellFormed.mp
  unfold validate at hvalid
  split at hvalid
  · cases hvalid
  · assumption

/-- A valid time series has a key: its first column, which holds timestamps. -/
theorem key_of_timeSeries {s : Schema} (hvalid : s.validate = .ok ()) (hkind : s.kind = .timeSeries) :
    ∃ key, s.columns[0]? = some key ∧ key.isKey = true ∧ key.type = .timestamp := by
  have hform := wellFormed_of_validate hvalid
  have hfit := hform.keysFit
  rw [hkind] at hfit
  obtain ⟨hlength, htime⟩ : s.keys.length = 1 ∧ ∀ key ∈ s.keys, key.type = .timestamp := hfit
  obtain ⟨key, hkey⟩ := List.length_eq_one_iff.mp hlength
  have hmem : key ∈ s.keys := hkey ▸ List.mem_singleton_self key
  obtain ⟨hcolumn, hisKey⟩ := List.mem_filter.mp hmem
  obtain ⟨i, hi⟩ := List.mem_iff_getElem?.mp hcolumn
  obtain rfl := hform.keyFirst i key hi hisKey
  exact ⟨key, hi, hisKey, htime key hmem⟩

theorem hasFault_of_check {s : Schema} {fault : SchemaFault} (h : s.check = .error fault) : s.HasFault fault := by
  unfold check at h
  split at h
  · rename_i hempty
    cases h
    exact .noColumns hempty
  · split at h
    · rename_i hcolumns
      cases h
      exact hasFault_of_checkColumns [] rfl (by simp) hcolumns
    · exact hasFault_of_checkKeys h

/-- A schema is valid exactly if it is well-formed. Otherwise the error names the schema, with a fault that it
has. The arithmetic of the check does not overflow. -/
theorem validate_decides_wellFormed (s : Schema) :
    (s.validate = .ok () ↔ s.WellFormed) ∧
      (¬s.WellFormed → ∃ fault, s.validate = .error (.mismatch s.name fault) ∧ s.HasFault fault) ∧
      ∀ c ∈ s.columns, c.strategy.checkWith? predInRange? c.type = some (c.strategy.check c.type) := by
  rw [← check_eq_ok_iff_wellFormed, validate]
  refine ⟨?_, ?_, fun c _ => c.strategy.checkWith?_inRange c.type⟩
  · cases s.check <;> simp
  · intro hnot
    cases hcheck : s.check with
    | ok passed => exact absurd hcheck hnot
    | error fault => exact ⟨fault, rfl, hasFault_of_check hcheck⟩

end Schema

end SampleLoad
