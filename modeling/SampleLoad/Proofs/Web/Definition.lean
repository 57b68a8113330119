import Mathlib.Data.List.Forall2
import SampleLoad.Proofs.Json.Text
import SampleLoad.Proofs.Schema.WellFormed
import SampleLoad.Web.Body

/-!
Definitions of containers. A definition says whether there is a key but not which column it is. In a valid schema
only the first column can be one, so nothing is lost: two definitions are the same exactly if name, kind and
columns are, with their keys. Main statement: `WebApi.containerInfo_tells_layout`.
-/

namespace SampleLoad

/-- The columns are alike but for how their values are made up. -/
def Column.AgreesWith (c d : Column) : Prop := c.name = d.name ∧ c.type = d.type ∧ c.isKey = d.isKey

/-- The schemas describe containers of one kind, column by column. -/
def Schema.SameLayout (s t : Schema) : Prop := s.kind = t.kind ∧ List.Forall₂ Column.AgreesWith s.columns t.columns

theorem ColumnType.wireName_inj {t u : ColumnType} : t.wireName = u.wireName ↔ t = u := by
  constructor
  · intro h
    have hread := congrArg ofWireName? h
    rw [ofWireName?_wireName, ofWireName?_wireName] at hread
    exact Option.some.inj hread
  · rintro rfl
    rfl

theorem ContainerKind.wireName_inj {k l : ContainerKind} : k.wireName = l.wireName ↔ k = l := by
  cases k <;> cases l <;> decide

/-! ### Where the key is -/

/-- A column behind the first is no key, so there is a key exactly if the first column is one. -/
theorem Schema.WellFormed.columns_eq {s : Schema} (h : s.WellFormed) :
    ∃ first rest, s.columns = first :: rest ∧ s.keyColumn?.isSome = first.isKey ∧ ∀ c ∈ rest, c.isKey = false := by
  obtain ⟨first, rest, hcolumns⟩ := List.exists_cons_of_ne_nil h.nonempty
  have hrest : ∀ c ∈ rest, c.isKey = false := by
    intro c hc
    obtain ⟨i, hi⟩ := List.mem_iff_getElem?.mp hc
    refine Bool.eq_false_iff.mpr fun hkey => ?_
    have hplace : s.columns[i + 1]? = some c := by rw [hcolumns, List.getElem?_cons_succ, hi]
    exact absurd (h.keyFirst (i + 1) c hplace hkey) (Nat.succ_ne_zero i)
  refine ⟨first, rest, hcolumns, ?_, hrest⟩
  rw [keyColumn?, hcolumns]
  cases hkey : first.isKey with
  | true => rw [List.find?_cons_of_pos hkey]; rfl
  | false =>
      rw [List.find?_cons_of_neg (by simp [hkey]), List.find?_eq_none.mpr fun c hc => by simp [hrest c hc]]
      rfl

namespace WebApi

/-- What is told of a column: its name and its type. -/
theorem columnInfos_eq_iff (columns others : List Column) :
    (columns.map fun c => Json.obj [("name", .str c.name), ("type", .str c.type.wireName)]) =
        (others.map fun c => Json.obj [("name", .str c.name), ("type", .str c.type.wireName)]) ↔
      List.Forall₂ (fun c d => c.name = d.name ∧ c.type = d.type) columns others := by
  rw [← List.forall₂_eq_eq_eq, List.forall₂_map_left_iff, List.forall₂_map_right_iff]
  simp only [Json.obj.injEq, List.cons.injEq, Prod.mk.injEq, Json.str.injEq, true_and, and_true,
    ColumnType.wireName_inj]

theorem containerInfo_eq_iff (a b : String) (s t : Schema) :
    containerInfo a s = containerInfo b t ↔
      a = b ∧ s.kind = t.kind ∧ s.keyColumn?.isSome = t.keyColumn?.isSome ∧
        List.Forall₂ (fun c d => c.name = d.name ∧ c.type = d.type) s.columns t.columns := by
  unfold containerInfo
  simp only [Json.obj.injEq, List.cons.injEq, Prod.mk.injEq, Json.str.injEq, Json.bool.injEq, Json.arr.injEq,
    true_and, and_true, ContainerKind.wireName_inj, columnInfos_eq_iff]

/-- A definition has no numbers at all. -/
theorem containerInfo_plain (name : String) (schema : Schema) : (containerInfo name schema).Plain := by
  have hcolumns : Json.Plain (.arr (schema.columns.map fun c =>
      .obj [("name", .str c.name), ("type", .str c.type.wireName)])) := by
    refine .arr fun item hitem => ?_
    obtain ⟨c, -, rfl⟩ := List.mem_map.mp hitem
    refine .obj (show ["name", "type"].Nodup by decide) ?_
    simp only [List.forall_mem_cons, List.not_mem_nil, false_imp_iff, implies_true, and_true]
    exact ⟨.str _, .str _⟩
  refine .obj (show ["container_name", "container_type", "rowkey", "columns"].Nodup by decide) ?_
  simp only [List.forall_mem_cons, List.not_mem_nil, false_imp_iff, implies_true, and_true]
  exact ⟨.str _, .str _, .bool _, hcolumns⟩

theorem containerInfo_print_inj {a b : String} {s t : Schema} :
    (containerInfo a s).print = (containerInfo b t).print ↔ containerInfo a s = containerInfo b t := by
  constructor
  · intro h
    have hread := congrArg Json.parse? h
    rw [(containerInfo_plain a s).parse?_print, (containerInfo_plain b t).parse?_print] at hread
    exact Option.some.inj hread
  · intro h
    rw [h]

theorem agree_of_no_key {columns others : List Column} (hcolumns : ∀ c ∈ columns, c.isKey = false)
    (hothers : ∀ c ∈ others, c.isKey = false)
    (h : List.Forall₂ (fun c d => c.name = d.name ∧ c.type = d.type) columns others) :
    List.Forall₂ Column.AgreesWith columns others := by
  induction h with
  | nil => exact .nil
  | cons hfirst hrest ih =>
      obtain ⟨hc, hcolumns⟩ := List.forall_mem_cons.mp hcolumns
      obtain ⟨hd, hothers⟩ := List.forall_mem_cons.mp hothers
      exact .cons ⟨hfirst.1, hfirst.2, hc.trans hd.symm⟩ (ih hcolumns hothers)

/-- That there is a key tells of all columns whether they are keys. -/
theorem sameLayout_iff {s t : Schema} (hs : s.WellFormed) (ht : t.WellFormed) :
    s.SameLayout t ↔ s.kind = t.kind ∧ s.keyColumn?.isSome = t.keyColumn?.isSome ∧
      List.Forall₂ (fun c d => c.name = d.name ∧ c.type = d.type) s.columns t.columns := by
  obtain ⟨first, rest, hcolumns, hkey, hrest⟩ := hs.columns_eq
  obtain ⟨head, tail, hothers, hother, htail⟩ := ht.columns_eq
  rw [Schema.SameLayout, hcolumns, hothers, hkey, hother, List.forall₂_cons, List.forall₂_cons]
  constructor
  · rintro ⟨hkind, ⟨hname, htype, hsame⟩, hagree⟩
    exact ⟨hkind, hsame, ⟨hname, htype⟩, hagree.imp fun c d h => ⟨h.1, h.2.1⟩⟩
  · rintro ⟨hkind, hsame, ⟨hname, htype⟩, hagree⟩
    exact ⟨hkind, ⟨hname, htype, hsame⟩, agree_of_no_key hrest htail hagree⟩

/-- What the definition of a valid schema says of its key. -/
theorem rowkey_iff {s : Schema} (hs : s.WellFormed) (name : String) :
    ((containerInfo name s).field? "rowkey" = some (.bool true) ↔
        ∀ (i : Nat) (c : Column), s.columns[i]? = some c → (c.isKey = true ↔ i = 0)) ∧
      ((containerInfo name s).field? "rowkey" = some (.bool false) ↔ ∀ c ∈ s.columns, c.isKey = false) := by
  obtain ⟨first, rest, hcolumns, hkey, hrest⟩ := hs.columns_eq
  have hfield : (containerInfo name s).field? "rowkey" = some (.bool first.isKey) := by
    rw [← hkey]
    rfl
  rw [hfield, hcolumns]
  simp only [Option.some.injEq, Json.bool.injEq]
  constructor
  · constructor
    · intro hfirst i c hc
      cases i with
      | zero =>
          cases hc
          simp [hfirst]
      | succ i => simp [hrest c (List.mem_of_getElem? hc)]
    · intro h
      exact (h 0 first rfl).mpr rfl
  · rw [List.forall_mem_cons]
    exact ⟨fun hfirst => ⟨hfirst, hrest⟩, And.left⟩

/-- Two valid schemas are defined alike under two names exactly if the names are the same, and kinds and columns
with their keys are too; so are the texts that are sent. There is a key exactly if the first column is it and no
other. -/
theorem containerInfo_tells_layout {s t : Schema} (hs : s.validate = .ok ()) (ht : t.validate = .ok ())
    (a b : String) :
    (containerInfo a s = containerInfo b t ↔ a = b ∧ s.SameLayout t) ∧
      ((containerInfo a s).print = (containerInfo b t).print ↔ a = b ∧ s.SameLayout t) ∧
      ((containerInfo a s).field? "rowkey" = some (.bool true) ↔
        ∀ (i : Nat) (c : Column), s.columns[i]? = some c → (c.isKey = true ↔ i = 0)) ∧
      ((containerInfo a s).field? "rowkey" = some (.bool false) ↔ ∀ c ∈ s.columns, c.isKey = false) := by
  have hsForm := Schema.wellFormed_of_validate hs
  have htForm := Schema.wellFormed_of_validate ht
  have heq : containerInfo a s = containerInfo b t ↔ a = b ∧ s.SameLayout t := by
    rw [containerInfo_eq_iff, sameLayout_iff hsForm htForm]
  exact ⟨heq, containerInfo_print_inj.trans heq, rowkey_iff hsForm a⟩

/-- A collection with two columns, of which the first may be the key. -/
def pairSchema (name : String) (isKey : Bool) (strategy : Strategy) : Schema where
  name := name
  kind := .collection
  columns := [
    { name := "id", position := 0, type := .string, isKey, strategy },
    { name := "count", position := 1, type := .integer, strategy := .uniformInt 10 0 }]

/-- Templates and strategies do not show in a definition, and the key does. -/
theorem containerInfo_tells_layout_pairs :
    let keyed := pairSchema "keyed" true (.token "t" 1 5)
    let other := pairSchema "other" true (.alphanumeric 8)
    let keyless := pairSchema "keyless" false (.alphanumeric 8)
    keyed.validate = .ok () ∧ other.validate = .ok () ∧ keyless.validate = .ok () ∧
      (containerInfo "c" keyed).print = (containerInfo "c" other).print ∧
      (containerInfo "c" keyed).print ≠ (containerInfo "c" keyless).print := by
  intro keyed other keyless
  have hkeyed : keyed.validate = .ok () := by decide
  have hother : other.validate = .ok () := by decide
  have hkeyless : keyless.validate = .ok () := by decide
  have hsame : keyed.SameLayout other := ⟨rfl, .cons ⟨rfl, rfl, rfl⟩ (.cons ⟨rfl, rfl, rfl⟩ .nil)⟩
  refine ⟨hkeyed, hother, hkeyless, ?_, ?_⟩
  · exact (containerInfo_tells_layout hkeyed hother "c" "c").2.1.mpr ⟨rfl, hsame⟩
  · intro h
    obtain ⟨-, -, hcolumns⟩ := (containerInfo_tells_layout hkeyed hkeyless "c" "c").2.1.mp h
    obtain ⟨⟨-, -, hkey⟩, -⟩ := List.forall₂_cons.mp hcolumns
    exact absurd hkey (by decide)

end WebApi

end SampleLoad
