import Mathlib.Data.List.Forall2
import SampleLoad.Proofs.Json.Record
import SampleLoad.Proofs.Json.Text

/-!
The notations of a schema in JSON. A schema, its columns and their strategies are records, each of which may be an
object or an array by itself. `is_key` may be missing where it is false, and `bias` where it is zero. Whatever the
notation, the schema is read back from it, so that no value and no text stands for two schemas.
Main statement: `Schema.read_in_every_form`.
-/

namespace SampleLoad

open Json (Slot Records Fills Lists)

/-! ### Numbers -/

theorem int32OfInt?_toInt (n : Int32) : int32OfInt? n.toInt = some n := by
  have hlower : -2 ^ 31 ≤ n.toInt := n.le_toInt
  have hupper : n.toInt < 2 ^ 31 := n.toInt_lt
  rw [int32OfInt?, if_pos (by omega), Int32.ofInt_toInt]

theorem Json.natBelow?_of_lt {limit n : Nat} (h : n < limit) : (Json.whole n).natBelow? limit = some n := by
  simp only [natBelow?, whole?, Option.bind_some]
  rw [if_pos ⟨Int.natCast_nonneg n, Int.ofNat_lt.mpr h⟩, Int.toNat_natCast]

theorem Json.uint64?_toNat (n : UInt64) : (Json.whole n.toNat).uint64? = some n := by
  rw [uint64?, natBelow?_of_lt n.toNat_lt_size, Option.map_some, UInt64.ofNat_toNat]

theorem Parameter.uint64?_toNat (n : UInt64) : (Parameter.whole n.toNat).uint64? = some n := by
  have hlt : n.toNat < wordLimit := n.toNat_lt_size
  rw [uint64?, if_pos ⟨Int.natCast_nonneg _, Int.ofNat_lt.mpr hlt⟩, Int.toNat_natCast, UInt64.ofNat_toNat]

/-! ### Strategies -/

namespace Strategy

/-- The fields of a strategy: its name and its parameters, of which a bias of zero may be missing. -/
def slots (s : Strategy) : List Slot :=
  .of "type" (.str s.tag) :: match s with
    | uniformInt bound bias => [.of "bound" (.whole bound.toInt), .of "bias" (.whole bias.toInt) (bias = 0)]
    | s => s.parameters.map fun (name, value) => .of name value

def Notation (s : Strategy) (j : Json) : Prop := Records s.slots j

theorem slots_keys_nodup (s : Strategy) : (s.slots.map Slot.key).Nodup := by
  cases s <;> simp [slots, parameters, Slot.of]

theorem notation_toJson (s : Strategy) : s.Notation s.toJson := by
  refine Fills.records (.put rfl ?_)
  cases s with
  | uniformInt bound bias => exact .put rfl (.put rfl .nil)
  | token stem base spread => exact .put rfl (.put rfl (.put rfl .nil))
  | alphanumeric length => exact .put rfl .nil
  | _ => exact .nil

/-- A value with a known name is read by its parameters. -/
theorem ofJson?_eq {j : Json} {tag : String} {names : List String} (htype : j.member? "type" 0 = some (.str tag))
    (hnames : parameterNames? tag = some names) (hrecord : j.isRecord (names.length + 1) = true) :
    ofJson? j = ofParameters? tag fun name => (j.member? name (names.idxOf name + 1)).map Json.parameter := by
  simp only [ofJson?, htype, Json.str?, Option.bind_eq_bind, Option.bind_some, hnames, hrecord, if_true]

section Parameters

variable {parameter? : String → Option Parameter}

theorem ofParameters?_uniformInt {bound bias : Int32} (hbound : parameter? "bound" = some (.whole bound.toInt))
    (hbias : parameter? "bias" = some (.whole bias.toInt) ∨ parameter? "bias" = none ∧ bias = 0) :
    ofParameters? "uniform_int" parameter? = some (uniformInt bound bias) := by
  rw [ofParameters?, if_neg (by decide), if_pos rfl, hbound]
  rcases hbias with hbias | ⟨hbias, rfl⟩
  · simp only [hbias, Parameter.int32?, int32OfInt?_toInt, Option.bind_eq_bind, Option.bind_some]
  · simp only [hbias, Parameter.int32?, int32OfInt?_toInt, Option.bind_eq_bind, Option.bind_some]

theorem ofParameters?_token {stem : String} {base spread : Int32} (hstem : parameter? "prefix" = some (.text stem))
    (hbase : parameter? "base" = some (.whole base.toInt))
    (hspread : parameter? "spread" = some (.whole spread.toInt)) :
    ofParameters? "token" parameter? = some (token stem base spread) := by
  rw [ofParameters?, if_neg (by decide), if_neg (by decide), if_pos rfl, hstem, hbase, hspread]
  simp only [Parameter.int32?, Parameter.text?, int32OfInt?_toInt, Option.bind_eq_bind, Option.bind_some]

theorem ofParameters?_alphanumeric {length : UInt64} {p : Parameter} (hlength : parameter? "length" = some p)
    (hp : p.uint64? = some length) : ofParameters? "alphanumeric" parameter? = some (alphanumeric length) := by
  rw [ofParameters?, if_neg (by decide), if_neg (by decide), if_neg (by decide), if_pos rfl, hlength]
  simp only [hp, Option.bind_eq_bind, Option.bind_some]

end Parameters

theorem Notation.read {s : Strategy} {j : Json} (h : s.Notation j) : ofJson? j = some s := by
  have hkeys := s.slots_keys_nodup
  have htype : j.member? "type" 0 = some (.str s.tag) := Records.requiredField h hkeys 0 rfl
  have hrecord : j.isRecord s.slots.length = true := Records.isRecord h
  cases s with
  | uniformInt bound bias =>
      rw [ofJson?_eq htype rfl hrecord]
      refine ofParameters?_uniformInt ?_ ?_
      · exact congrArg (Option.map Json.parameter) (Records.requiredField h hkeys 1 rfl)
      · exact (Records.field h hkeys 2 rfl).imp (congrArg (Option.map Json.parameter))
          (And.imp_left (congrArg (Option.map Json.parameter)))
  | token stem base spread =>
      rw [ofJson?_eq htype rfl hrecord]
      refine ofParameters?_token ?_ ?_ ?_
      · exact congrArg (Option.map Json.parameter) (Records.requiredField h hkeys 1 rfl)
      · exact congrArg (Option.map Json.parameter) (Records.requiredField h hkeys 2 rfl)
      · exact congrArg (Option.map Json.parameter) (Records.requiredField h hkeys 3 rfl)
  | alphanumeric length =>
      rw [ofJson?_eq htype rfl hrecord]
      exact ofParameters?_alphanumeric (congrArg (Option.map Json.parameter) (Records.requiredField h hkeys 1 rfl))
        (Parameter.uint64?_toNat length)
  | _ =>
      rw [ofJson?_eq htype rfl hrecord]
      rfl

end Strategy

/-! ### Columns -/

namespace Column

def slots (c : Column) : List Slot :=
  [.of "name" (.str c.name), .of "position" (.whole c.position.toNat), .of "type" (.str c.type.wireName),
    .of "is_key" (.bool c.isKey) (c.isKey = false), { key := "strategy", Holds := c.strategy.Notation }]

def Notation (c : Column) (j : Json) : Prop := Records c.slots j

theorem slots_keys_nodup (c : Column) : (c.slots.map Slot.key).Nodup := by
  simp [slots, Slot.of]

theorem notation_toJson (c : Column) : c.Notation c.toJson :=
  Fills.records (.put rfl (.put rfl (.put rfl (.put rfl (.put c.strategy.notation_toJson .nil)))))

theorem Notation.read {c : Column} {j : Json} (h : c.Notation j) : ofJson? j = some c := by
  have hkeys := c.slots_keys_nodup
  have hrecord : j.isRecord 5 = true := Records.isRecord h
  have hname : j.member? "name" 0 = some (.str c.name) := Records.requiredField h hkeys 0 rfl
  obtain ⟨position, hposition, hnumber⟩ : ∃ value, j.member? "position" 1 = some value ∧
      value.uint64? = some c.position := ⟨_, Records.requiredField h hkeys 1 rfl, Json.uint64?_toNat c.position⟩
  have htype : j.member? "type" 2 = some (.str c.type.wireName) := Records.requiredField h hkeys 2 rfl
  obtain ⟨strategy, hstrategy, hnotation⟩ := Records.required h hkeys 4 _ rfl not_false
  have hstrategy : j.member? "strategy" 4 = some strategy := hstrategy
  have hread : Strategy.ofJson? strategy = some c.strategy := Strategy.Notation.read hnotation
  simp only [ofJson?, hrecord, hname, hposition, hnumber, htype, hstrategy, hread, Json.str?, Json.name?,
    ColumnType.ofWireName?_wireName, Option.bind_eq_bind, Option.bind_some, Bool.not_true, Bool.false_eq_true, if_false]
  rcases Records.field h hkeys 3 rfl with hisKey | ⟨hisKey, hfalse⟩
  · have hisKey : j.member? "is_key" 3 = some (.bool c.isKey) := hisKey
    simp only [hisKey, Json.bool?, Option.bind_some]
  · have hisKey : j.member? "is_key" 3 = none := hisKey
    simp only [hisKey, ← hfalse]

end Column

/-! ### Schemas -/

theorem ContainerKind.ofTag?_tag (kind : ContainerKind) : ofTag? kind.tag = some kind := by
  cases kind <;> decide

theorem mapM_eq_some {α β : Type} {f : α → Option β} {as : List α} {bs : List β}
    (h : List.Forall₂ (fun a b => f a = some b) as bs) : as.mapM f = some bs := by
  induction h with
  | nil => rfl
  | cons hfirst hrest ih =>
      simp only [List.mapM_cons, hfirst, ih, Option.bind_eq_bind, Option.bind_some, Option.pure_def]

namespace Schema

def slots (s : Schema) : List Slot :=
  [.of "name" (.str s.name), .of "kind" (.str s.kind.tag),
    { key := "columns", Holds := fun j => ∃ items, j = .arr items ∧ List.Forall₂ Column.Notation s.columns items }]

def Notation (s : Schema) (j : Json) : Prop := Records s.slots j

theorem slots_keys_nodup (s : Schema) : (s.slots.map Slot.key).Nodup := by
  simp [slots, Slot.of]

theorem notation_toJson (s : Schema) : s.Notation s.toJson := by
  refine Fills.records (.put rfl (.put rfl (.put ⟨_, rfl, ?_⟩ .nil)))
  exact List.forall₂_map_right_iff.mpr (List.forall₂_same.mpr fun c _ => c.notation_toJson)

theorem Notation.read {s : Schema} {j : Json} (h : s.Notation j) : ofJson? j = some s := by
  have hkeys := s.slots_keys_nodup
  have hrecord : j.isRecord 3 = true := Records.isRecord h
  have hname : j.member? "name" 0 = some (.str s.name) := Records.requiredField h hkeys 0 rfl
  have hkind : j.member? "kind" 1 = some (.str s.kind.tag) := Records.requiredField h hkeys 1 rfl
  obtain ⟨_, hcolumns, items, rfl, hitems⟩ := Records.required h hkeys 2 _ rfl not_false
  have hcolumns : j.member? "columns" 2 = some (.arr items) := hcolumns
  have hread : items.mapM Column.ofJson? = some s.columns :=
    mapM_eq_some (hitems.flip.imp fun _ _ => Column.Notation.read)
  simp only [ofJson?, hrecord, hname, hkind, hcolumns, hread, Json.str?, Json.name?, Json.items?,
    ContainerKind.ofTag?_tag, Option.bind_eq_bind, Option.bind_some, Bool.not_true, Bool.false_eq_true, if_false]

/-! ### Texts -/

end Schema

theorem Json.plain_int32 (n : Int32) : Json.Plain (.whole n.toInt) := by
  have hlower : -2 ^ 31 ≤ n.toInt := n.le_toInt
  have hupper : n.toInt < 2 ^ 31 := n.toInt_lt
  refine .whole ?_ ?_
  · unfold signedLimit
    omega
  · unfold wordLimit
    omega

theorem Json.plain_uint64 (n : UInt64) : Json.Plain (.whole n.toNat) := by
  have hupper : n.toNat < wordLimit := n.toNat_lt_size
  exact .whole (by omega) (Int.ofNat_lt.mpr hupper)

theorem Strategy.plain_toJson (s : Strategy) : s.toJson.Plain := by
  refine .obj ?_ ?_
  · cases s <;> simp [parameters]
  · intro m hm
    rcases List.mem_cons.mp hm with rfl | hparameter
    · exact .str _
    · cases s <;> simp only [parameters, List.mem_cons, List.not_mem_nil, or_false] at hparameter
      case uniformInt =>
        rcases hparameter with rfl | rfl <;> exact Json.plain_int32 _
      case token =>
        rcases hparameter with rfl | rfl | rfl
        · exact .str _
        all_goals exact Json.plain_int32 _
      case alphanumeric =>
        subst hparameter
        exact Json.plain_uint64 _

theorem Column.plain_toJson (c : Column) : c.toJson.Plain := by
  refine .obj (by simp) ?_
  intro m hm
  simp only [List.mem_cons, List.not_mem_nil, or_false] at hm
  rcases hm with rfl | rfl | rfl | rfl | rfl
  · exact .str _
  · exact Json.plain_uint64 _
  · exact .str _
  · exact .bool _
  · exact c.strategy.plain_toJson

namespace Schema

theorem plain_toJson (s : Schema) : s.toJson.Plain := by
  refine .obj (by simp) ?_
  intro m hm
  simp only [List.mem_cons, List.not_mem_nil, or_false] at hm
  rcases hm with rfl | rfl | rfl
  · exact .str _
  · exact .str _
  · refine .arr fun item hitem => ?_
    obtain ⟨c, -, rfl⟩ := List.mem_map.mp hitem
    exact c.plain_toJson

/-- The schema that a text describes. -/
theorem ofJson?_toJson (s : Schema) : ofJson? s.toJson = some s :=
  s.notation_toJson.read

theorem ofJson?_print (s : Schema) : (Json.parse? s.toJson.print).bind ofJson? = some s := by
  rw [s.plain_toJson.parse?_print, Option.bind_some, ofJson?_toJson]

/-- A schema is read back from its JSON and from the text of it, and from every other notation; so different schemas
have different JSON, and different texts. -/
theorem read_in_every_form (s : Schema) :
    s.Notation s.toJson ∧ (∀ j, s.Notation j → ofJson? j = some s) ∧
      (Json.parse? s.toJson.print).bind ofJson? = some s ∧
      ∀ other : Schema, (other.toJson = s.toJson → other = s) ∧ (other.toJson.print = s.toJson.print → other = s) := by
  refine ⟨s.notation_toJson, fun j hj => hj.read, s.ofJson?_print, ?_⟩
  intro other
  constructor
  · intro hjson
    have hread := other.ofJson?_toJson
    rw [hjson, ofJson?_toJson] at hread
    exact (Option.some.inj hread).symm
  · intro htext
    have hread := other.ofJson?_print
    rw [htext, ofJson?_print] at hread
    exact (Option.some.inj hread).symm

/-- Keys out of order and unknown ones, records as arrays, and a flag and a bias left out. -/
theorem read_in_every_form_room :
    let room : Schema := ⟨"room", .collection, [
      { name := "temp", position := 3, type := .integer, strategy := .uniformInt 40 0 },
      { name := "tag", position := 3, type := .string, isKey := true, strategy := .token "t" 1 9 }]⟩
    let temp := Json.obj [("unit", .null), ("strategy", .arr [.str "uniform_int", .whole 40]), ("type", .str "INTEGER"),
      ("position", .whole 3), ("name", .str "temp")]
    let token := Json.obj [("bound", .null), ("spread", .whole 9), ("base", .whole 1), ("prefix", .str "t"),
      ("type", .str "token")]
    let tag := Json.arr [.str "tag", .whole 3, .str "STRING", .bool true, token]
    let scrambled := Json.obj [("rows", .whole 7), ("columns", .arr [temp, tag]), ("kind", .str "collection"),
      ("name", .str "room")]
    room.Notation scrambled ∧ ofJson? scrambled = some room := by
  intro room temp token tag scrambled
  have hnumber : (Strategy.uniformInt 40 0).Notation (.arr [.str "uniform_int", .whole 40]) :=
    .array (.item rfl (.item rfl (.rest (by simp [Slot.of]))))
  have htemp : Column.Notation { name := "temp", position := 3, type := .integer, strategy := .uniformInt 40 0 } temp :=
    @Records.object _ _ _ [("unit", .null)]
      (.put rfl (.put rfl (.put rfl (.leaveOut rfl (.put hnumber .nil))))) (by simp [Column.slots, Slot.of])
      (List.reverse_perm _).symm
  have htoken : (Strategy.token "t" 1 9).Notation token :=
    @Records.object _ _ _ [("bound", .null)] (.put rfl (.put rfl (.put rfl (.put rfl .nil))))
      (by simp [Strategy.slots, Strategy.parameters, Slot.of]) (List.reverse_perm _).symm
  have htag : Column.Notation
      { name := "tag", position := 3, type := .string, isKey := true, strategy := .token "t" 1 9 } tag :=
    .array (.item rfl (.item rfl (.item rfl (.item rfl (.item htoken (.rest (by simp)))))))
  have hroom : room.Notation scrambled :=
    @Records.object _ _ _ [("rows", .whole 7)]
      (.put rfl (.put rfl (.put ⟨[temp, tag], rfl, .cons htemp (.cons htag .nil)⟩ .nil)))
      (by simp [Schema.slots, Slot.of]) (List.reverse_perm _).symm
  exact ⟨hroom, (read_in_every_form room).2.1 scrambled hroom⟩

end Schema

end SampleLoad
