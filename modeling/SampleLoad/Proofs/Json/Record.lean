import Mathlib.Data.List.Nodup
import SampleLoad.Schema.Json

/-!
The forms in which a record may be written. It is an object whose members fill the fields, in any order and among
others that are no fields, or an array that fills the fields in order. A field that is optional may be missing: from an
object anywhere, from an array at its end. Whatever the form, a field that is looked up is filled as it should be, and
is missing only if it is optional. Main statement: `Json.Records.member?`.
-/

namespace SampleLoad.Json

/-- A field of a record: what it may hold, and whether it may be missing. -/
structure Slot where
  key : String
  Holds : Json → Prop
  Optional : Prop := False

def Slot.of (key : String) (value : Json) (optional : Prop := False) : Slot :=
  { key, Holds := (· = value), Optional := optional }

/-- Members that fill fields, in the order of the fields. -/
inductive Fills : List Slot → List (String × Json) → Prop where
  | nil : Fills [] []
  | put {slot : Slot} {slots : List Slot} {value : Json} {members : List (String × Json)} (hvalue : slot.Holds value)
    (hrest : Fills slots members) : Fills (slot :: slots) ((slot.key, value) :: members)
  | leaveOut {slot : Slot} {slots : List Slot} {members : List (String × Json)} (hoptional : slot.Optional)
    (hrest : Fills slots members) : Fills (slot :: slots) members

/-- Items that fill fields in order, all but optional ones at the end. -/
inductive Lists : List Slot → List Json → Prop where
  | rest {slots : List Slot} (hoptional : ∀ slot ∈ slots, slot.Optional) : Lists slots []
  | item {slot : Slot} {slots : List Slot} {value : Json} {items : List Json} (hvalue : slot.Holds value)
    (hrest : Lists slots items) : Lists (slot :: slots) (value :: items)

inductive Records (slots : List Slot) : Json → Prop where
  | object {members written others : List (String × Json)} (hwritten : Fills slots written)
    (hothers : ∀ m ∈ others, m.1 ∉ slots.map Slot.key) (horder : members.Perm (written ++ others)) :
    Records slots (.obj members)
  | array {items : List Json} (hitems : Lists slots items) : Records slots (.arr items)

section Records

variable {slots : List Slot} {members : List (String × Json)} {items : List Json}

namespace Fills

/-- A member holds what its field may hold. -/
theorem holds (h : Fills slots members) {m : String × Json} (hm : m ∈ members) :
    ∃ slot ∈ slots, slot.key = m.1 ∧ slot.Holds m.2 := by
  induction h with
  | nil => cases hm
  | put hvalue hrest ih =>
      rcases List.mem_cons.mp hm with rfl | hlater
      · exact ⟨_, List.mem_cons_self, rfl, hvalue⟩
      · obtain ⟨slot, hslot, hfilled⟩ := ih hlater
        exact ⟨slot, List.mem_cons_of_mem _ hslot, hfilled⟩
  | leaveOut hoptional hrest ih =>
      obtain ⟨slot, hslot, hfilled⟩ := ih hm
      exact ⟨slot, List.mem_cons_of_mem _ hslot, hfilled⟩

/-- A field that no member has is optional. -/
theorem optional (h : Fills slots members) {slot : Slot} (hslot : slot ∈ slots)
    (hmissing : slot.key ∉ members.map Prod.fst) : slot.Optional := by
  induction h with
  | nil => cases hslot
  | put hvalue hrest ih =>
      rw [List.map_cons, List.mem_cons, not_or] at hmissing
      rcases List.mem_cons.mp hslot with rfl | hlater
      · exact absurd rfl hmissing.1
      · exact ih hlater hmissing.2
  | leaveOut hoptional hrest ih =>
      rcases List.mem_cons.mp hslot with rfl | hlater
      · exact hoptional
      · exact ih hlater hmissing

end Fills

theorem Lists.length_le (h : Lists slots items) : items.length ≤ slots.length := by
  induction h with
  | rest hoptional => exact Nat.zero_le _
  | item hvalue hrest ih => exact Nat.succ_le_succ ih

/-- An item holds what its field may hold. -/
theorem Lists.holds (h : Lists slots items) {index : Nat} {slot : Slot} (hslot : slots[index]? = some slot) :
    (∀ value, items[index]? = some value → slot.Holds value) ∧ (items[index]? = none → slot.Optional) := by
  induction h generalizing index with
  | rest hoptional => exact ⟨fun value h => (nomatch h), fun _ => hoptional slot (List.mem_of_getElem? hslot)⟩
  | item hvalue hrest ih =>
      cases index with
      | zero =>
          cases hslot
          refine ⟨fun value h => ?_, fun h => (nomatch h)⟩
          cases h
          exact hvalue
      | succ index => exact ih hslot

theorem eq_of_key_eq (hkeys : (slots.map Slot.key).Nodup) {slot other : Slot} (hslot : slot ∈ slots)
    (hother : other ∈ slots) (h : slot.key = other.key) : slot = other :=
  List.inj_on_of_nodup_map hkeys hslot hother h

/-- A field that is looked up in a record holds what it may hold; if it is missing, it is optional. -/
theorem Records.member? {j : Json} (h : Records slots j) (hkeys : (slots.map Slot.key).Nodup) (index : Nat)
    (slot : Slot) (hslot : slots[index]? = some slot) :
    (∀ value, j.member? slot.key index = some value → slot.Holds value) ∧
      (j.member? slot.key index = none → slot.Optional) := by
  cases h with
  | array hitems => exact hitems.holds hslot
  | @object members written others hwritten hothers horder =>
      have hmem := List.mem_of_getElem? hslot
      show (∀ value, (members.find? (·.1 = slot.key)).map (·.2) = some value → _) ∧
        ((members.find? (·.1 = slot.key)).map (·.2) = none → _)
      constructor
      · intro value hvalue
        obtain ⟨m, hfind, rfl⟩ := Option.map_eq_some_iff.mp hvalue
        have hkey : m.1 = slot.key := by simpa using List.find?_some hfind
        rcases List.mem_append.mp (horder.subset (List.mem_of_find?_eq_some hfind)) with hfield | hother
        · obtain ⟨filled, hfilled, hfilledKey, hholds⟩ := hwritten.holds hfield
          rw [eq_of_key_eq hkeys hmem hfilled (hkey.symm.trans hfilledKey.symm)]
          exact hholds
        · exact absurd (hkey ▸ List.mem_map_of_mem hmem) (hothers m hother)
      · intro hnone
        refine hwritten.optional hmem fun hkey => ?_
        obtain ⟨m, hm, hkey⟩ := List.mem_map.mp hkey
        have hmissing := List.find?_eq_none.mp (Option.map_eq_none_iff.mp hnone) m
          (horder.symm.subset (List.mem_append_left _ hm))
        exact hmissing (by simpa using hkey)

/-- An object of nothing but fields, in order. -/
theorem Fills.records (h : Fills slots members) : Records slots (.obj members) :=
  .object h (fun _ hm => absurd hm List.not_mem_nil) (List.Perm.of_eq (List.append_nil members).symm)

theorem Records.isRecord {j : Json} (h : Records slots j) : j.isRecord slots.length = true := by
  cases h with
  | object => rfl
  | array hitems => exact decide_eq_true hitems.length_le

/-- A field that may not be missing is there. -/
theorem Records.required {j : Json} (h : Records slots j) (hkeys : (slots.map Slot.key).Nodup) (index : Nat)
    (slot : Slot) (hslot : slots[index]? = some slot) (hrequired : ¬slot.Optional) :
    ∃ value, j.member? slot.key index = some value ∧ slot.Holds value := by
  obtain ⟨hholds, hmissing⟩ := h.member? hkeys index slot hslot
  cases hvalue : j.member? slot.key index with
  | none => exact absurd (hmissing hvalue) hrequired
  | some value => exact ⟨value, rfl, hholds value hvalue⟩

/-- A field with one value has this value, unless it is missing. -/
theorem Records.field {j : Json} (h : Records slots j) (hkeys : (slots.map Slot.key).Nodup) (index : Nat)
    {key : String} {value : Json} {optional : Prop} (hslot : slots[index]? = some (.of key value optional)) :
    j.member? key index = some value ∨ j.member? key index = none ∧ optional := by
  obtain ⟨hholds, hmissing⟩ := h.member? hkeys index _ hslot
  cases hvalue : j.member? key index with
  | none => exact .inr ⟨rfl, hmissing hvalue⟩
  | some found => exact .inl (congrArg some (hholds found hvalue))

theorem Records.requiredField {j : Json} (h : Records slots j) (hkeys : (slots.map Slot.key).Nodup) (index : Nat)
    {key : String} {value : Json} (hslot : slots[index]? = some (.of key value)) :
    j.member? key index = some value :=
  (h.field hkeys index hslot).resolve_right fun hmissing => hmissing.2

end Records

end SampleLoad.Json
