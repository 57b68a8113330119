import SampleLoad.Rows.NameMap

/-!
What a name map finds after an entry was set or removed: the name in question as it was left, every other
name as before. None of this depends on the order of the entries.
-/

namespace SampleLoad.NameMap

variable {α : Type}

theorem find?_cons (key : String) (value : α) (rest : List (String × α)) (name : String) :
    (NameMap.mk ((key, value) :: rest)).find? name =
      if key = name then some value else (NameMap.mk rest).find? name := by
  rw [find?, List.find?_cons]
  by_cases h : key = name
  · rw [if_pos h, decide_eq_true h]
    rfl
  · rw [if_neg h, decide_eq_false h]
    rfl

theorem find?_alterEntries_of_ne {name other : String} (hne : other ≠ name) (f : Option α → α)
    (entries : List (String × α)) :
    (NameMap.mk (alterEntries name f entries)).find? other = (NameMap.mk entries).find? other := by
  induction entries with
  | nil =>
      rw [alterEntries, find?_cons, if_neg hne.symm]
  | cons entry rest ih =>
      obtain ⟨key, value⟩ := entry
      rw [alterEntries]
      split
      · rw [find?_cons, if_neg hne.symm]
      · split
        · rename_i hkey
          rw [find?_cons, find?_cons, if_neg (hkey ▸ hne.symm), if_neg (hkey ▸ hne.symm)]
        · rw [find?_cons, find?_cons, ih]

theorem find?_alterEntries_const (name : String) (value : α) (entries : List (String × α)) :
    (NameMap.mk (alterEntries name (fun _ => value) entries)).find? name = some value := by
  induction entries with
  | nil => rw [alterEntries, find?_cons, if_pos rfl]
  | cons entry rest ih =>
      obtain ⟨key, present⟩ := entry
      rw [alterEntries]
      split
      · rw [find?_cons, if_pos rfl]
      · split
        · rename_i hkey
          rw [find?_cons, if_pos hkey.symm]
        · rename_i hkey
          rw [find?_cons, if_neg (Ne.symm hkey), ih]

@[simp]
theorem find?_insert_self (m : NameMap α) (name : String) (value : α) :
    (m.insert name value).find? name = some value :=
  find?_alterEntries_const name value m.entries

theorem find?_insert_of_ne (m : NameMap α) {name other : String} (hne : other ≠ name) (value : α) :
    (m.insert name value).find? other = m.find? other :=
  find?_alterEntries_of_ne hne _ m.entries

@[simp]
theorem find?_erase_self (m : NameMap α) (name : String) : (m.erase name).find? name = none := by
  rw [find?, erase, Option.map_eq_none_iff, List.find?_eq_none]
  intro entry hentry hname
  exact absurd (of_decide_eq_true hname) (of_decide_eq_true (List.mem_filter.mp hentry).2)

theorem find?_erase_of_ne (m : NameMap α) {name other : String} (hne : other ≠ name) :
    (m.erase name).find? other = m.find? other := by
  rw [find?, find?, erase, List.find?_filter]
  congr 2
  funext entry
  by_cases hother : entry.1 = other
  · simp [hother, hne]
  · simp [hother]

theorem contains_eq_false_iff (m : NameMap α) (name : String) :
    m.contains name = false ↔ m.find? name = none := by
  rw [contains, Option.isSome_eq_false_iff, Option.isNone_iff_eq_none]

end SampleLoad.NameMap
