import Mathlib.Data.List.Perm.Subperm
import SampleLoad.Proofs.Rows.NameMap

/-!
Name maps whose entries are in strictly ascending order of names. Setting an entry keeps the order, and in it an entry
is found wherever it stands. So such a map is determined by what it finds.
-/

namespace SampleLoad.NameMap

variable {α : Type}

/-- The names of the entries ascend strictly. -/
def Ordered (m : NameMap α) : Prop := m.entries.Pairwise fun entry later => entry.1 < later.1

theorem ordered_empty : (empty : NameMap α).Ordered := List.Pairwise.nil

theorem Ordered.names {m : NameMap α} (h : m.Ordered) : m.names.Pairwise (· < ·) := List.pairwise_map.mpr h

theorem mem_alterEntries {name : String} {f : Option α → α} {entries : List (String × α)} {entry : String × α}
    (h : entry ∈ alterEntries name f entries) : entry.1 = name ∨ entry ∈ entries := by
  induction entries with
  | nil => exact .inl (congrArg Prod.fst (List.mem_singleton.mp h))
  | cons first rest ih =>
      obtain ⟨key, value⟩ := first
      rw [alterEntries] at h
      split at h
      · rcases List.mem_cons.mp h with rfl | hold
        · exact .inl rfl
        · exact .inr hold
      · split at h
        · rename_i hkey
          rcases List.mem_cons.mp h with rfl | hrest
          · exact .inl hkey.symm
          · exact .inr (List.mem_cons_of_mem _ hrest)
        · rcases List.mem_cons.mp h with rfl | hrest
          · exact .inr List.mem_cons_self
          · exact (ih hrest).imp_right (List.mem_cons_of_mem _)

/-- An entry is set in its place. -/
theorem Ordered.alter {m : NameMap α} (h : m.Ordered) (name : String) (f : Option α → α) :
    (m.alter name f).Ordered := by
  obtain ⟨entries⟩ := m
  show List.Pairwise _ (alterEntries name f entries)
  induction entries with
  | nil => exact List.pairwise_singleton _ _
  | cons first rest ih =>
      obtain ⟨key, value⟩ := first
      obtain ⟨hfirst, hrest⟩ := List.pairwise_cons.mp h
      rw [alterEntries]
      split
      · rename_i hbefore
        refine List.pairwise_cons.mpr ⟨?_, h⟩
        intro entry hentry
        rcases List.mem_cons.mp hentry with rfl | hmem
        · exact hbefore
        · exact String.lt_trans hbefore (hfirst entry hmem)
      · rename_i hnotBefore
        split
        · exact List.pairwise_cons.mpr ⟨hfirst, hrest⟩
        · rename_i hne
          refine List.pairwise_cons.mpr ⟨?_, ih hrest⟩
          intro entry hentry
          rcases mem_alterEntries hentry with hname | hmem
          · exact hname ▸ Std.lt_of_le_of_ne (String.not_lt.mp hnotBefore) (Ne.symm hne)
          · exact hfirst entry hmem

theorem find?_eq_none_of_before {name : String} {entries : List (String × α)}
    (h : ∀ entry ∈ entries, name < entry.1) : (NameMap.mk entries).find? name = none := by
  rw [find?, Option.map_eq_none_iff, List.find?_eq_none]
  intro entry hentry hname
  exact String.lt_irrefl name (of_decide_eq_true hname ▸ h entry hentry)

/-- What is made of the present entry is found. -/
theorem Ordered.find?_alter_self {m : NameMap α} (h : m.Ordered) (name : String) (f : Option α → α) :
    (m.alter name f).find? name = some (f (m.find? name)) := by
  obtain ⟨entries⟩ := m
  show (NameMap.mk (alterEntries name f entries)).find? name = _
  induction entries with
  | nil => exact find?_cons name (f none) [] name |>.trans (if_pos rfl)
  | cons first rest ih =>
      obtain ⟨key, value⟩ := first
      obtain ⟨hfirst, hrest⟩ := List.pairwise_cons.mp h
      rw [alterEntries, find?_cons key]
      split
      · rename_i hbefore
        have hnone : (NameMap.mk rest).find? name = none :=
          find?_eq_none_of_before fun entry hentry => String.lt_trans hbefore (hfirst entry hentry)
        have hne : key ≠ name := by
          rintro rfl
          exact String.lt_irrefl key hbefore
        rw [find?_cons, if_pos rfl, if_neg hne, hnone]
      · split
        · rename_i hkey
          rw [find?_cons, if_pos hkey.symm, if_pos hkey.symm]
        · rename_i hkey
          rw [find?_cons, if_neg (Ne.symm hkey), if_neg (Ne.symm hkey), ih hrest]

theorem mem_names_iff (m : NameMap α) (name : String) : name ∈ m.names ↔ (m.find? name).isSome := by
  rw [find?, Option.isSome_map, List.find?_isSome, names, List.mem_map]
  simp

/-- Entries are what is found. -/
theorem Ordered.mem_entries_iff {m : NameMap α} (h : m.Ordered) (name : String) (value : α) :
    (name, value) ∈ m.entries ↔ m.find? name = some value := by
  obtain ⟨entries⟩ := m
  show (name, value) ∈ entries ↔ _
  induction entries with
  | nil => simp [find?]
  | cons first rest ih =>
      obtain ⟨key, present⟩ := first
      obtain ⟨hfirst, hrest⟩ := List.pairwise_cons.mp h
      rw [find?_cons, List.mem_cons, ih hrest]
      split
      · rename_i hkey
        have hnone : (NameMap.mk rest).find? name = none := find?_eq_none_of_before (hkey ▸ hfirst)
        rw [hnone, Prod.mk.injEq, Option.some.injEq, and_iff_right hkey.symm, eq_comm]
        simp
      · rename_i hkey
        rw [Prod.mk.injEq, or_iff_right fun heq => hkey heq.1.symm]

theorem Ordered.nodup {m : NameMap α} (h : m.Ordered) : m.entries.Nodup := by
  refine List.Pairwise.imp ?_ h
  rintro entry _ hlt rfl
  exact String.lt_irrefl _ hlt

/-- Maps in order are equal if they find the same. -/
theorem Ordered.eq_of_find? {m other : NameMap α} (h : m.Ordered) (hother : other.Ordered)
    (hfind : ∀ name, m.find? name = other.find? name) : m = other := by
  have hperm : m.entries.Perm other.entries := by
    refine (List.perm_ext_iff_of_nodup h.nodup hother.nodup).mpr ?_
    rintro ⟨name, value⟩
    rw [h.mem_entries_iff, hother.mem_entries_iff, hfind]
  have hentries : m.entries = other.entries := by
    refine hperm.eq_of_pairwise ?_ h hother
    intro entry later _ _ hbefore hafter
    exact absurd (String.lt_trans hbefore hafter) (String.lt_irrefl _)
  obtain ⟨entries⟩ := m
  obtain ⟨others⟩ := other
  exact congrArg NameMap.mk hentries

end SampleLoad.NameMap
