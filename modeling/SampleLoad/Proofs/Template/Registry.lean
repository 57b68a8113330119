import SampleLoad.Proofs.Template.Entries

/-!
What a registry holds after any registrations. Its index leads to the place of a template exactly by the id that
the template there has; registering keeps this, be the id new or known. So there is one template for each id, the
one that was registered last, and the ids stand in the order in which they came first. A document is registered as
a whole or not at all. Main statement: `Registry.holds_last_registered`.
-/

namespace SampleLoad

/-- The template is the last of a history that has the id. -/
def RegisteredLast (history : List Template) (id : String) (t : Template) : Prop :=
  ∃ before after, history = before ++ t :: after ∧ t.id = id ∧ ∀ later ∈ after, later.id ≠ id

theorem registeredLast_append_singleton (history : List Template) (latest : Template) (id : String) (t : Template) :
    RegisteredLast (history ++ [latest]) id t ↔
      if latest.id = id then t = latest else RegisteredLast history id t := by
  constructor
  · rintro ⟨before, after, hsplit, hid, hafter⟩
    rcases List.eq_nil_or_concat after with rfl | ⟨front, last, rfl⟩
    · obtain ⟨-, hlast⟩ := List.append_inj' hsplit rfl
      obtain rfl : latest = t := List.head_eq_of_cons_eq hlast
      rw [if_pos hid]
    · rw [List.concat_eq_append, ← List.cons_append, ← List.append_assoc] at hsplit
      obtain ⟨hfront, hlast⟩ := List.append_inj' hsplit rfl
      obtain rfl : latest = last := List.head_eq_of_cons_eq hlast
      rw [if_neg (hafter latest (by simp))]
      exact ⟨before, front, hfront, hid, fun later hlater => hafter later (by simp [hlater])⟩
  · intro h
    by_cases hlatest : latest.id = id
    · rw [if_pos hlatest] at h
      subst h
      exact ⟨history, [], rfl, hlatest, by simp⟩
    · rw [if_neg hlatest] at h
      obtain ⟨before, after, rfl, hid, hafter⟩ := h
      refine ⟨before, after ++ [latest], by simp, hid, ?_⟩
      intro later hlater
      rcases List.mem_append.mp hlater with hmem | hmem
      · exact hafter later hmem
      · rw [List.mem_singleton.mp hmem]
        exact hlatest

/-- Ids without repetition, in the order in which a history has them first. -/
structure InFirstOrder (ids history : List String) : Prop where
  mem : ∀ id, id ∈ ids ↔ id ∈ history
  order : ids.Pairwise fun a b => history.idxOf a < history.idxOf b

namespace InFirstOrder

variable {ids history : List String} (h : InFirstOrder ids history)

include h

theorem nodup : ids.Nodup := by
  refine h.order.imp ?_
  rintro a b hlt rfl
  exact Nat.lt_irrefl _ hlt

theorem order_append (id : String) :
    ids.Pairwise fun a b => (history ++ [id]).idxOf a < (history ++ [id]).idxOf b := by
  refine h.order.imp_of_mem fun {a b} ha hb hlt => ?_
  rw [List.idxOf_append_of_mem ((h.mem a).mp ha), List.idxOf_append_of_mem ((h.mem b).mp hb)]
  exact hlt

/-- An id that is known comes first where it came first before; a new one comes last. -/
theorem append (id : String) : InFirstOrder (if id ∈ ids then ids else ids ++ [id]) (history ++ [id]) := by
  by_cases hknown : id ∈ ids
  · rw [if_pos hknown]
    refine ⟨fun other => ?_, h.order_append id⟩
    rw [List.mem_append, List.mem_singleton, h.mem]
    constructor
    · exact Or.inl
    · rintro (hmem | rfl)
      · exact hmem
      · exact (h.mem other).mp hknown
  · rw [if_neg hknown]
    have hnew : id ∉ history := fun hmem => hknown ((h.mem id).mpr hmem)
    refine ⟨fun other => by rw [List.mem_append, List.mem_append, h.mem], ?_⟩
    refine List.pairwise_append.mpr ⟨h.order_append id, List.pairwise_singleton _ _, ?_⟩
    intro a ha b hb
    have hold := (h.mem a).mp ha
    rw [List.mem_singleton.mp hb, List.idxOf_append_of_mem hold, List.idxOf_append_of_notMem hnew]
    exact Nat.lt_of_lt_of_le (List.idxOf_lt_length_of_mem hold) (Nat.le_add_right _ _)

end InFirstOrder

namespace Registry

/-! ### The index -/

/-- The index leads to a place exactly if the template there has the id. -/
def Indexed (r : Registry) : Prop :=
  ∀ id i, r.index[id]? = some i ↔ ∃ t : Template, r.templates[i]? = some t ∧ t.id = id

theorem register_of_known {r : Registry} {t : Template} {i : Nat} (h : r.index[t.id]? = some i) :
    r.register t = { r with templates := r.templates.setIfInBounds i t } := by
  rw [register, h]

theorem register_of_new {r : Registry} {t : Template} (h : r.index[t.id]? = none) :
    r.register t = ⟨r.templates.push t, r.index.insert t.id r.templates.size⟩ := by
  rw [register, h]

theorem mem_ids_iff (r : Registry) (id : String) :
    id ∈ r.ids ↔ ∃ (i : Nat) (t : Template), r.templates[i]? = some t ∧ t.id = id := by
  rw [ids, List.mem_map]
  constructor
  · rintro ⟨t, ht, hid⟩
    obtain ⟨i, hi⟩ := Array.mem_iff_getElem?.mp (Array.mem_toList_iff.mp ht)
    exact ⟨i, t, hi, hid⟩
  · rintro ⟨i, t, hi, hid⟩
    exact ⟨t, Array.mem_toList_iff.mpr (Array.mem_of_getElem? hi), hid⟩

theorem indexed_empty : empty.Indexed := by
  intro id i
  simp [empty]

namespace Indexed

variable {r : Registry} (h : r.Indexed)

include h

/-- A known id has a place, where the template has that id. -/
theorem place {id : String} {i : Nat} (hi : r.index[id]? = some i) :
    ∃ hsize : i < r.templates.size, r.templates[i].id = id := by
  obtain ⟨t, ht, hid⟩ := (h id i).mp hi
  obtain ⟨hsize, rfl⟩ := Array.getElem?_eq_some_iff.mp ht
  exact ⟨hsize, hid⟩

theorem register (t : Template) : (r.register t).Indexed := by
  intro id j
  cases hknown : r.index[t.id]? with
  | some i =>
      rw [register_of_known hknown]
      obtain ⟨hsize, hplace⟩ := h.place hknown
      show r.index[id]? = some j ↔ ∃ t' : Template, (r.templates.setIfInBounds i t)[j]? = some t' ∧ t'.id = id
      rw [h id j, Array.getElem?_setIfInBounds]
      by_cases hij : i = j
      · subst hij
        rw [if_pos rfl, if_pos hsize]
        simp [hsize, hplace]
      · rw [if_neg hij]
  | none =>
      rw [register_of_new hknown]
      show (r.index.insert t.id r.templates.size)[id]? = some j ↔
        ∃ t' : Template, (r.templates.push t)[j]? = some t' ∧ t'.id = id
      rw [Std.HashMap.getElem?_insert, Array.getElem?_push]
      by_cases hid : t.id = id
      · rw [if_pos (beq_iff_eq.mpr hid)]
        by_cases hj : j = r.templates.size
        · simp [hj, hid]
        · rw [if_neg hj, ← h id j, ← hid, hknown, Option.some.injEq, eq_comm]
          exact iff_of_false hj nofun
      · rw [if_neg (by simpa using hid), h id j]
        by_cases hj : j = r.templates.size
        · simp [hj, hid]
        · rw [if_neg hj]

/-- A place is found again by the id of its template. -/
theorem get_eq_ok_iff_place {id : String} {t : Template} :
    r.get id = .ok t ↔ ∃ i, r.index[id]? = some i ∧ r.templates[i]? = some t := by
  unfold get
  cases hi : r.index[id]? with
  | none => simp
  | some i =>
      obtain ⟨hsize, -⟩ := h.place hi
      simp [hsize]

/-- What is got by an id is the one stored template that has it. -/
theorem get_eq_ok_iff {id : String} {t : Template} : r.get id = .ok t ↔ t ∈ r.templates ∧ t.id = id := by
  rw [h.get_eq_ok_iff_place]
  constructor
  · rintro ⟨i, hi, ht⟩
    obtain ⟨t', ht', hid⟩ := (h id i).mp hi
    obtain rfl : t' = t := Option.some.inj (ht'.symm.trans ht)
    exact ⟨Array.mem_of_getElem? ht, hid⟩
  · rintro ⟨hmem, hid⟩
    obtain ⟨i, ht⟩ := Array.mem_iff_getElem?.mp hmem
    exact ⟨i, (h id i).mpr ⟨t, ht, hid⟩, ht⟩

theorem get_cases (id : String) :
    (∃ t, r.get id = .ok t) ∨ r.get id = .error (.unknownTemplate id) ∧ ∀ t, r.get id ≠ .ok t := by
  unfold get
  cases hi : r.index[id]? with
  | none => exact .inr ⟨rfl, fun t => nofun⟩
  | some i =>
      obtain ⟨hsize, -⟩ := h.place hi
      exact .inl ⟨r.templates[i], by simp [hsize]⟩

theorem get_eq_error_iff (id : String) :
    r.get id = .error (.unknownTemplate id) ↔ ∀ t ∈ r.templates, t.id ≠ id := by
  rcases h.get_cases id with ⟨t, ht⟩ | ⟨herror, hnone⟩
  · rw [ht]
    refine iff_of_false nofun fun hall => ?_
    obtain ⟨hmem, hid⟩ := h.get_eq_ok_iff.mp ht
    exact hall t hmem hid
  · refine iff_of_true herror fun t hmem hid => hnone t ?_
    exact h.get_eq_ok_iff.mpr ⟨hmem, hid⟩

/-- Registering changes what one id stands for. -/
theorem get_register (t : Template) (id : String) :
    (r.register t).get id = if t.id = id then .ok t else r.get id := by
  unfold get
  cases hknown : r.index[t.id]? with
  | some i =>
      rw [register_of_known hknown]
      obtain ⟨hsize, hplace⟩ := h.place hknown
      by_cases hid : t.id = id
      · subst hid
        simp [hknown, hsize]
      · rw [if_neg hid]
        cases hother : r.index[id]? with
        | none => rfl
        | some j =>
            have hne : i ≠ j := by
              rintro rfl
              obtain ⟨_, hplace'⟩ := h.place hother
              exact hid (hplace.symm.trans hplace')
            simp [hne]
  | none =>
      rw [register_of_new hknown]
      by_cases hid : t.id = id
      · simp [hid]
      · rw [if_neg hid, Std.HashMap.getElem?_insert, if_neg (by simpa using hid)]
        cases hother : r.index[id]? with
        | none => rfl
        | some j =>
            obtain ⟨hsize, -⟩ := h.place hother
            simp [Array.getElem?_push, Nat.ne_of_lt hsize]

/-- A known id keeps its place, a new one is added at the end. -/
theorem ids_register (t : Template) : (r.register t).ids = if t.id ∈ r.ids then r.ids else r.ids ++ [t.id] := by
  cases hknown : r.index[t.id]? with
  | some i =>
      obtain ⟨hsize, hplace⟩ := h.place hknown
      have hmem : t.id ∈ r.ids := (r.mem_ids_iff t.id).mpr ⟨i, r.templates[i], by simp [hsize], hplace⟩
      have hlength : i < (r.templates.toList.map Template.id).length := by simpa using hsize
      have hsame : t.id = (r.templates.toList.map Template.id)[i] := by simp [hplace]
      rw [register_of_known hknown, if_pos hmem, ids, ids, Array.toList_setIfInBounds, List.map_set, hsame,
        List.set_getElem_self]
  | none =>
      have hnew : t.id ∉ r.ids := by
        intro hmem
        obtain ⟨i, t', ht', hid⟩ := (r.mem_ids_iff t.id).mp hmem
        rw [(h t.id i).mpr ⟨t', ht', hid⟩] at hknown
        cases hknown
      rw [register_of_new hknown, if_neg hnew, ids, ids, Array.toList_push, List.map_append]
      rfl

end Indexed

/-! ### Histories -/

/-- What a registry holds after the registrations of a history. -/
structure Holds (r : Registry) (history : List Template) : Prop where
  indexed : r.Indexed
  last : ∀ id t, r.get id = .ok t ↔ RegisteredLast history id t
  order : InFirstOrder r.ids (history.map Template.id)

theorem holds_empty : empty.Holds [] where
  indexed := indexed_empty
  last id t := by
    rw [indexed_empty.get_eq_ok_iff]
    refine iff_of_false (by simp [empty]) ?_
    rintro ⟨before, after, hsplit, -⟩
    simp at hsplit
  order := ⟨fun id => Iff.rfl, .nil⟩

/-- One registration is the latest of the history. -/
theorem Holds.register {r : Registry} {history : List Template} (h : r.Holds history) (t : Template) :
    (r.register t).Holds (history ++ [t]) where
  indexed := h.indexed.register t
  last id t' := by
    rw [h.indexed.get_register, registeredLast_append_singleton]
    by_cases hid : t.id = id
    · rw [if_pos hid, if_pos hid, Except.ok.injEq, eq_comm]
    · rw [if_neg hid, if_neg hid]
      exact h.last id t'
  order := by
    rw [h.indexed.ids_register, List.map_append]
    exact h.order.append t.id

theorem Holds.registerAll {r : Registry} {history : List Template} (h : r.Holds history) (ts : List Template) :
    (r.registerAll ts).Holds (history ++ ts) := by
  induction ts generalizing r history with
  | nil =>
      rw [List.append_nil]
      exact h
  | cons t rest ih =>
      have hrest := ih (h.register t)
      rw [List.append_assoc] at hrest
      exact hrest

theorem Holds.unknown_iff {r : Registry} {history : List Template} (h : r.Holds history) (id : String) :
    r.get id = .error (.unknownTemplate id) ↔ ∀ t ∈ history, t.id ≠ id := by
  have hmem := h.order.mem id
  rw [h.indexed.get_eq_error_iff]
  simp only [ids, List.mem_map, Array.mem_toList_iff] at hmem
  constructor
  · intro hall t ht hid
    obtain ⟨t', ht', hid'⟩ := hmem.mpr ⟨t, ht, hid⟩
    exact hall t' ht' hid'
  · intro hall t ht hid
    obtain ⟨t', ht', hid'⟩ := hmem.mp ⟨t, ht, hid⟩
    exact hall t' ht' hid'

end Registry

/-- What a registry can be asked to take up. -/
inductive RegistryCall where
  | register (t : Template)
  | submit (text : String)

namespace RegistryCall

def perform (r : Registry) : RegistryCall → Registry
  | register t => r.register t
  | submit text => (r.submitText text).2

/-- The templates that a call registers: those of a document in order, if nothing is wrong with any of them. -/
def templates : RegistryCall → List Template
  | register t => [t]
  | submit text =>
    match TemplateDocument.parse? text with
    | none => []
    | some entries =>
      match TemplateEntry.templates entries with
      | .error _ => []
      | .ok ts => ts

end RegistryCall

inductive RegistryOrigin where
  | empty
  | builtin

namespace RegistryOrigin

def registry : RegistryOrigin → Registry
  | empty => .empty
  | builtin => .builtin

def templates : RegistryOrigin → List Template
  | empty => []
  | builtin => Builtin.all.map Builtin.template

end RegistryOrigin

namespace Registry

def after (r : Registry) (calls : List RegistryCall) : Registry := calls.foldl RegistryCall.perform r

/-- A document is accepted with all its templates or refused, whatever the registry holds. -/
theorem submitText_cases (r : Registry) (text : String) :
    (∃ entries, TemplateDocument.parse? text = some entries ∧
        r.submitText text = (.ok entries.length, r.registerAll (RegistryCall.submit text).templates) ∧
        List.Forall₂ TemplateEntry.Yields entries (RegistryCall.submit text).templates) ∨
      ∃ fault, r.submitText text = (.error fault, r) ∧ (RegistryCall.submit text).templates = [] := by
  simp only [submitText, RegistryCall.templates]
  cases TemplateDocument.parse? text with
  | none => exact .inr ⟨.malformed, rfl, rfl⟩
  | some entries =>
      rcases TemplateEntry.templates_cases entries with ⟨ts, hts, hyields, -⟩ | ⟨fault, hfault, -⟩
      · refine .inl ⟨entries, rfl, ?_, ?_⟩
        · simp only [registerEntries, hts, hyields.length_eq]
        · simp only [hts]
          exact hyields
      · exact .inr ⟨fault, by simp only [registerEntries, hfault], by simp only [hfault]⟩

theorem submitText_eq (r : Registry) (text : String) :
    (r.submitText text).2 = r.registerAll (RegistryCall.submit text).templates := by
  rcases r.submitText_cases text with ⟨entries, -, hsubmit, -⟩ | ⟨fault, hsubmit, hnone⟩
  · rw [hsubmit]
  · rw [hsubmit, hnone]
    rfl

theorem Holds.perform {r : Registry} {history : List Template} (h : r.Holds history) (call : RegistryCall) :
    (call.perform r).Holds (history ++ call.templates) := by
  cases call with
  | register t => exact h.register t
  | submit text =>
      show (r.submitText text).2.Holds _
      rw [submitText_eq]
      exact h.registerAll _

theorem Holds.after {r : Registry} {history : List Template} (h : r.Holds history) (calls : List RegistryCall) :
    (r.after calls).Holds (history ++ calls.flatMap RegistryCall.templates) := by
  induction calls generalizing r history with
  | nil =>
      rw [List.flatMap_nil, List.append_nil]
      exact h
  | cons call rest ih =>
      have hrest := ih (h.perform call)
      rw [List.append_assoc] at hrest
      exact hrest

theorem holds_origin (origin : RegistryOrigin) : origin.registry.Holds origin.templates := by
  cases origin with
  | empty => exact holds_empty
  | builtin => exact holds_empty.registerAll _

/-- A registry after any calls, started empty or with the built-in templates. Each id leads to the place of the one
template that has it, which is the last one registered under it, and the ids stand in the order of their first
registration. A document that is accepted counts as its templates in order, one that is refused as none. -/
theorem holds_last_registered (origin : RegistryOrigin) (calls : List RegistryCall) :
    let r := origin.registry.after calls
    let history := origin.templates ++ calls.flatMap RegistryCall.templates
    (∀ id i, r.index[id]? = some i ↔ ∃ t : Template, r.templates[i]? = some t ∧ t.id = id) ∧
      r.ids.Nodup ∧
      (∀ t ∈ r.templates, r.get t.id = .ok t) ∧
      (∀ id t, r.get id = .ok t ↔ RegisteredLast history id t) ∧
      (∀ id, r.get id = .error (.unknownTemplate id) ↔ ∀ t ∈ history, t.id ≠ id) ∧
      InFirstOrder r.ids (history.map Template.id) ∧
      (∀ t, (r.register t).ids = if t.id ∈ r.ids then r.ids else r.ids ++ [t.id]) ∧
      ∀ text,
        (r.submitText text).2 = r.registerAll (RegistryCall.submit text).templates ∧
          (∀ count, (r.submitText text).1 = .ok count →
            ∃ entries, TemplateDocument.parse? text = some entries ∧ entries.length = count ∧
              List.Forall₂ TemplateEntry.Yields entries (RegistryCall.submit text).templates) ∧
          ∀ fault, (r.submitText text).1 = .error fault → (RegistryCall.submit text).templates = [] := by
  intro r history
  have hholds : r.Holds history := (holds_origin origin).after calls
  refine ⟨hholds.indexed, hholds.order.nodup, ?_, hholds.last, hholds.unknown_iff, hholds.order,
    hholds.indexed.ids_register, ?_⟩
  · intro t ht
    exact hholds.indexed.get_eq_ok_iff.mpr ⟨ht, rfl⟩
  · intro text
    refine ⟨r.submitText_eq text, ?_⟩
    rcases r.submitText_cases text with ⟨entries, hparse, hsubmit, hyields⟩ | ⟨fault, hsubmit, hnone⟩
    · rw [hsubmit]
      refine ⟨?_, nofun⟩
      rintro count ⟨⟩
      exact ⟨entries, hparse, rfl, hyields⟩
    · rw [hsubmit]
      exact ⟨nofun, fun _ _ => hnone⟩

end Registry

end SampleLoad
