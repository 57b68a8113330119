import SampleLoad.Load.Request
import SampleLoad.Proofs.Template.Registry

/-!
Registries of loaded templates. Documents and files bring in valid schemas only, and so the registries that they
lead to from the built-in templates on hold nothing else. To settle a run is then to know the template: the schema
was checked when it was registered, and checking it once more refuses nothing. Main statement:
`Registry.registered_as_a_whole`.
-/

namespace SampleLoad

theorem Builtin.schema_valid (b : Builtin) : b.schema.validate = .ok () := by
  cases b <;> rfl

namespace Registry

def AllValid (r : Registry) : Prop := ∀ t ∈ r.templates, t.schema.validate = .ok ()

theorem eq_or_mem_of_mem_register {r : Registry} {t other : Template} (h : other ∈ (r.register t).templates) :
    other = t ∨ other ∈ r.templates := by
  unfold register at h
  cases hknown : r.index[t.id]? with
  | some i =>
      rw [hknown] at h
      exact (Array.mem_or_eq_of_mem_setIfInBounds h).symm
  | none =>
      rw [hknown] at h
      exact (Array.mem_push.mp h).symm

theorem AllValid.register {r : Registry} (h : r.AllValid) {t : Template} (ht : t.schema.validate = .ok ()) :
    (r.register t).AllValid := by
  intro other hother
  rcases eq_or_mem_of_mem_register hother with rfl | hold
  · exact ht
  · exact h other hold

theorem AllValid.registerAll {r : Registry} (h : r.AllValid) {ts : List Template}
    (hts : ∀ t ∈ ts, t.schema.validate = .ok ()) : (r.registerAll ts).AllValid := by
  induction ts generalizing r with
  | nil => exact h
  | cons t rest ih =>
      obtain ⟨ht, hrest⟩ := List.forall_mem_cons.mp hts
      exact ih (h.register ht) hrest

theorem valid_of_yields {entries : List TemplateEntry} {ts : List Template}
    (h : List.Forall₂ TemplateEntry.Yields entries ts) : ∀ t ∈ ts, t.schema.validate = .ok () := by
  induction h with
  | nil => exact fun t ht => nomatch ht
  | cons hyields hrest ih => exact List.forall_mem_cons.mpr ⟨hyields.valid, ih⟩

/-! ### Loading -/

/-- The registries that documents and files lead to, one after the other, from the built-in templates on. What is
in a file may change between two readings. -/
inductive Loaded : Registry → Prop where
  | builtin : Loaded .builtin
  | text {r : Registry} (h : Loaded r) (text : String) : Loaded (r.submitText text).2
  | file {r : Registry} (h : Loaded r) (files : FileReader Id) (path : String) :
    Loaded (Id.run (r.submitFile files path)).2

/-- A file that can be read is as good as its text. -/
theorem submitFile_cases (r : Registry) (files : FileReader Id) (path : String) :
    (∃ text, Id.run (r.submitFile files path) = r.submitText text) ∨
      ∃ text, Id.run (r.submitFile files path) = (.error (.unreadable text), r) := by
  cases hread : Id.run (files.text path) with
  | error text => exact .inr ⟨text, by simp [submitFile, hread]⟩
  | ok text => exact .inl ⟨text, by simp [submitFile, hread]⟩

/-- What documents and files keep, all loaded registries have. -/
theorem Loaded.induct {r : Registry} (h : Loaded r) {P : Registry → Prop} (hbuiltin : P .builtin)
    (htext : ∀ (r : Registry) text, P r → P (r.submitText text).2) : P r := by
  induction h with
  | builtin => exact hbuiltin
  | text h text ih => exact htext _ text ih
  | file h files path ih =>
      rename_i r
      rcases r.submitFile_cases files path with ⟨text, hsubmit⟩ | ⟨text, hsubmit⟩
      · rw [hsubmit]
        exact htext r text ih
      · rw [hsubmit]
        exact ih

theorem Loaded.holds {r : Registry} (h : Loaded r) : ∃ history, r.Holds history := by
  refine h.induct (P := fun r => ∃ history, r.Holds history) ⟨_, holds_origin .builtin⟩ ?_
  rintro r text ⟨history, hholds⟩
  exact ⟨_, hholds.perform (.submit text)⟩

theorem Loaded.allValid {r : Registry} (h : Loaded r) : r.AllValid := by
  refine h.induct ?_ ?_
  · refine AllValid.registerAll (fun t ht => by simp [empty] at ht) fun t ht => ?_
    obtain ⟨b, -, rfl⟩ := List.mem_map.mp ht
    exact b.schema_valid
  · intro r text hvalid
    rcases r.submitText_cases text with ⟨entries, -, hsubmit, hyields⟩ | ⟨fault, hsubmit, -⟩
    · rw [hsubmit]
      exact hvalid.registerAll (valid_of_yields hyields)
    · rw [hsubmit]
      exact hvalid

theorem builtin_mem (b : Builtin) : b.template ∈ builtin.templates := by
  have hholds := holds_origin .builtin
  have hlast : RegisteredLast RegistryOrigin.builtin.templates b.id b.template := by
    cases b with
    | multipleTimeColumns => exact ⟨[], [Builtin.oneThousandRows.template, Builtin.multipleType.template], by decide⟩
    | oneThousandRows => exact ⟨[Builtin.multipleTimeColumns.template], [Builtin.multipleType.template], by decide⟩
    | multipleType => exact ⟨[Builtin.multipleTimeColumns.template, Builtin.oneThousandRows.template], [], by decide⟩
  exact (hholds.indexed.get_eq_ok_iff.mp ((hholds.last b.id b.template).mpr hlast)).1

/-- To settle a run from a loaded registry is to know the template. -/
theorem Loaded.resolve {r : Registry} (h : Loaded r) (id : String) (container? : Option String)
    (rowCount? : Option Nat) :
    (∀ t ∈ r.templates, t.id = id → LoadRequest.resolve r id container? rowCount? =
        .ok ⟨container?.getD t.container, t.schema, rowCount?.getD t.rowCount⟩) ∧
      (id ∉ r.ids → LoadRequest.resolve r id container? rowCount? = .error (.unknownTemplate id)) := by
  obtain ⟨history, hholds⟩ := h.holds
  constructor
  · intro t ht hid
    have hget := hholds.indexed.get_eq_ok_iff.mpr ⟨ht, hid⟩
    simp only [LoadRequest.resolve, hget, h.allValid t ht]
  · intro hunknown
    have hget : r.get id = .error (.unknownTemplate id) := by
      refine (hholds.indexed.get_eq_error_iff id).mpr fun t ht hid => hunknown ?_
      exact List.mem_map.mpr ⟨t, Array.mem_toList_iff.mpr ht, hid⟩
    simp only [LoadRequest.resolve, hget]

/-- Entries are registered as a whole or not at all: all of them in order if nothing is wrong with any, and otherwise
none, with the fault of the first bad one as the answer. A document is refused if it has no entries to read, and else
as good as its entries. So a registry of loaded templates holds valid schemas only, and a run is settled from it
exactly if its template is there, with the template's schema and its defaults for what is not given. -/
theorem registered_as_a_whole :
    (∀ (r : Registry) (entries : List TemplateEntry),
        ((∃ count, (r.registerEntries entries).1 = .ok count) ↔ ∀ e ∈ entries, e.Sound) ∧
          (∀ count, (r.registerEntries entries).1 = .ok count →
            count = entries.length ∧ ∃ ts, List.Forall₂ TemplateEntry.Yields entries ts ∧
              (r.registerEntries entries).2 = r.registerAll ts) ∧
          ∀ fault, (r.registerEntries entries).1 = .error fault →
            TemplateEntry.FirstFault entries fault ∧ (r.registerEntries entries).2 = r) ∧
      (∀ (r : Registry) (text : String),
        (TemplateDocument.parse? text = none → r.submitText text = (.error .malformed, r)) ∧
          ∀ entries, TemplateDocument.parse? text = some entries → r.submitText text = r.registerEntries entries) ∧
      (∀ e : TemplateEntry, (∃ s, e.Declares s) ↔ e.TypesRead) ∧
      ∀ r, Loaded r →
        (∀ t ∈ r.templates, t.schema.validate = .ok ()) ∧
          ∀ id container? rowCount?,
            ((∃ fault, LoadRequest.resolve r id container? rowCount? = .error fault) ↔ id ∉ r.ids) ∧
              ∀ t ∈ r.templates, t.id = id →
                LoadRequest.resolve r id container? rowCount? =
                  .ok ⟨container?.getD t.container, t.schema, rowCount?.getD t.rowCount⟩ := by
  refine ⟨?_, ?_, TemplateEntry.declares_iff_typesRead, ?_⟩
  · intro r entries
    rcases r.registerEntries_cases entries with ⟨ts, hall, hyields, hsound⟩ | ⟨fault, hnone, hfirst⟩
    · rw [hall]
      refine ⟨iff_of_true ⟨_, rfl⟩ hsound, ?_, nofun⟩
      rintro count ⟨⟩
      exact ⟨rfl, ts, hyields, rfl⟩
    · rw [hnone]
      refine ⟨iff_of_false nofun hfirst.not_sound, nofun, ?_⟩
      rintro _ ⟨⟩
      exact ⟨hfirst, rfl⟩
  · intro r text
    refine ⟨fun hnone => ?_, fun entries hentries => ?_⟩
    · rw [submitText, hnone]
    · rw [submitText, hentries]
  · intro r h
    refine ⟨h.allValid, fun id container? rowCount? => ?_⟩
    obtain ⟨hknown, hunknown⟩ := h.resolve id container? rowCount?
    refine ⟨⟨?_, fun hid => ⟨_, hunknown hid⟩⟩, hknown⟩
    rintro ⟨fault, hfault⟩ hid
    obtain ⟨t, ht, hid⟩ := List.mem_map.mp hid
    rw [hknown t (Array.mem_toList_iff.mp ht) hid] at hfault
    cases hfault

end Registry

end SampleLoad
