import Mathlib.Data.List.Forall2
import SampleLoad.Template.Document

/-!
What the entries of a template document declare. An entry declares a schema as soon as its types can be read, and
a template if that schema is valid. Entries are taken in order up to the first that is bad; if there is one, it
decides the answer and nothing is registered. Main lemma: `Registry.registerEntries_cases`.
-/

namespace SampleLoad

/-- The column that an entry declares at a position. -/
structure ColumnEntry.Declares (e : ColumnEntry) (position : Nat) (c : Column) : Prop where
  type : ColumnType.parse e.type = .ok c.type
  name : c.name = e.name
  position : c.position = .ofNat position
  isKey : c.isKey = e.isKey
  /-- The given strategy, or that of the type. -/
  strategy : c.strategy = e.strategy?.getD (.default c.type)

theorem ColumnEntry.column_eq_ok_iff (e : ColumnEntry) (position : Nat) (c : Column) :
    e.column position = .ok c ↔ e.Declares position c := by
  obtain ⟨name, place, type, isKey, strategy⟩ := c
  unfold column
  cases hparse : ColumnType.parse e.type with
  | error fault =>
      refine iff_of_false nofun fun h => ?_
      cases hparse.symm.trans h.type
  | ok parsed =>
      rw [Except.ok.injEq]
      constructor
      · rintro ⟨⟩
        exact ⟨hparse, rfl, rfl, rfl, rfl⟩
      · rintro ⟨htype, rfl, rfl, rfl, hstrategy⟩
        obtain rfl : parsed = type := Except.ok.inj (hparse.symm.trans htype)
        rw [← hstrategy]

theorem ColumnEntry.column_eq_error_iff (e : ColumnEntry) (position : Nat) (fault : UnsupportedColumnType) :
    e.column position = .error fault ↔ ColumnType.parse e.type = .error fault := by
  unfold column
  cases ColumnType.parse e.type <;> simp

namespace TemplateEntry

/-- The schema that an entry declares: its columns in order, each at its place. -/
structure Declares (e : TemplateEntry) (s : Schema) : Prop where
  name : s.name = e.id
  kind : s.kind = e.kind
  width : s.width = e.columns.length
  columns : ∀ (i : Nat) c column, e.columns[i]? = some c → s.columns[i]? = some column → c.Declares i column

structure Yields (e : TemplateEntry) (t : Template) : Prop where
  id : t.id = e.id
  container : t.container = e.container?.getD e.id
  rowCount : t.rowCount = e.rowCount
  schema : e.Declares t.schema
  valid : t.schema.validate = .ok ()

def TypesRead (e : TemplateEntry) : Prop := ∀ c ∈ e.columns, ∃ type, ColumnType.parse c.type = .ok type

structure Sound (e : TemplateEntry) : Prop where
  types : e.TypesRead
  valid : ∀ s, e.Declares s → s.validate = .ok ()

/-- What is wrong with an entry: the first of its types that cannot be read, or else its schema. -/
inductive Faulty (e : TemplateEntry) : SchemaError → Prop where
  | type {before after : List ColumnEntry} {c : ColumnEntry} {fault : UnsupportedColumnType}
    (hcolumns : e.columns = before ++ c :: after)
    (hbefore : ∀ b ∈ before, ∃ type, ColumnType.parse b.type = .ok type)
    (hfault : ColumnType.parse c.type = .error fault) : Faulty e (.mismatch e.id (.unsupportedType fault))
  | schema {s : Schema} {fault : SchemaError} (hs : e.Declares s) (hfault : s.validate = .error fault) :
    Faulty e fault

/-! ### One entry -/

theorem columnsFrom_eq_ok_iff (position : Nat) (entries : List ColumnEntry) (columns : List Column) :
    columnsFrom position entries = .ok columns ↔
      columns.length = entries.length ∧
        ∀ (i : Nat) c column, entries[i]? = some c → columns[i]? = some column → c.Declares (position + i) column := by
  induction entries generalizing position columns with
  | nil =>
      rw [columnsFrom, Except.ok.injEq, List.length_nil, List.length_eq_zero_iff]
      constructor
      · rintro rfl
        exact ⟨rfl, by simp⟩
      · exact fun h => h.1.symm
  | cons e rest ih =>
      cases hcolumn : e.column position with
      | error fault =>
          rw [columnsFrom, hcolumn]
          refine iff_of_false nofun ?_
          rintro ⟨hlength, hcolumns⟩
          obtain ⟨column, later, rfl⟩ := List.exists_cons_of_length_eq_add_one hlength
          have hfirst := (e.column_eq_ok_iff position column).mpr (hcolumns 0 e column rfl rfl)
          cases hcolumn.symm.trans hfirst
      | ok first =>
          have hdeclares := (e.column_eq_ok_iff position first).mp hcolumn
          constructor
          · intro h
            rw [columnsFrom, hcolumn] at h
            cases hrest : columnsFrom (position + 1) rest with
            | error fault =>
                rw [hrest] at h
                cases h
            | ok later =>
                rw [hrest] at h
                cases h
                obtain ⟨hlength, hlater⟩ := (ih (position + 1) later).mp hrest
                refine ⟨by rw [List.length_cons, List.length_cons, hlength], ?_⟩
                intro i c column hc hi
                cases i with
                | zero =>
                    cases hc
                    cases hi
                    exact hdeclares
                | succ i =>
                    rw [← Nat.add_assoc, Nat.add_right_comm]
                    exact hlater i c column hc hi
          · rintro ⟨hlength, hcolumns⟩
            obtain ⟨column, later, rfl⟩ := List.exists_cons_of_length_eq_add_one hlength
            have hfirst := (e.column_eq_ok_iff position column).mpr (hcolumns 0 e column rfl rfl)
            obtain rfl : first = column := Except.ok.inj (hcolumn.symm.trans hfirst)
            have hrest : columnsFrom (position + 1) rest = .ok later := by
              refine (ih (position + 1) later).mpr ⟨Nat.succ.inj hlength, ?_⟩
              intro i c column hc hi
              rw [Nat.add_assoc, Nat.add_comm 1]
              exact hcolumns (i + 1) c column hc hi
            rw [columnsFrom, hcolumn, hrest]

/-- Reading stops at the first type that cannot be read. -/
theorem columnsFrom_eq_error {position : Nat} {entries : List ColumnEntry} {fault : UnsupportedColumnType}
    (h : columnsFrom position entries = .error fault) :
    ∃ before c after, entries = before ++ c :: after ∧
      (∀ b ∈ before, ∃ type, ColumnType.parse b.type = .ok type) ∧ ColumnType.parse c.type = .error fault := by
  induction entries generalizing position with
  | nil => cases h
  | cons e rest ih =>
      rw [columnsFrom] at h
      cases hcolumn : e.column position with
      | error fault' =>
          rw [hcolumn] at h
          cases h
          exact ⟨[], e, rest, rfl, by simp, (e.column_eq_error_iff position fault).mp hcolumn⟩
      | ok column =>
          rw [hcolumn] at h
          cases hrest : columnsFrom (position + 1) rest with
          | ok later =>
              rw [hrest] at h
              cases h
          | error fault' =>
              rw [hrest] at h
              cases h
              obtain ⟨before, c, after, rfl, hbefore, hfault⟩ := ih hrest
              refine ⟨e :: before, c, after, rfl, ?_, hfault⟩
              intro b hb
              rcases List.mem_cons.mp hb with rfl | hb
              · exact ⟨column.type, ((b.column_eq_ok_iff position column).mp hcolumn).type⟩
              · exact hbefore b hb

theorem schema_eq_ok_iff (e : TemplateEntry) (s : Schema) : e.schema = .ok s ↔ e.Declares s := by
  obtain ⟨name, kind, columns⟩ := s
  have hcolumns := columnsFrom_eq_ok_iff 0 e.columns columns
  simp only [Nat.zero_add] at hcolumns
  unfold schema
  cases hread : columnsFrom 0 e.columns with
  | error fault =>
      refine iff_of_false nofun ?_
      rintro ⟨-, -, hwidth, hdeclares⟩
      cases hread.symm.trans (hcolumns.mpr ⟨hwidth, hdeclares⟩)
  | ok read =>
      rw [Except.ok.injEq]
      constructor
      · rintro ⟨⟩
        obtain ⟨hwidth, hdeclares⟩ := hcolumns.mp hread
        exact ⟨rfl, rfl, hwidth, hdeclares⟩
      · rintro ⟨rfl, rfl, hwidth, hdeclares⟩
        cases hread.symm.trans (hcolumns.mpr ⟨hwidth, hdeclares⟩)
        rfl

theorem Declares.unique {e : TemplateEntry} {s other : Schema} (h : e.Declares s) (hother : e.Declares other) :
    s = other :=
  Except.ok.inj (((e.schema_eq_ok_iff s).mpr h).symm.trans ((e.schema_eq_ok_iff other).mpr hother))

theorem Declares.typesRead {e : TemplateEntry} {s : Schema} (h : e.Declares s) : e.TypesRead := by
  intro c hc
  obtain ⟨i, hi⟩ := List.mem_iff_getElem?.mp hc
  have hlength : i < s.columns.length := by
    rw [← Schema.width, h.width]
    exact (List.getElem?_eq_some_iff.mp hi).1
  exact ⟨_, (h.columns i c _ hi (List.getElem?_eq_getElem hlength)).type⟩

theorem schema_cases (e : TemplateEntry) :
    (∃ s, e.schema = .ok s ∧ e.Declares s) ∨
      ∃ fault, e.schema = .error fault ∧ e.Faulty fault ∧ ¬e.TypesRead := by
  cases hschema : e.schema with
  | ok s => exact .inl ⟨s, rfl, (e.schema_eq_ok_iff s).mp hschema⟩
  | error fault =>
      refine .inr ⟨fault, rfl, ?_⟩
      unfold schema at hschema
      cases hread : columnsFrom 0 e.columns with
      | ok columns =>
          rw [hread] at hschema
          cases hschema
      | error unsupported =>
          rw [hread] at hschema
          cases hschema
          obtain ⟨before, c, after, hcolumns, hbefore, hfault⟩ := columnsFrom_eq_error hread
          refine ⟨.type hcolumns hbefore hfault, fun hall => ?_⟩
          obtain ⟨type, htype⟩ := hall c (by simp [hcolumns])
          cases hfault.symm.trans htype

/-- A schema is declared as soon as all types can be read. -/
theorem declares_iff_typesRead (e : TemplateEntry) : (∃ s, e.Declares s) ↔ e.TypesRead := by
  refine ⟨fun ⟨s, hs⟩ => hs.typesRead, fun h => ?_⟩
  rcases e.schema_cases with ⟨s, -, hs⟩ | ⟨fault, -, -, hunread⟩
  · exact ⟨s, hs⟩
  · exact absurd h hunread

/-- Either an entry declares a template, or something is wrong with it. -/
theorem template_cases (e : TemplateEntry) :
    (∃ t, e.template = .ok t ∧ e.Yields t ∧ e.Sound) ∨
      ∃ fault, e.template = .error fault ∧ e.Faulty fault ∧ ¬e.Sound := by
  rcases e.schema_cases with ⟨s, hschema, hs⟩ | ⟨fault, hschema, hfaulty, hunread⟩
  · cases hvalid : s.validate with
    | error fault =>
        refine .inr ⟨fault, by simp only [template, hschema, hvalid], .schema hs hvalid, fun hsound => ?_⟩
        cases hvalid.symm.trans (hsound.valid s hs)
    | ok valid =>
        refine .inl ⟨⟨e.id, e.container?.getD e.id, e.rowCount, s⟩, by simp only [template, hschema, hvalid],
          ⟨rfl, rfl, rfl, hs, hvalid⟩, hs.typesRead, ?_⟩
        intro other hother
        rw [← hs.unique hother]
        exact hvalid
  · exact .inr ⟨fault, by simp only [template, hschema], hfaulty, fun hsound => hunread hsound.types⟩

/-! ### All entries -/

/-- Entries in which there is a bad one, whose fault is the first. -/
def FirstFault (entries : List TemplateEntry) (fault : SchemaError) : Prop :=
  ∃ before e after, entries = before ++ e :: after ∧ (∀ b ∈ before, b.Sound) ∧ ¬e.Sound ∧ e.Faulty fault

theorem FirstFault.not_sound {entries : List TemplateEntry} {fault : SchemaError} (h : FirstFault entries fault) :
    ¬∀ e ∈ entries, e.Sound := by
  obtain ⟨before, e, after, rfl, -, hbad, -⟩ := h
  exact fun hall => hbad (hall e (by simp))

theorem templates_cases (entries : List TemplateEntry) :
    (∃ ts, templates entries = .ok ts ∧ List.Forall₂ Yields entries ts ∧ ∀ e ∈ entries, e.Sound) ∨
      ∃ fault, templates entries = .error fault ∧ FirstFault entries fault := by
  induction entries with
  | nil => exact .inl ⟨[], rfl, .nil, by simp⟩
  | cons e rest ih =>
      rcases e.template_cases with ⟨t, htemplate, hyields, hsound⟩ | ⟨fault, htemplate, hfaulty, hbad⟩
      · rcases ih with ⟨ts, hrest, hall, hsounds⟩ | ⟨fault, hrest, before, bad, after, rfl, hbefore, hbad⟩
        · refine .inl ⟨t :: ts, by rw [templates, htemplate, hrest], .cons hyields hall, ?_⟩
          exact List.forall_mem_cons.mpr ⟨hsound, hsounds⟩
        · refine .inr ⟨fault, by rw [templates, htemplate, hrest], e :: before, bad, after, rfl, ?_, hbad⟩
          exact List.forall_mem_cons.mpr ⟨hsound, hbefore⟩
      · exact .inr ⟨fault, by rw [templates, htemplate], [], e, rest, rfl, by simp, hbad, hfaulty⟩

end TemplateEntry

namespace Registry

/-- Either all entries are registered in order, or the first bad one is reported and nothing is registered. -/
theorem registerEntries_cases (r : Registry) (entries : List TemplateEntry) :
    (∃ ts, r.registerEntries entries = (.ok entries.length, r.registerAll ts) ∧
        List.Forall₂ TemplateEntry.Yields entries ts ∧ ∀ e ∈ entries, e.Sound) ∨
      ∃ fault, r.registerEntries entries = (.error fault, r) ∧ TemplateEntry.FirstFault entries fault := by
  rcases TemplateEntry.templates_cases entries with ⟨ts, htemplates, hyields, hsound⟩ | ⟨fault, htemplates, hfirst⟩
  · exact .inl ⟨ts, by rw [registerEntries, htemplates, hyields.length_eq], hyields, hsound⟩
  · exact .inr ⟨fault, by rw [registerEntries, htemplates], hfirst⟩

end Registry

end SampleLoad
