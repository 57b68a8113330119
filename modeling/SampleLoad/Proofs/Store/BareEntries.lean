import SampleLoad.Proofs.Store.Write
import SampleLoad.Template.Registry
import SampleLoad.Web.Client

/-!
Entries without rows in a batch. A client of the web API takes no note of them: it writes what it would write without
them. A store in memory looks for the container of every entry as soon as the batch has rows at all. So such an entry
is without effect there only if its container is there or if nothing is to be written; otherwise it may stop the rows
of the other entries. Main statement: `bare_entries_in_writes`.
-/

namespace SampleLoad

namespace Batch

/-- The batch without the entries that have no rows. -/
def pruned (b : Batch) : Batch := ⟨⟨b.entries.filter fun (_, rows) => !rows.isEmpty⟩⟩

theorem mem_pruned {b : Batch} {entry : String × Array Row} :
    entry ∈ b.pruned.entries ↔ entry ∈ b.entries ∧ entry.2 ≠ #[] := by
  refine List.mem_filter.trans (and_congr_right fun _ => ?_)
  simp

theorem pruned_isEmpty (b : Batch) : b.pruned.isEmpty = b.isEmpty := by
  rw [Bool.eq_iff_iff, isEmpty_iff, isEmpty_iff]
  constructor
  · intro hall entry hentry
    by_cases hrows : entry.2 = #[]
    · exact hrows
    · exact hall entry (mem_pruned.mpr ⟨hentry, hrows⟩)
  · intro hall entry hentry
    exact hall entry (mem_pruned.mp hentry).1

theorem rowsIn_filter (name : String) (entries : List (String × Array Row)) :
    rowsIn name (entries.filter fun (_, rows) => !rows.isEmpty) = rowsIn name entries := by
  induction entries with
  | nil => rfl
  | cons entry rest ih =>
      obtain ⟨other, rows⟩ := entry
      by_cases hrows : rows = #[]
      · subst hrows
        rw [List.filter_cons_of_neg (by simp), ih, rowsIn_cons]
        simp
      · rw [List.filter_cons_of_pos (by simpa using hrows), rowsIn_cons, ih, rowsIn_cons]

theorem rowsOf_pruned (b : Batch) (name : String) : b.pruned.rowsOf name = b.rowsOf name := rowsIn_filter name b.entries

end Batch

namespace WebApi

theorem targets_pruned (batch : Batch) : targets batch.pruned = targets batch := by
  show List.filter _ (List.filter _ _) = List.filter _ _
  rw [List.filter_filter]
  congr 1
  funext entry
  exact Bool.and_self _

theorem performOpen_pruned {m : Type → Type} [Monad m] (http : Http m) (config : WebApiConfig) (batch : Batch) :
    http.performOpen config (.write batch) = http.performOpen config (.write batch.pruned) := by
  rw [Http.performOpen, Http.performOpen, targets_pruned]

end WebApi

namespace MemoryStore

def notFound (name : String) : StoreError := .rejected 404 ("container '" ++ name ++ "' not found")

theorem accepts_of_missing {containers : NameMap StoredContainer} {name : String} (h : containers.find? name = none)
    (rows : Array Row) : accepts containers name rows = .error (notFound name) := by
  rw [accepts, h]
  rfl

theorem accepts_bare {containers : NameMap StoredContainer} {name : String} {content : StoredContainer}
    (h : containers.find? name = some content) : accepts containers name #[] = .ok () :=
  (accepts_eq_ok_iff containers name #[]).mpr ⟨content, h, nofun⟩

/-- The result refuses one of the entries without rows, whose container is not there. -/
def RefusesBare (containers : NameMap StoredContainer) (entries : List (String × Array Row))
    (result : Except StoreError Unit) : Prop :=
  ∃ name, (name, #[]) ∈ entries ∧ containers.find? name = none ∧ result = .error (notFound name)

theorem RefusesBare.cons {containers : NameMap StoredContainer} {rest : List (String × Array Row)}
    {result : Except StoreError Unit} (entry : String × Array Row) (h : RefusesBare containers rest result) :
    RefusesBare containers (entry :: rest) result := by
  obtain ⟨name, hmem, hrefused⟩ := h
  exact ⟨name, List.mem_cons_of_mem entry hmem, hrefused⟩

/-- Entries are taken as those of them that have rows are, unless one without rows is refused before. -/
theorem acceptsAll_filter (containers : NameMap StoredContainer) (entries : List (String × Array Row)) :
    acceptsAll containers entries = acceptsAll containers (entries.filter fun (_, rows) => !rows.isEmpty) ∨
      RefusesBare containers entries (acceptsAll containers entries) := by
  induction entries with
  | nil => exact .inl rfl
  | cons entry rest ih =>
      obtain ⟨name, rows⟩ := entry
      have hlater (hfirst : accepts containers name rows = .ok ()) :
          acceptsAll containers ((name, rows) :: rest) = acceptsAll containers rest := by
        rw [acceptsAll, hfirst]
      by_cases hrows : rows = #[]
      · subst hrows
        cases hfind : containers.find? name with
        | none =>
            refine .inr ⟨name, List.mem_cons_self, hfind, ?_⟩
            rw [acceptsAll, accepts_of_missing hfind]
        | some content =>
            rw [hlater (accepts_bare hfind), List.filter_cons_of_neg (by simp)]
            exact ih.imp_right (.cons _)
      · rw [List.filter_cons_of_pos (by simpa using hrows)]
        cases hfirst : accepts containers name rows with
        | error e =>
            left
            rw [acceptsAll, acceptsAll, hfirst]
        | ok taken =>
            rw [hlater hfirst, acceptsAll, hfirst]
            exact ih.imp_right (.cons _)

/-- A write comes to what it comes to without the entries that have no rows, unless one of these is refused. -/
theorem effect_write_pruned (containers : NameMap StoredContainer) (batch : Batch) :
    (effect containers (.write batch)).1 = (effect containers (.write batch.pruned)).1 ∨
      RefusesBare containers batch.entries (effect containers (.write batch)).1 := by
  have hresult (b : Batch) : (effect containers (.write b)).1 =
      if b.isEmpty then .ok () else acceptsAll containers b.entries := by
    rw [effect]
    split
    · rfl
    · cases acceptsAll containers b.entries <;> rfl
  rw [hresult, hresult, Batch.pruned_isEmpty]
  split
  · exact .inl rfl
  · exact acceptsAll_filter containers batch.entries

/-- Writes with the same rows and the same result leave the same. -/
theorem find?_effect_write_congr {containers : NameMap StoredContainer} {batch other : Batch}
    (hrows : ∀ name, batch.rowsOf name = other.rowsOf name)
    (hresult : (effect containers (.write batch)).1 = (effect containers (.write other)).1) (name : String) :
    (effect containers (.write batch)).2.find? name = (effect containers (.write other)).2.find? name := by
  cases hok : (effect containers (.write batch)).1 with
  | ok done => rw [find?_effect_write hok, find?_effect_write (hresult ▸ hok), hrows]
  | error e => rw [effect_of_error hok, effect_of_error (hresult ▸ hok)]

/-- Every entry without rows is for a container that is there. -/
def KnowsBare (containers : NameMap StoredContainer) (batch : Batch) : Prop :=
  ∀ name, (name, #[]) ∈ batch.entries → ∃ content, containers.find? name = some content

theorem knowsBare_of_ok {containers : NameMap StoredContainer} {batch : Batch}
    (hok : (effect containers (.write batch)).1 = .ok ()) : batch.isEmpty ∨ KnowsBare containers batch := by
  refine ((effect_write_ok_iff containers batch).mp hok).imp_right fun htakes name hmem => ?_
  obtain ⟨content, hfind, -⟩ := htakes _ hmem
  exact ⟨content, hfind⟩

theorem effect_write_pruned_of_knowsBare {containers : NameMap StoredContainer} {batch : Batch}
    (hbare : batch.isEmpty ∨ KnowsBare containers batch) :
    (effect containers (.write batch)).1 = (effect containers (.write batch.pruned)).1 := by
  rcases effect_write_pruned containers batch with hsame | ⟨name, hmem, hmissing, hfails⟩
  · exact hsame
  · rcases hbare with hempty | hknows
    · rw [(effect_write_ok_iff containers batch).mpr (.inl hempty)] at hfails
      cases hfails
    · obtain ⟨content, hfind⟩ := hknows name hmem
      cases hmissing.symm.trans hfind

end MemoryStore

/-- Entries without rows are without effect on a client of the web API, whatever its session and the server: it sends
the same requests and comes to the same result. They are without effect on an open store in memory if their containers
are there, or if the batch has no rows at all. Otherwise the write fails and stores nothing: the rows of the other
entries fail it as well, or the container of an entry without rows is not found. -/
theorem bare_entries_in_writes (s : MemoryStore) (batch : Batch) (hopen : s.closes = 0) (hfree : s.failPoint? = none) :
    let whole := s.perform (.write batch)
    let pruned := s.perform (.write batch.pruned)
    let harmless := batch.isEmpty ∨ MemoryStore.KnowsBare s.containers batch
    (∀ (m : Type → Type) [Monad m] (http : WebApi.Http m),
        http.perform (.write batch) = http.perform (.write batch.pruned)) ∧
      (harmless → whole.1 = pruned.1 ∧ ∀ name, whole.2.container? name = pruned.2.container? name) ∧
      (¬harmless → ∃ e, whole.1 = .error e ∧ (∀ name, whole.2.container? name = s.container? name) ∧
        (pruned.1 = .error e ∨
          ∃ name, (name, #[]) ∈ batch.entries ∧ s.container? name = none ∧ e = MemoryStore.notFound name)) := by
  intro whole pruned harmless
  have hcarried (b : Batch) : s.perform (.write b) = _ := MemoryStore.perform_carried hopen (by rw [hfree]; nofun)
  have hwhole : whole = _ := hcarried batch
  have hpruned : pruned = _ := hcarried batch.pruned
  rw [hwhole, hpruned]
  refine ⟨?_, ?_, ?_⟩
  · intro m _ http
    funext session
    rw [WebApi.Http.perform, WebApi.Http.perform, WebApi.performOpen_pruned]
    rfl
  · intro hbare
    have hresult := MemoryStore.effect_write_pruned_of_knowsBare hbare
    exact ⟨hresult, MemoryStore.find?_effect_write_congr (fun name => (batch.rowsOf_pruned name).symm) hresult⟩
  · intro hbare
    cases hresult : (MemoryStore.effect s.containers (.write batch)).1 with
    | ok done => exact absurd (MemoryStore.knowsBare_of_ok hresult) hbare
    | error e =>
        refine ⟨e, rfl, ?_, ?_⟩
        · intro name
          exact congrArg (·.find? name) (MemoryStore.effect_of_error hresult)
        · rcases MemoryStore.effect_write_pruned s.containers batch with hsame | ⟨name, hmem, hmissing, hfails⟩
          · exact .inl (hsame.symm.trans hresult)
          · exact .inr ⟨name, hmem, hmissing, Except.error.inj (hresult.symm.trans hfails)⟩

theorem bare_entries_in_writes_missing :
    let s : MemoryStore := {}
    let batch : Batch := ⟨⟨[("a", #[]), ("b", #[⟨[.integer 1]⟩])]⟩⟩
    s.closes = 0 ∧ s.failPoint? = none ∧
      ∃ e, (s.perform (.write batch)).1 = .error e ∧ ∀ name, (s.perform (.write batch)).2.container? name = none := by
  intro s batch
  have hbare : ¬(batch.isEmpty ∨ MemoryStore.KnowsBare s.containers batch) := by
    rintro (hempty | hknows)
    · exact absurd hempty (by decide)
    · obtain ⟨content, hfind⟩ := hknows "a" List.mem_cons_self
      cases hfind
  obtain ⟨e, hfails, hkeeps, -⟩ := (bare_entries_in_writes s batch rfl rfl).2.2 hbare
  exact ⟨rfl, rfl, e, hfails, hkeeps⟩

/-- An entry without rows stops the rows of another entry. -/
theorem bare_entry_stops_rows :
    let epoch : Instant := ⟨0, by decide⟩
    let row : Row := ⟨[.timestamp epoch, .timestamp epoch, .string "x", .integer 1]⟩
    let s := MemoryStore.insertContainer {} "b" Builtin.multipleTimeColumns.schema #[]
    let batch : Batch := ⟨⟨[("a", #[]), ("b", #[row])]⟩⟩
    (s.perform (.write batch)).1 = .error (.rejected 404 "container 'a' not found") ∧
      (s.perform (.write batch)).2.container? "b" = some ⟨Builtin.multipleTimeColumns.schema, #[]⟩ ∧
      (s.perform (.write batch.pruned)).1 = .ok () ∧
      (s.perform (.write batch.pruned)).2.container? "b" = some ⟨Builtin.multipleTimeColumns.schema, #[row]⟩ := by
  intro epoch row s batch
  have hfind : s.containers.find? "b" = some ⟨Builtin.multipleTimeColumns.schema, #[]⟩ := rfl
  have hwidth : ∀ r ∈ #[row], r.width = Builtin.multipleTimeColumns.schema.width := by decide
  obtain ⟨after, heffect, hstored, -⟩ := MemoryStore.effect_write_single hfind hwidth
  have hpruned : batch.pruned = .single "b" #[row] := rfl
  have hwrite : s.perform (.write (.single "b" #[row])) = _ := MemoryStore.perform_carried rfl nofun
  rw [heffect] at hwrite
  rw [hpruned, hwrite]
  exact ⟨rfl, rfl, rfl, hstored⟩

end SampleLoad
