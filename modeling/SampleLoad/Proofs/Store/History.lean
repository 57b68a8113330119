import Mathlib.Data.List.Induction
import SampleLoad.Proofs.Store.Calls
import SampleLoad.Proofs.Store.Exchange

/-!
What a store in memory holds, told from its history. A container is there if it was created and not dropped since;
it has the schema that it was created with and the rows of all writes since, in order, and every row is as wide as
its schema. Calls that failed do not matter. Main statement: `MemoryStore.containers_of_history`.
-/

namespace SampleLoad

namespace Exchange

/-- The rows that an exchange brings a container: those of a write that succeeded. -/
def rowsFor (name : String) : Exchange → List Row
  | ⟨.write batch, .ok _⟩ => batch.rowsOf name
  | _ => []

/-- The container is created or dropped, with success. -/
def Resets (name : String) (x : Exchange) : Prop :=
  (∃ schema, x = ⟨.create name schema, .ok ()⟩) ∨ x = ⟨.drop name, .ok ()⟩

/-- A history leaves a container behind: it was created with its schema, neither created nor dropped again, and
was brought its rows since. -/
def Leaves (history : List Exchange) (name : String) (content : StoredContainer) : Prop :=
  ∃ before since, history = before ++ ⟨.create name content.schema, .ok ()⟩ :: since ∧
    (∀ x ∈ since, ¬x.Resets name) ∧ content.rows.toList = since.flatMap (rowsFor name)

/-- What an exchange makes of a container. -/
def turn (name : String) (content? : Option StoredContainer) : Exchange → Option StoredContainer
  | ⟨.create other schema, .ok _⟩ => if other = name then some ⟨schema, #[]⟩ else content?
  | ⟨.drop other, .ok _⟩ => if other = name then none else content?
  | x => content?.map (·.extend (x.rowsFor name))

theorem turn_error (name : String) (content? : Option StoredContainer) (call : StoreCall) (e : StoreError) :
    turn name content? ⟨call, .error e⟩ = content? := by
  cases call <;> simp [turn, rowsFor]

theorem turn_of_not_resets {name : String} {x : Exchange} (h : ¬x.Resets name)
    (content? : Option StoredContainer) : turn name content? x = content?.map (·.extend (x.rowsFor name)) := by
  obtain ⟨call, answer⟩ := x
  cases answer with
  | error e => rw [turn_error]; cases call <;> simp [rowsFor]
  | ok answer =>
      cases call with
      | create other schema =>
          have hother : other ≠ name := by
            rintro rfl
            exact h (.inl ⟨schema, rfl⟩)
          simp [turn, rowsFor, hother]
      | drop other =>
          have hother : other ≠ name := by
            rintro rfl
            exact h (.inr rfl)
          simp [turn, rowsFor, hother]
      | _ => rfl

/-- A container after an exchange is new, or it was there and has what the exchange brought it. -/
theorem turn_eq_some_iff (name : String) (content? : Option StoredContainer) (x : Exchange)
    (content : StoredContainer) :
    turn name content? x = some content ↔
      x = ⟨.create name content.schema, .ok ()⟩ ∧ content.rows = #[] ∨
        ¬x.Resets name ∧ ∃ earlier, content? = some earlier ∧ earlier.extend (x.rowsFor name) = content := by
  by_cases hreset : x.Resets name
  · rw [or_iff_left (fun h => h.1 hreset)]
    rcases hreset with ⟨schema, rfl⟩ | rfl
    · obtain ⟨schema', rows⟩ := content
      simp [turn, eq_comm]
    · simp [turn]
  · have hnew : ¬x = ⟨.create name content.schema, .ok ()⟩ := fun h => hreset (.inl ⟨_, h⟩)
    rw [turn_of_not_resets hreset, Option.map_eq_some_iff]
    simp [hnew, hreset]

theorem mem_rowsFor {name : String} {x : Exchange} {row : Row} (h : row ∈ x.rowsFor name) :
    ∃ batch, x = ⟨.write batch, .ok ()⟩ ∧ row ∈ batch.rowsOf name := by
  unfold rowsFor at h
  split at h
  · exact ⟨_, rfl, h⟩
  · cases h

/-- What a history leaves behind, by its last exchange. -/
theorem leaves_append_singleton_iff (history : List Exchange) (x : Exchange) (name : String)
    (content : StoredContainer) :
    Leaves (history ++ [x]) name content ↔
      x = ⟨.create name content.schema, .ok ()⟩ ∧ content.rows = #[] ∨
        ¬x.Resets name ∧ ∃ earlier, Leaves history name earlier ∧ earlier.extend (x.rowsFor name) = content := by
  constructor
  · rintro ⟨before, since, hsplit, hquiet, hrows⟩
    cases since using List.reverseRecOn with
    | nil =>
        obtain ⟨-, hlast⟩ := List.append_inj' hsplit rfl
        exact .inl ⟨List.singleton_inj.mp hlast, by simpa using hrows⟩
    | append_singleton sooner last =>
        rw [← List.cons_append, ← List.append_assoc] at hsplit
        obtain ⟨rfl, hlast⟩ := List.append_inj' hsplit rfl
        obtain rfl : x = last := List.singleton_inj.mp hlast
        have hall : (sooner.flatMap (rowsFor name)).toArray ++ (x.rowsFor name).toArray = content.rows := by
          rw [← Array.toList_inj]
          simp [hrows]
        refine .inr ⟨hquiet x (by simp), ⟨content.schema, (sooner.flatMap (rowsFor name)).toArray⟩, ?_, ?_⟩
        · exact ⟨before, sooner, rfl, fun y hy => hquiet y (by simp [hy]), rfl⟩
        · rw [StoredContainer.extend, hall]
  · rintro (⟨rfl, hrows⟩ | ⟨hquiet, earlier, ⟨before, since, rfl, hsince, hrows⟩, rfl⟩)
    · exact ⟨history, [], rfl, by simp, by simp [hrows]⟩
    · refine ⟨before, since ++ [x], by simp [StoredContainer.extend], ?_, ?_⟩
      · intro y hy
        rcases List.mem_append.mp hy with hearlier | hlast
        · exact hsince y hearlier
        · exact List.mem_singleton.mp hlast ▸ hquiet
      · simp [StoredContainer.extend, hrows]

/-- Taking a history one exchange at a time comes to what it leaves behind. -/
theorem foldl_turn_eq_some_iff (history : List Exchange) (name : String) (content : StoredContainer) :
    history.foldl (turn name) none = some content ↔ Leaves history name content := by
  induction history using List.reverseRecOn generalizing content with
  | nil => simp [Leaves]
  | append_singleton history x ih =>
      rw [List.foldl_append, List.foldl_cons, List.foldl_nil, leaves_append_singleton_iff, turn_eq_some_iff]
      simp only [ih]

end Exchange

namespace MemoryStore

open Exchange (turn rowsFor)

def exchanges (s : MemoryStore) : List StoreCall → List Exchange
  | [] => []
  | call :: rest => ⟨call, (s.perform call).1⟩ :: exchanges (s.perform call).2 rest

theorem find?_effect (containers : NameMap StoredContainer) (call : StoreCall) (name : String) :
    (effect containers call).2.find? name = turn name (containers.find? name) ⟨call, (effect containers call).1⟩ := by
  cases call with
  | «exists» other => simp [effect, turn, rowsFor]
  | create other schema =>
      by_cases hpresent : containers.contains other
      · rw [effect_create_present schema hpresent, Exchange.turn_error]
      · rw [effect_create_absent schema hpresent]
        by_cases hname : other = name
        · subst hname
          simp [turn]
        · simp [turn, hname, NameMap.find?_insert_of_ne _ (Ne.symm hname)]
  | drop other =>
      by_cases hname : other = name
      · subst hname
        simp [effect, turn]
      · simp [effect, turn, hname, NameMap.find?_erase_of_ne _ (Ne.symm hname)]
  | write batch =>
      cases hanswer : (effect containers (.write batch)).1 with
      | error e => rw [effect_of_error hanswer, Exchange.turn_error]
      | ok answer => rw [find?_effect_write hanswer]; rfl
  | close => simp [effect, turn, rowsFor]

/-- A call changes each container as its answer tells. -/
theorem container?_perform (s : MemoryStore) (call : StoreCall) (name : String) :
    (s.perform call).2.container? name = turn name (s.container? name) ⟨call, (s.perform call).1⟩ := by
  rw [container?, container?, perform_eq]
  cases s.refusal? call with
  | some e => rw [Exchange.turn_error, noted_containers]
  | none => exact find?_effect s.containers call name

theorem container?_afterCalls (s : MemoryStore) (calls : List StoreCall) (name : String) :
    (s.afterCalls calls).container? name = (s.exchanges calls).foldl (turn name) (s.container? name) := by
  induction calls generalizing s with
  | nil => rfl
  | cons call rest ih =>
      rw [exchanges, List.foldl_cons, ← container?_perform]
      exact ih (s.perform call).2

/-! ### Widths -/

/-- Every row is as wide as the schema of its container. -/
def Aligned (containers : NameMap StoredContainer) : Prop :=
  ∀ name content, containers.find? name = some content → ∀ row ∈ content.rows, row.width = content.schema.width

theorem aligned_effect {containers : NameMap StoredContainer} (h : Aligned containers) (call : StoreCall) :
    Aligned (effect containers call).2 := by
  intro name content hfind row hrow
  rw [find?_effect, Exchange.turn_eq_some_iff] at hfind
  rcases hfind with ⟨-, hnone⟩ | ⟨-, earlier, hearlier, rfl⟩
  · rw [hnone] at hrow
    exact absurd hrow (Array.not_mem_empty row)
  · rcases Array.mem_append.mp hrow with hold | hnew
    · exact h name earlier hearlier row hold
    · obtain ⟨batch, hwrite, hmem⟩ := Exchange.mem_rowsFor (List.mem_toArray.mp hnew)
      obtain ⟨rfl, hok⟩ := Exchange.mk.inj hwrite
      exact width_of_effect_write (eq_of_heq hok) hearlier row hmem

theorem aligned_perform {s : MemoryStore} (h : Aligned s.containers) (call : StoreCall) :
    Aligned (s.perform call).2.containers := by
  rw [perform_eq]
  cases s.refusal? call with
  | some e => rwa [noted_containers]
  | none => exact aligned_effect h call

theorem aligned_afterCalls {s : MemoryStore} (h : Aligned s.containers) (calls : List StoreCall) :
    Aligned (s.afterCalls calls).containers := by
  induction calls generalizing s with
  | nil => exact h
  | cons call rest ih => exact ih (aligned_perform h call)

/-- A store that starts without containers, wherever it is to fail, holds what its history leaves behind, and no
row has another width than its container. -/
theorem containers_of_history (point? : Option FailPoint) (calls : List StoreCall) (name : String) :
    let start := ({} : MemoryStore).failingAt point?
    (∀ content, (start.afterCalls calls).container? name = some content ↔
        Exchange.Leaves (start.exchanges calls) name content) ∧
      ∀ content, (start.afterCalls calls).container? name = some content →
        ∀ row ∈ content.rows, row.width = content.schema.width := by
  intro start
  have hstart : Aligned start.containers := by
    intro name content h
    cases h
  refine ⟨?_, aligned_afterCalls hstart calls name⟩
  intro content
  rw [container?_afterCalls]
  exact Exchange.foldl_turn_eq_some_iff (start.exchanges calls) name content

end MemoryStore

end SampleLoad
