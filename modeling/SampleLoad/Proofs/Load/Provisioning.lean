import SampleLoad.Proofs.Load.Stored

/-!
Provisioning a container of a store in memory, told by its calls. If it fails, then in one of its calls, and which one
it is decides what is left of the container: dropping and creating are two calls, so it may be gone, but it is never
there with rows under a new schema. Whatever attempts left it behind, the next one that succeeds makes it new, and no
other container ever changes. Main statement: `provision_recovers`.
-/

namespace SampleLoad

open MemoryStore (SameElsewhere)

/-! ### The calls of provisioning -/

/-- The calls after which a container is not there, if they succeed; it may have been there before. -/
inductive Clears (container : String) (s : MemoryStore) : (existed : Bool) → MemoryStore → Prop where
  | absent {seen : MemoryStore} (hseen : s.perform (.exists container) = (.ok false, seen)) :
    Clears container s false seen
  | dropped {seen after : MemoryStore} (hseen : s.perform (.exists container) = (.ok true, seen))
    (hdropped : seen.perform (.drop container) = (.ok (), after)) : Clears container s true after

/-- The call in which creating a container anew fails, with its error, and the store after it. -/
inductive FailsIn (container : String) (schema : Schema) (s : MemoryStore) :
    StoreCall → StoreError → MemoryStore → Prop where
  | exists {e : StoreError} {after : MemoryStore} (h : s.perform (.exists container) = (.error e, after)) :
    FailsIn container schema s (.exists container) e after
  | drop {seen : MemoryStore} {e : StoreError} {after : MemoryStore}
    (hseen : s.perform (.exists container) = (.ok true, seen))
    (h : seen.perform (.drop container) = (.error e, after)) :
    FailsIn container schema s (.drop container) e after
  | create {existed : Bool} {cleared : MemoryStore} {e : StoreError} {after : MemoryStore}
    (hcleared : Clears container s existed cleared)
    (h : cleared.perform (.create container schema) = (.error e, after)) :
    FailsIn container schema s (.create container schema) e after

section Calls

variable (s : MemoryStore) (container : String) (schema : Schema)

/-- Creating a container anew fails in one of its calls, or all of them succeed. -/
theorem recreate_cases :
    (∃ call e after, (recreate memoryStore container schema).run s = (.error e, after) ∧
        FailsIn container schema s call e after) ∨
      ∃ existed cleared after, Clears container s existed cleared ∧
        cleared.perform (.create container schema) = (.ok (), after) ∧
        (recreate memoryStore container schema).run s =
          (.ok (if existed then .recreated else .created), after) := by
  rcases hseen : s.perform (.exists container) with ⟨answer | existed, seen⟩
  · refine .inl ⟨_, answer, seen, ?_, .exists hseen⟩
    rw [recreate, MemoryStore.perform_bind hseen]
    rfl
  change Bool at existed
  cases existed with
  | false =>
      rcases hcreated : seen.perform (.create container schema) with ⟨e | created, after⟩
      · refine .inl ⟨_, e, after, ?_, .create (.absent hseen) hcreated⟩
        rw [recreate, MemoryStore.perform_bind hseen]
        exact MemoryStore.perform_bind hcreated
      · refine .inr ⟨_, seen, after, .absent hseen, hcreated, ?_⟩
        rw [recreate, MemoryStore.perform_bind hseen]
        exact MemoryStore.perform_bind hcreated
  | true =>
      rcases hdropped : seen.perform (.drop container) with ⟨e | dropped, cleared⟩
      · refine .inl ⟨_, e, cleared, ?_, .drop hseen hdropped⟩
        rw [recreate, MemoryStore.perform_bind hseen]
        exact MemoryStore.perform_bind hdropped
      rcases hcreated : cleared.perform (.create container schema) with ⟨e | created, after⟩
      · refine .inl ⟨_, e, after, ?_, .create (.dropped hseen hdropped) hcreated⟩
        rw [recreate, MemoryStore.perform_bind hseen]
        exact (MemoryStore.perform_bind hdropped).trans (MemoryStore.perform_bind hcreated)
      · refine .inr ⟨_, cleared, after, .dropped hseen hdropped, hcreated, ?_⟩
        rw [recreate, MemoryStore.perform_bind hseen]
        exact (MemoryStore.perform_bind hdropped).trans (MemoryStore.perform_bind hcreated)

end Calls

/-! ### What the calls leave -/

section Left

variable {s : MemoryStore} {container : String} {schema : Schema}

/-- Looking for a container tells whether it is there and changes none. -/
theorem MemoryStore.perform_exists {found : Bool} {after : MemoryStore}
    (h : s.perform (.exists container) = (.ok found, after)) :
    (found = true ↔ ∃ content, s.container? container = some content) ∧ after.containers = s.containers := by
  have heffect := perform_of_ok (congrArg Prod.fst h)
  rw [h] at heffect
  obtain ⟨hfound, hafter⟩ := Prod.mk.inj heffect
  refine ⟨?_, hafter.symm⟩
  rw [← Except.ok.inj hfound, NameMap.contains, container?, Option.isSome_iff_exists]

theorem Clears.existed_iff {existed : Bool} {cleared : MemoryStore} (h : Clears container s existed cleared) :
    existed = true ↔ ∃ content, s.container? container = some content := by
  cases h with
  | absent hseen => exact (MemoryStore.perform_exists hseen).1
  | dropped hseen hdropped => exact (MemoryStore.perform_exists hseen).1

theorem Clears.container?_eq_none {existed : Bool} {cleared : MemoryStore}
    (h : Clears container s existed cleared) : cleared.container? container = none := by
  cases h with
  | absent hseen =>
      obtain ⟨hfound, hsame⟩ := MemoryStore.perform_exists hseen
      rw [MemoryStore.container?, hsame, Option.eq_none_iff_forall_ne_some]
      intro content hcontent
      exact absurd (hfound.mpr ⟨content, hcontent⟩) Bool.false_ne_true
  | dropped hseen hdropped =>
      have heffect := MemoryStore.perform_of_ok (congrArg Prod.fst hdropped)
      rw [hdropped] at heffect
      rw [MemoryStore.container?, ← (Prod.mk.inj heffect).2]
      exact NameMap.find?_erase_self _ _

theorem MemoryStore.containers_of_failed {call : StoreCall} {e : StoreError} {after : MemoryStore}
    (h : s.perform call = (.error e, after)) : after.containers = s.containers := by
  have hkept := perform_of_error (congrArg Prod.fst h)
  rw [h] at hkept
  exact hkept

/-- Where creating fails, the container is gone; where an earlier call fails, it is as it was. -/
theorem FailsIn.container?_eq {call : StoreCall} {e : StoreError} {after : MemoryStore}
    (h : FailsIn container schema s call e after) :
    call = .create container schema ∧ after.container? container = none ∨
      (call = .exists container ∨ call = .drop container) ∧
        after.container? container = s.container? container := by
  cases h with
  | «exists» h =>
      exact .inr ⟨.inl rfl, congrArg (NameMap.find? · container) (MemoryStore.containers_of_failed h)⟩
  | drop hseen h =>
      have hkept := (MemoryStore.containers_of_failed h).trans (MemoryStore.perform_exists hseen).2
      exact .inr ⟨.inr rfl, congrArg (NameMap.find? · container) hkept⟩
  | create hcleared h =>
      have hkept := congrArg (NameMap.find? · container) (MemoryStore.containers_of_failed h)
      exact .inl ⟨rfl, hkept.trans hcleared.container?_eq_none⟩

end Left

/-! ### Provisioning -/

section Provision

variable (s : MemoryStore) (container : String) (schema : Schema)

/-- Provisioning fails in one of its calls, or the container is new and the outcome tells whether it was there. -/
theorem provision_cases :
    (∃ call e after, (provision memoryStore container schema).run s = (.error (.provision container e), after) ∧
        FailsIn container schema s call e after) ∨
      ∃ outcome after, (provision memoryStore container schema).run s = (.ok outcome, after) ∧
        (outcome = .recreated ↔ ∃ content, s.container? container = some content) := by
  rw [provision, StateT.run_bind]
  rcases recreate_cases s container schema with ⟨call, e, after, hrun, hfails⟩ |
    ⟨existed, cleared, after, hcleared, hcreated, hrun⟩
  · rw [hrun]
    exact .inl ⟨call, e, after, rfl, hfails⟩
  · rw [hrun]
    refine .inr ⟨_, after, rfl, ?_⟩
    rw [← hcleared.existed_iff]
    cases existed <;> simp

/-- An open store that never fails has the container new, and everything else as it was. -/
theorem provision_renews (hopen : s.closes = 0) (hfree : s.failPoint? = none) :
    ∃ outcome after, (provision memoryStore container schema).run s = (.ok outcome, after) ∧
      after.container? container = some ⟨schema, #[]⟩ ∧
      (∀ other, other ≠ container → after.container? other = s.container? other) ∧
      (outcome = .recreated ↔ ∃ content, s.container? container = some content) := by
  have hothers := (elsewhere_compositional container).provision schema s
  rcases provision_cases s container schema with ⟨call, e, after, hrun, -⟩ | ⟨outcome, after, hrun, houtcome⟩
  · obtain ⟨outcome, hsucceeds⟩ := provision_succeeds hopen hfree container schema
    rw [hrun] at hsucceeds
    cases hsucceeds
  · rw [hrun] at hothers
    exact ⟨outcome, after, hrun, (provision_stored hrun).1, hothers.others, houtcome⟩

end Provision

/-! ### Attempts -/

/-- An attempt to provision a container with a schema, through a handle of the store that may be told to fail. -/
structure ProvisionAttempt where
  failPoint? : Option FailPoint
  schema : Schema

namespace MemoryStore

/-- The store after an attempt. Handles have a fail point each and share everything else. -/
def attempt (s : MemoryStore) (container : String) (a : ProvisionAttempt) : MemoryStore :=
  ((provision memoryStore container a.schema).run (s.failingAt a.failPoint?)).2.failingAt s.failPoint?

/-- The store after attempts one after the other, whatever comes of each. -/
def afterAttempts (s : MemoryStore) (container : String) (attempts : List ProvisionAttempt) : MemoryStore :=
  attempts.foldl (fun s a => s.attempt container a) s

theorem attempt_elsewhere (s : MemoryStore) (container : String) (a : ProvisionAttempt) :
    SameElsewhere container s (s.attempt container a) := by
  have hsame := (elsewhere_compositional container).provision a.schema (s.failingAt a.failPoint?)
  exact ⟨hsame.closes, rfl, hsame.others⟩

theorem afterAttempts_elsewhere (s : MemoryStore) (container : String) (attempts : List ProvisionAttempt) :
    SameElsewhere container s (s.afterAttempts container attempts) := by
  induction attempts generalizing s with
  | nil => exact ⟨rfl, rfl, fun _ _ => rfl⟩
  | cons a rest ih => exact (s.attempt_elsewhere container a).trans (ih (s.attempt container a))

end MemoryStore

/-- An open store that never fails has a container provisioned: it is new, no other container changes, and the
outcome tells whether it was there. To provision it again, also after any attempts that may have failed, leaves the
same containers. Provisioning that fails, in whatever store, names the container and leaves it as it was, or gone if
it is creating that failed. -/
theorem provision_recovers (s : MemoryStore) (container : String) (schema : Schema) :
    (s.closes = 0 → s.failPoint? = none →
      ∃ outcome once, (provision memoryStore container schema).run s = (.ok outcome, once) ∧
        once.container? container = some ⟨schema, #[]⟩ ∧
        (∀ other, other ≠ container → once.container? other = s.container? other) ∧
        (outcome = .recreated ↔ ∃ content, s.container? container = some content) ∧
        ∀ start ∈ [s, once], ∀ attempts, ∃ later again,
          (provision memoryStore container schema).run (start.afterAttempts container attempts) = (.ok later, again) ∧
            ∀ name, again.container? name = once.container? name) ∧
      ∀ e after, (provision memoryStore container schema).run s = (.error e, after) →
        ∃ call source, e = .provision container source ∧ FailsIn container schema s call source after ∧
          (call = .create container schema ∧ after.container? container = none ∨
            (call = .exists container ∨ call = .drop container) ∧
              after.container? container = s.container? container) ∧
          (∀ content, after.container? container = some content → s.container? container = some content) ∧
          ∀ other, other ≠ container → after.container? other = s.container? other := by
  have hsame := (elsewhere_compositional container).provision schema s
  constructor
  · intro hopen hfree
    obtain ⟨outcome, once, hrun, hnew, hothers, houtcome⟩ := provision_renews s container schema hopen hfree
    rw [hrun] at hsame
    refine ⟨outcome, once, hrun, hnew, hothers, houtcome, ?_⟩
    intro start hstart attempts
    have hstarted : SameElsewhere container s start := by
      rcases List.mem_cons.mp hstart with rfl | hlater
      · exact ⟨rfl, rfl, fun _ _ => rfl⟩
      · exact List.mem_singleton.mp hlater ▸ hsame
    have hbefore := hstarted.trans (start.afterAttempts_elsewhere container attempts)
    obtain ⟨later, again, hagain, hrenewed, hkept, -⟩ := provision_renews (start.afterAttempts container attempts)
      container schema (hbefore.closes.trans hopen) (hbefore.failPoint.trans hfree)
    refine ⟨later, again, hagain, fun name => ?_⟩
    by_cases hname : name = container
    · rw [hname, hrenewed, hnew]
    · rw [hkept name hname, hbefore.others name hname, hothers name hname]
  · intro e after hrun
    rw [hrun] at hsame
    rcases provision_cases s container schema with ⟨call, source, _, hfailed, hfails⟩ | ⟨_, _, hsucceeded, -⟩
    · obtain ⟨he, rfl⟩ := Prod.mk.inj (hrun.symm.trans hfailed)
      refine ⟨call, source, Except.error.inj he, hfails, hfails.container?_eq, ?_, hsame.others⟩
      intro content hcontent
      rcases hfails.container?_eq with ⟨-, hgone⟩ | ⟨-, hkept⟩
      · rw [hgone] at hcontent
        cases hcontent
      · rw [← hkept, hcontent]
    · cases hrun.symm.trans hsucceeded

/-- A store with a row in each of two containers. -/
def twoContainers : MemoryStore where
  containers := ⟨[("t", ⟨⟨"old", .collection, [.plain "flag" 0 .bool]⟩, #[⟨[.bool true]⟩]⟩),
    ("u", ⟨⟨"old", .collection, [.plain "flag" 0 .bool]⟩, #[⟨[.bool false]⟩]⟩)]⟩

/-- Of three attempts that fail, the last drops a container and does not create it again. -/
theorem provision_recovers_dropped :
    let schema : Schema := ⟨"new", .timeSeries, [{ Column.plain "at" 0 .timestamp with isKey := true }]⟩
    let attempts : List ProvisionAttempt := [⟨some .drop, schema⟩, ⟨some .exists, schema⟩, ⟨some .create, schema⟩]
    let failing := twoContainers.failingAt (some .create)
    twoContainers.closes = 0 ∧ twoContainers.failPoint? = none ∧
      (∃ e after, (provision memoryStore "t" schema).run failing = (.error e, after) ∧
        (∃ source, e = .provision "t" source) ∧
        ∀ other, other ≠ "t" → after.container? other = twoContainers.container? other) ∧
      (twoContainers.afterAttempts "t" attempts).container? "t" = none ∧
      ∃ outcome once later again, (provision memoryStore "t" schema).run twoContainers = (.ok outcome, once) ∧
        (provision memoryStore "t" schema).run (twoContainers.afterAttempts "t" attempts) = (.ok later, again) ∧
        outcome = .recreated ∧ once.container? "t" = some ⟨schema, #[]⟩ ∧
        ∀ name, again.container? name = once.container? name := by
  intro schema attempts failing
  refine ⟨rfl, rfl, ?_, rfl, ?_⟩
  · obtain ⟨e, after, hrun⟩ : ∃ e after, (provision memoryStore "t" schema).run failing = (.error e, after) :=
      ⟨_, _, rfl⟩
    obtain ⟨-, source, he, -, -, -, hothers⟩ := (provision_recovers failing "t" schema).2 e after hrun
    exact ⟨e, after, hrun, ⟨source, he⟩, hothers⟩
  · obtain ⟨outcome, once, hrun, hnew, -, houtcome, hagain⟩ :=
      (provision_recovers twoContainers "t" schema).1 rfl rfl
    obtain ⟨later, again, hlater, hsame⟩ := hagain twoContainers List.mem_cons_self attempts
    exact ⟨outcome, once, later, again, hrun, hlater, houtcome.mpr ⟨_, rfl⟩, hnew, hsame⟩

end SampleLoad
