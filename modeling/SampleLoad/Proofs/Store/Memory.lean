import SampleLoad.Proofs.Rows.NameMap
import SampleLoad.Store.Memory

/-!
Calls on a store in memory, taken apart. Every call is first taken note of: it is logged, and writes and
closes are counted. A call is then refused, because the store is closed or is to fail there, or it has an
effect, which depends on the containers alone and changes nothing else. Main statement:
`MemoryStore.perform_eq`.
-/

namespace SampleLoad

namespace FailPoint

/-- The refusal at a point at which a store is told to fail. -/
def refusal (point : FailPoint) : StoreError := .rejected 500 ("injected failure at " ++ point.description)

end FailPoint

namespace StoreCall

/-- The point at which a store fails that fails at this call; a write is the `number`-th. -/
def point (number : Nat) : StoreCall → FailPoint
  | .exists _ => .exists
  | create .. => .create
  | drop _ => .drop
  | write _ => .write number
  | close => .close

end StoreCall

namespace MemoryStore

def noted (s : MemoryStore) : StoreCall → MemoryStore
  | .write batch => { s.record (.write batch) with writes := s.writes + 1 }
  | .close => { s.record .close with closes := s.closes + 1 }
  | call => s.record call

/-- Why a store does not carry out a call at all, if it does not. -/
def refusal? (s : MemoryStore) (call : StoreCall) : Option StoreError :=
  if 0 < s.closes ∧ call ≠ .close then some .closed
  else if s.failPoint? = some (call.point (s.writes + 1)) then some (call.point (s.writes + 1)).refusal
  else none

/-- What a call that is carried out does to containers. -/
def effect (containers : NameMap StoredContainer) :
    (call : StoreCall) → Except StoreError call.Answer × NameMap StoredContainer
  | .exists name => (.ok (containers.contains name), containers)
  | .create name schema =>
    if containers.contains name then
      (.error (.rejected 409 ("container '" ++ name ++ "' already exists")), containers)
    else (.ok (), containers.insert name ⟨schema, #[]⟩)
  | .drop name => (.ok (), containers.erase name)
  | .write batch =>
    if batch.isEmpty then (.ok (), containers)
    else match acceptsAll containers batch.entries with
      | .error e => (.error e, containers)
      | .ok () => (.ok (), batch.entries.foldl (fun cs (name, rows) => appendRows cs name rows) containers)
  | .close => (.ok (), containers)

theorem effect_create_present {containers : NameMap StoredContainer} {name : String} (schema : Schema)
    (h : containers.contains name) :
    effect containers (.create name schema) =
      (.error (.rejected 409 ("container '" ++ name ++ "' already exists")), containers) :=
  if_pos h

theorem effect_create_absent {containers : NameMap StoredContainer} {name : String} (schema : Schema)
    (h : ¬containers.contains name) :
    effect containers (.create name schema) = (.ok (), containers.insert name ⟨schema, #[]⟩) :=
  if_neg h

theorem effect_of_error {containers : NameMap StoredContainer} {call : StoreCall} {e : StoreError}
    (h : (effect containers call).1 = .error e) : (effect containers call).2 = containers := by
  cases call with
  | «exists» name => rfl
  | create name schema =>
      by_cases hpresent : containers.contains name
      · rw [effect_create_present schema hpresent]
      · rw [effect_create_absent schema hpresent] at h
        cases h
  | drop name => cases h
  | write batch =>
      rw [effect] at h ⊢
      by_cases hempty : batch.isEmpty
      · rw [if_pos hempty]
      · rw [if_neg hempty] at h ⊢
        cases haccepts : acceptsAll containers batch.entries with
        | error e => rfl
        | ok accepted =>
            rw [haccepts] at h
            cases h
  | close => rfl

theorem injected_eq (s : MemoryStore) (point : FailPoint) :
    s.injected point = if s.failPoint? = some point then .error point.refusal else .ok () := rfl

theorem noted_closes {call : StoreCall} (hcall : call ≠ .close) (s : MemoryStore) :
    (s.noted call).closes = s.closes := by
  cases call with
  | close => exact absurd rfl hcall
  | _ => rfl

@[simp]
theorem noted_failPoint? (s : MemoryStore) (call : StoreCall) : (s.noted call).failPoint? = s.failPoint? := by
  cases call <;> rfl

/-- Only writes are counted as writes. -/
theorem writes_le_noted (s : MemoryStore) (call : StoreCall) : s.writes ≤ (s.noted call).writes := by
  cases call with
  | write batch => exact Nat.le_succ _
  | _ => exact Nat.le_refl _

@[simp]
theorem noted_containers (s : MemoryStore) (call : StoreCall) : (s.noted call).containers = s.containers := by
  cases call <;> rfl

theorem refusal?_of_closed {s : MemoryStore} (hclosed : 0 < s.closes) {call : StoreCall}
    (hcall : call ≠ .close) : s.refusal? call = some .closed := by
  rw [refusal?, if_pos ⟨hclosed, hcall⟩]

theorem refusal?_of_open {s : MemoryStore} {call : StoreCall} (h : s.closes = 0 ∨ call = .close) :
    s.refusal? call =
      if s.failPoint? = some (call.point (s.writes + 1)) then some (call.point (s.writes + 1)).refusal
      else none := by
  rw [refusal?, if_neg]
  rintro ⟨hclosed, hcall⟩
  rcases h with hopen | hclose
  · omega
  · exact hcall hclose

/-- What lets a call in, once it is noted. -/
theorem admitted_noted {call : StoreCall} (hcall : call ≠ .close) (s : MemoryStore) :
    (s.noted call).admitted (call.point (s.writes + 1)) =
      match s.refusal? call with
      | some e => .error e
      | none => .ok () := by
  rw [admitted, injected, noted_closes hcall, noted_failPoint?]
  by_cases hclosed : 0 < s.closes
  · rw [refusal?_of_closed hclosed hcall, if_pos hclosed]
  · rw [refusal?_of_open (.inl (by omega)), if_neg hclosed]
    by_cases hfail : s.failPoint? = some (call.point (s.writes + 1))
    · rw [if_pos hfail, if_pos hfail]
      rfl
    · rw [if_neg hfail, if_neg hfail]

/-- A call is noted, and then refused or carried out. -/
theorem perform_eq (s : MemoryStore) (call : StoreCall) :
    s.perform call =
      match s.refusal? call with
      | some e => (.error e, s.noted call)
      | none => ((effect s.containers call).1, { s.noted call with containers := (effect s.containers call).2 }) := by
  cases call with
  | «exists» name =>
      have hadmitted : (s.record (.exists name)).admitted .exists = _ :=
        admitted_noted (nofun : StoreCall.exists name ≠ .close) s
      rw [perform]
      simp only [hadmitted]
      cases s.refusal? (.exists name) <;> rfl
  | create name schema =>
      have hadmitted : (s.record (.create name schema)).admitted .create = _ :=
        admitted_noted (nofun : StoreCall.create name schema ≠ .close) s
      rw [perform]
      simp only [hadmitted]
      cases s.refusal? (.create name schema) with
      | some e => rfl
      | none =>
          by_cases hpresent : s.containers.contains name
          · rw [effect_create_present schema hpresent]
            exact if_pos hpresent
          · rw [effect_create_absent schema hpresent]
            exact if_neg hpresent
  | drop name =>
      have hadmitted : (s.record (.drop name)).admitted .drop = _ :=
        admitted_noted (nofun : StoreCall.drop name ≠ .close) s
      rw [perform]
      simp only [hadmitted]
      cases s.refusal? (.drop name) <;> rfl
  | write batch =>
      have hadmitted : (s.noted (.write batch)).admitted (.write (s.writes + 1)) = _ :=
        admitted_noted (nofun : StoreCall.write batch ≠ .close) s
      rw [noted] at hadmitted
      rw [perform]
      simp only [hadmitted]
      cases s.refusal? (.write batch) with
      | some e => rfl
      | none =>
          simp only [effect, noted, record]
          by_cases hempty : batch.isEmpty
          · simp only [if_pos hempty]
          · simp only [if_neg hempty]
            cases acceptsAll s.containers batch.entries <;> rfl
  | close =>
      change ((s.noted .close).injected .close, s.noted .close) = _
      rw [injected_eq, noted_failPoint?, refusal?_of_open (.inr rfl), StoreCall.point]
      by_cases hfail : s.failPoint? = some .close
      · rw [if_pos hfail, if_pos hfail]
      · rw [if_neg hfail, if_neg hfail]
        rfl

/-! ### One call after another -/

theorem perform_writes (s : MemoryStore) (call : StoreCall) :
    (s.perform call).2.writes = (s.noted call).writes := by
  rw [perform_eq]
  cases s.refusal? call <;> rfl

theorem perform_closes (s : MemoryStore) (call : StoreCall) : (s.perform call).2.closes = (s.noted call).closes := by
  rw [perform_eq]
  cases s.refusal? call <;> rfl

theorem perform_failPoint? (s : MemoryStore) (call : StoreCall) :
    (s.perform call).2.failPoint? = s.failPoint? := by
  rw [perform_eq]
  cases s.refusal? call <;> exact s.noted_failPoint? call

/-- A call that succeeded was carried out. -/
theorem perform_of_ok {s : MemoryStore} {call : StoreCall} {answer : call.Answer}
    (hok : (s.perform call).1 = .ok answer) :
    effect s.containers call = (.ok answer, (s.perform call).2.containers) := by
  rw [perform_eq] at hok ⊢
  cases hrefusal : s.refusal? call with
  | some e =>
      rw [hrefusal] at hok
      cases hok
  | none =>
      rw [hrefusal] at hok
      exact Prod.ext hok rfl

theorem perform_of_error {s : MemoryStore} {call : StoreCall} {e : StoreError}
    (h : (s.perform call).1 = .error e) : (s.perform call).2.containers = s.containers := by
  rw [perform_eq] at h ⊢
  cases hrefusal : s.refusal? call with
  | some refusal => exact s.noted_containers call
  | none =>
      rw [hrefusal] at h
      exact effect_of_error h

section Open

variable {s : MemoryStore} {call : StoreCall} (hopen : s.closes = 0)

include hopen

/-- Where it is not to fail, an open store carries a call out. -/
theorem perform_carried (hfree : s.failPoint? ≠ some (call.point (s.writes + 1))) :
    s.perform call =
      ((effect s.containers call).1, { s.noted call with containers := (effect s.containers call).2 }) := by
  rw [perform_eq, refusal?_of_open (.inl hopen), if_neg hfree]

theorem perform_refused (hfail : s.failPoint? = some (call.point (s.writes + 1))) :
    s.perform call = (.error (call.point (s.writes + 1)).refusal, s.noted call) := by
  rw [perform_eq, refusal?_of_open (.inl hopen), if_pos hfail]

end Open

/-! ### Fail points -/

/-- The store, told to fail at a given point, or nowhere. -/
def failingAt (s : MemoryStore) (point? : Option FailPoint) : MemoryStore := { s with failPoint? := point? }

theorem noted_failingAt (s : MemoryStore) (point? : Option FailPoint) (call : StoreCall) :
    (s.failingAt point?).noted call = (s.noted call).failingAt point? := by
  cases call <;> rfl

/-- A call is not affected by a fail point elsewhere. -/
theorem perform_failingAt {s : MemoryStore} (hfree : s.failPoint? = none) {point : FailPoint} {call : StoreCall}
    (helsewhere : call.point (s.writes + 1) ≠ point) :
    (s.failingAt (some point)).perform call =
      ((s.perform call).1, (s.perform call).2.failingAt (some point)) := by
  have hrefusal : (s.failingAt (some point)).refusal? call = s.refusal? call := by
    have hsome : (s.failingAt (some point)).failPoint? ≠ some (call.point (s.writes + 1)) :=
      fun h => helsewhere (Option.some.inj h).symm
    have hnone : s.failPoint? ≠ some (call.point (s.writes + 1)) := by
      rw [hfree]
      exact nofun
    rw [refusal?, refusal?, if_neg hnone]
    exact congrArg _ (if_neg hsome)
  rw [perform_eq, perform_eq, hrefusal, noted_failingAt]
  cases s.refusal? call <;> rfl

end MemoryStore

end SampleLoad
