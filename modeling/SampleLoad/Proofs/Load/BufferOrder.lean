import SampleLoad.Load.Buffer

/-!
The row buffer under offers and drains that come in any order. It never holds more rows than its capacity, which is why
comparing the two for equality finds every full buffer. Rows leave it in the order in which they came: what was handed
out so far, followed by what is pending, is what was taken. Main statement: `Buffer.keeps_rows_in_order`.
-/

namespace SampleLoad

inductive BufferCall where
  | offer (row : Row)
  | drain

/-- A call on a buffer and what came of it. -/
inductive BufferEvent where
  | taken (row : Row)
  | refused (row : Row) (e : BufferFull)
  | drained (rows : Array Row)
  deriving DecidableEq

namespace BufferEvent

def call : BufferEvent → BufferCall
  | taken row => .offer row
  | refused row _ => .offer row
  | drained _ => .drain

def rowsIn : BufferEvent → List Row
  | taken row => [row]
  | refused .. => []
  | drained _ => []

def rowsOut : BufferEvent → List Row
  | taken _ => []
  | refused .. => []
  | drained rows => rows.toList

end BufferEvent

namespace Buffer

open BufferEvent (rowsIn rowsOut)

/-- Makes a call; beside what came of it stands the buffer as it is then. -/
def perform (b : Buffer) : BufferCall → BufferEvent × Buffer
  | .offer row =>
    match b.offer row with
    | (.ok (), b) => (.taken row, b)
    | (.error e, b) => (.refused row e, b)
  | .drain => (.drained b.drain.1, b.drain.2)

def events (b : Buffer) : List BufferCall → List BufferEvent
  | [] => []
  | call :: rest => (b.perform call).1 :: events (b.perform call).2 rest

def afterCalls (b : Buffer) (calls : List BufferCall) : Buffer := calls.foldl (fun b call => (b.perform call).2) b

/-! ### One call -/

theorem isFull_iff (b : Buffer) : b.isFull = true ↔ b.rows.toList.length = b.capacity.rows := by
  rw [isFull, decide_eq_true_iff, size, Array.length_toList]

theorem empty_not_full (capacity : Capacity) : (empty capacity).isFull = false :=
  decide_eq_false (Nat.ne_of_lt capacity.positive)

theorem offer_of_full {b : Buffer} (h : b.isFull = true) (row : Row) :
    b.offer row = (.error ⟨b.capacity.rows⟩, b) :=
  if_pos h

theorem offer_of_not_full {b : Buffer} (h : b.isFull = false) (row : Row) :
    b.offer row = (.ok (), { b with rows := b.rows.push row }) :=
  if_neg (Bool.eq_false_iff.mp h)

theorem push_of_not_full {b : Buffer} (h : b.isFull = false) (row : Row) :
    b.push row = .ok { b with rows := b.rows.push row } := by
  rw [push, offer_of_not_full h]

/-- All that a call can do: take a row in, refuse one and leave everything as it is, or hand out all rows. -/
theorem perform_cases (b : Buffer) (call : BufferCall) :
    (∃ row, call = .offer row ∧ b.isFull = false ∧
        b.perform call = (.taken row, { b with rows := b.rows.push row })) ∨
      (∃ row, call = .offer row ∧ b.isFull = true ∧ b.perform call = (.refused row ⟨b.capacity.rows⟩, b)) ∨
      call = .drain ∧ b.perform call = (.drained b.rows, empty b.capacity) := by
  cases call with
  | offer row =>
      cases hfull : b.isFull with
      | false => exact .inl ⟨row, rfl, rfl, by rw [perform, offer_of_not_full hfull]⟩
      | true => exact .inr (.inl ⟨row, rfl, rfl, by rw [perform, offer_of_full hfull]⟩)
  | drain => exact .inr (.inr ⟨rfl, rfl⟩)

theorem perform_call (b : Buffer) (call : BufferCall) : (b.perform call).1.call = call := by
  rcases b.perform_cases call with ⟨row, rfl, -, h⟩ | ⟨row, rfl, -, h⟩ | ⟨rfl, h⟩ <;> rw [h] <;> rfl

/-- No call loses a row, doubles one or moves one ahead of another. -/
theorem perform_rows (b : Buffer) (call : BufferCall) :
    b.rows.toList ++ (b.perform call).1.rowsIn = (b.perform call).1.rowsOut ++ (b.perform call).2.rows.toList := by
  rcases b.perform_cases call with ⟨row, -, -, h⟩ | ⟨row, -, -, h⟩ | ⟨-, h⟩
  · rw [h]
    exact Array.toList_push.symm
  · rw [h]
    exact List.append_nil _
  · rw [h]
    rfl

/-! ### Calls in order -/

theorem events_append (b : Buffer) (calls later : List BufferCall) :
    b.events (calls ++ later) = b.events calls ++ (b.afterCalls calls).events later := by
  induction calls generalizing b with
  | nil => rfl
  | cons call rest ih => exact congrArg _ (ih _)

theorem events_call (b : Buffer) (calls : List BufferCall) : (b.events calls).map BufferEvent.call = calls := by
  induction calls generalizing b with
  | nil => rfl
  | cons call rest ih => rw [events, List.map_cons, perform_call, ih]

/-- The rows that were pending and those that came in are handed out in this order, up to those pending now. -/
theorem events_rows (b : Buffer) (calls : List BufferCall) :
    b.rows.toList ++ (b.events calls).flatMap rowsIn =
      (b.events calls).flatMap rowsOut ++ (b.afterCalls calls).rows.toList := by
  induction calls generalizing b with
  | nil => exact List.append_nil _
  | cons call rest ih =>
      have hafter : b.afterCalls (call :: rest) = (b.perform call).2.afterCalls rest := rfl
      have hstep := b.perform_rows call
      rw [events, List.flatMap_cons, List.flatMap_cons, hafter]
      generalize b.perform call = made at hstep ⊢
      calc b.rows.toList ++ (made.1.rowsIn ++ (made.2.events rest).flatMap rowsIn)
          = (made.1.rowsOut ++ made.2.rows.toList) ++ (made.2.events rest).flatMap rowsIn := by
            rw [← List.append_assoc, hstep]
        _ = made.1.rowsOut ++ ((made.2.events rest).flatMap rowsOut ++ (made.2.afterCalls rest).rows.toList) := by
            rw [List.append_assoc, ih]
        _ = made.1.rowsOut ++ (made.2.events rest).flatMap rowsOut ++ (made.2.afterCalls rest).rows.toList :=
            (List.append_assoc ..).symm

/-- A drain after all other calls hands out whatever is left of the rows that were taken. -/
theorem rowsOut_drain (b : Buffer) (calls : List BufferCall) :
    (b.events (calls ++ [.drain])).flatMap rowsOut = b.rows.toList ++ (b.events calls).flatMap rowsIn := by
  rw [events_append, List.flatMap_append, events_rows]
  exact congrArg _ (List.append_nil _)

/-! ### Capacity -/

/-- The buffer has a capacity and holds no more rows than that. -/
structure Within (b : Buffer) (capacity : Capacity) : Prop where
  capacity_eq : b.capacity = capacity
  size_le : b.size ≤ capacity.rows

theorem within_empty (capacity : Capacity) : (empty capacity).Within capacity := ⟨rfl, Nat.zero_le _⟩

namespace Within

variable {b : Buffer} {capacity : Capacity} (h : b.Within capacity)

include h

theorem isFull_iff_size : b.isFull = true ↔ b.size = capacity.rows := by
  rw [isFull, decide_eq_true_iff, h.capacity_eq]

/-- A buffer that is not full has room for one row more, since it cannot be past its capacity. -/
theorem not_full_iff_size : b.isFull = false ↔ b.size < capacity.rows := by
  rw [← Bool.not_eq_true, h.isFull_iff_size, Nat.lt_iff_le_and_ne, and_iff_right h.size_le]

/-- A row finds the buffer full or with room for it. -/
theorem offer_cases (row : Row) :
    b.size = capacity.rows ∧ b.offer row = (.error ⟨capacity.rows⟩, b) ∨
      b.size < capacity.rows ∧ b.offer row = (.ok (), { b with rows := b.rows.push row }) := by
  cases hfull : b.isFull with
  | true => exact .inl ⟨h.isFull_iff_size.mp hfull, h.capacity_eq ▸ offer_of_full hfull row⟩
  | false => exact .inr ⟨h.not_full_iff_size.mp hfull, offer_of_not_full hfull row⟩

theorem offer_refused_iff (row : Row) : b.offer row = (.error ⟨capacity.rows⟩, b) ↔ b.size = capacity.rows := by
  rcases h.offer_cases row with ⟨hfull, hoffer⟩ | ⟨hroom, hoffer⟩
  · exact iff_of_true hoffer hfull
  · rw [hoffer]
    exact iff_of_false nofun (Nat.ne_of_lt hroom)

theorem offer_taken_iff (row : Row) : (b.offer row).1 = .ok () ↔ b.size < capacity.rows := by
  rcases h.offer_cases row with ⟨hfull, hoffer⟩ | ⟨hroom, hoffer⟩
  · rw [hoffer]
    exact iff_of_false nofun (Nat.not_lt_of_le (Nat.le_of_eq hfull.symm))
  · rw [hoffer]
    exact iff_of_true rfl hroom

theorem push_refused_iff (row : Row) (e : BufferFull) :
    b.push row = .error e ↔ b.size = capacity.rows ∧ e = ⟨capacity.rows⟩ := by
  rcases h.offer_cases row with ⟨hfull, hoffer⟩ | ⟨hroom, hoffer⟩
  · rw [push, hoffer, and_iff_right hfull]
    exact ⟨fun hrefused => (Except.error.inj hrefused).symm, fun heq => congrArg Except.error heq.symm⟩
  · rw [push, hoffer]
    exact iff_of_false nofun fun hrefused => Nat.ne_of_lt hroom hrefused.1

theorem perform (call : BufferCall) : (b.perform call).2.Within capacity := by
  rcases b.perform_cases call with ⟨row, -, hroom, hcall⟩ | ⟨row, -, -, hcall⟩ | ⟨-, hcall⟩
  · rw [hcall]
    refine ⟨h.capacity_eq, ?_⟩
    show (b.rows.push row).size ≤ capacity.rows
    rw [Array.size_push]
    exact h.not_full_iff_size.mp hroom
  · rw [hcall]
    exact h
  · rw [hcall, h.capacity_eq]
    exact within_empty capacity

theorem afterCalls (calls : List BufferCall) : (b.afterCalls calls).Within capacity := by
  induction calls generalizing b with
  | nil => exact h
  | cons call rest ih => exact ih (h.perform call)

theorem size_of_drained {calls : List BufferCall} {rows : Array Row} (hmem : .drained rows ∈ b.events calls) :
    rows.size ≤ capacity.rows := by
  induction calls generalizing b with
  | nil => cases hmem
  | cons call rest ih =>
      rcases List.mem_cons.mp hmem with hnow | hlater
      · rcases b.perform_cases call with ⟨row, -, -, hcall⟩ | ⟨row, -, -, hcall⟩ | ⟨-, hcall⟩ <;> rw [hcall] at hnow
        · cases hnow
        · cases hnow
        · cases hnow
          exact h.size_le
      · exact ih (h.perform call) hlater

end Within

/-- An empty buffer after any offers and drains. It holds no more rows than its capacity. A row is refused exactly if as
many as that are pending, which is what the refusal says, and then nothing changes; it is taken exactly if there are
fewer. What was handed out so far, followed by what is pending, is what was taken, in the order in which it came. No
more is handed out at once than the capacity, and a drain leaves nothing behind. -/
theorem keeps_rows_in_order (capacity : Capacity) (calls : List BufferCall) :
    let events := (empty capacity).events calls
    let b := (empty capacity).afterCalls calls
    events.map BufferEvent.call = calls ∧
      b.capacity = capacity ∧ b.size ≤ capacity.rows ∧
      (∀ row, b.offer row = (.error ⟨capacity.rows⟩, b) ↔ b.size = capacity.rows) ∧
      (∀ row, (b.offer row).1 = .ok () ↔ b.size < capacity.rows) ∧
      (∀ row e, b.push row = .error e ↔ b.size = capacity.rows ∧ e = ⟨capacity.rows⟩) ∧
      events.flatMap rowsOut ++ b.rows.toList = events.flatMap rowsIn ∧
      (∀ rows, .drained rows ∈ events → rows.size ≤ capacity.rows) ∧
      ((empty capacity).events (calls ++ [.drain])).flatMap rowsOut = events.flatMap rowsIn := by
  intro events b
  have hwithin : b.Within capacity := (within_empty capacity).afterCalls calls
  refine ⟨events_call _ calls, hwithin.capacity_eq, hwithin.size_le, hwithin.offer_refused_iff,
    hwithin.offer_taken_iff, hwithin.push_refused_iff, ?_, ?_, ?_⟩
  · exact ((empty capacity).events_rows calls).symm
  · exact fun rows hmem => (within_empty capacity).size_of_drained hmem
  · exact (empty capacity).rowsOut_drain calls

/-- A buffer for two rows refuses a third and takes it once the two were handed out. -/
theorem keeps_rows_in_order_third :
    let row (n : Int32) : Row := ⟨[.integer n]⟩
    let calls : List BufferCall := [.offer (row 1), .offer (row 2), .offer (row 3), .drain, .offer (row 3)]
    let events := (empty { rows := 2 }).events calls
    events = [.taken (row 1), .taken (row 2), .refused (row 3) ⟨2⟩, .drained #[row 1, row 2], .taken (row 3)] ∧
      .drained #[row 1, row 2] ∈ events ∧ #[row 1, row 2].size ≤ 2 := by
  intro row calls events
  obtain ⟨-, -, -, -, -, -, -, hdrained, -⟩ := keeps_rows_in_order { rows := 2 } calls
  have hmem : .drained #[row 1, row 2] ∈ events := by decide
  exact ⟨by decide, hmem, hdrained _ hmem⟩

end Buffer

end SampleLoad
