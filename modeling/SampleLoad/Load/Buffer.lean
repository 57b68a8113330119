import SampleLoad.Rows.Value

/-!
The row buffer of a run: rows gather up to a capacity of at least one, then they are drained together.
-/

namespace SampleLoad

/-- The largest number of rows in one write; at least one. -/
structure Capacity where
  rows : Nat
  positive : 0 < rows := by decide
  deriving DecidableEq

namespace Capacity

/-- The capacity of a run that sets none. -/
def default : Capacity := { rows := 1000 }

def ofNat? (n : Nat) : Option Capacity := if h : 0 < n then some ⟨n, h⟩ else none

end Capacity

/-- A row was refused because the buffer was full. -/
structure BufferFull where
  capacity : Nat
  deriving DecidableEq, Repr

namespace BufferFull

def message (e : BufferFull) : String := "Batch buffer is full (capacity " ++ toString e.capacity ++ ")"

end BufferFull

/-- Rows waiting to be written. -/
structure Buffer where
  capacity : Capacity
  rows : Array Row
  deriving DecidableEq

namespace Buffer

def empty (capacity : Capacity) : Buffer := ⟨capacity, #[]⟩

def size (b : Buffer) : Nat := b.rows.size

def isEmpty (b : Buffer) : Bool := b.size = 0

def isFull (b : Buffer) : Bool := b.size = b.capacity.rows

/-- Offers a row to the buffer, which takes it unless it is full. Beside the answer stands the buffer as it is then. -/
def offer (b : Buffer) (row : Row) : Except BufferFull Unit × Buffer :=
  if b.isFull then (.error ⟨b.capacity.rows⟩, b) else (.ok (), { b with rows := b.rows.push row })

/-- Adds a row, unless the buffer is full: what an offer comes to for those who go on only if it was taken. -/
def push (b : Buffer) (row : Row) : Except BufferFull Buffer :=
  match b.offer row with
  | (.error e, _) => .error e
  | (.ok (), b) => .ok b

/-- Takes all rows out. -/
def drain (b : Buffer) : Array Row × Buffer := (b.rows, empty b.capacity)

end Buffer

end SampleLoad
