import SampleLoad.Rows.NameMap
import SampleLoad.Rows.Value

/-!
Batches: rows on their way to a store, grouped by the container they go to. A name that was inserted stays
an entry even if it has no rows.
-/

namespace SampleLoad

/-- Rows grouped by container. -/
structure Batch where
  rowsByName : NameMap (Array Row)
  deriving DecidableEq

namespace Batch

def empty : Batch := ⟨.empty⟩

/-- Appends rows for a container to those it has. -/
def insert (b : Batch) (container : String) (rows : Array Row) : Batch :=
  ⟨b.rowsByName.alter container fun present => present.getD #[] ++ rows⟩

/-- A batch for one container. -/
def single (container : String) (rows : Array Row) : Batch := empty.insert container rows

/-- The rows for a container, if it has an entry. -/
def rowsFor? (b : Batch) (container : String) : Option (Array Row) := b.rowsByName.find? container

/-- Containers with their rows, in ascending order of names. -/
def entries (b : Batch) : List (String × Array Row) := b.rowsByName.entries

def containers (b : Batch) : List String := b.rowsByName.names

/-- The number of rows for all containers together. -/
def rowCount (b : Batch) : Nat := b.entries.foldl (fun sum (_, rows) => sum + rows.size) 0

def isEmpty (b : Batch) : Bool := b.rowCount = 0

end Batch

end SampleLoad
