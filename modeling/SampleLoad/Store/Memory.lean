import SampleLoad.Store.Basic

/-!
The store in memory. It keeps containers by name, logs every call, also the failed ones, and may be told
to fail at one point. Once closed it refuses everything but another close.
-/

namespace SampleLoad

/-- A container with its rows, in the order in which they were written. -/
structure StoredContainer where
  schema : Schema
  rows : Array Row
  deriving DecidableEq

/-- A call as the log keeps it: of a write, the number of rows for each container. -/
inductive LoggedCall where
  | exists (container : String)
  | create (container : String)
  | drop (container : String)
  | write (rowCounts : List (String × Nat))
  | close
  deriving DecidableEq, Repr

namespace StoreCall

/-- What the log keeps of a call. -/
def logged : StoreCall → LoggedCall
  | .exists container => .exists container
  | create container _ => .create container
  | drop container => .drop container
  | write batch => .write (batch.entries.map fun (name, rows) => (name, rows.size))
  | close => .close

end StoreCall

/-- Where a store in memory is to fail. Writes are counted from one. -/
inductive FailPoint where
  | exists
  | create
  | drop
  | write (number : Nat)
  | close
  deriving DecidableEq, Repr

namespace FailPoint

/-- The point as the error text shows it. -/
def description : FailPoint → String
  | .exists => "Exists"
  | create => "Create"
  | drop => "Drop"
  | write number => "Write(" ++ toString number ++ ")"
  | close => "Close"

end FailPoint

/-- The state of a store in memory. -/
structure MemoryStore where
  containers : NameMap StoredContainer := .empty
  log : Array LoggedCall := #[]
  writes : Nat := 0
  closes : Nat := 0
  failPoint? : Option FailPoint := none

namespace MemoryStore

instance : Inhabited MemoryStore := ⟨{}⟩

/-- Fails if the store is to fail at a point. -/
def injected (s : MemoryStore) (point : FailPoint) : Except StoreError Unit :=
  if s.failPoint? = some point then .error (.rejected 500 ("injected failure at " ++ point.description))
  else .ok ()

/-- Fails if the store is closed, or is to fail at a point. -/
def admitted (s : MemoryStore) (point : FailPoint) : Except StoreError Unit :=
  if 0 < s.closes then .error .closed else s.injected point

/-- Adds a call to the log. -/
def record (s : MemoryStore) (call : StoreCall) : MemoryStore := { s with log := s.log.push call.logged }

/-- A container can take rows: it exists, and every row has as many values as it has columns. -/
def accepts (containers : NameMap StoredContainer) (name : String) (rows : Array Row) :
    Except StoreError Unit :=
  match containers.find? name with
  | none => .error (.rejected 404 ("container '" ++ name ++ "' not found"))
  | some container =>
    if rows.any fun row => row.width ≠ container.schema.width then
      .error (.rejected 400 ("row width does not match container '" ++ name ++ "'"))
    else .ok ()

/-- The first entry that cannot be taken decides. -/
def acceptsAll (containers : NameMap StoredContainer) :
    List (String × Array Row) → Except StoreError Unit
  | [] => .ok ()
  | (name, rows) :: rest =>
    match accepts containers name rows with
    | .error e => .error e
    | .ok () => acceptsAll containers rest

/-- Appends rows to a container that exists. -/
def appendRows (containers : NameMap StoredContainer) (name : String) (rows : Array Row) :
    NameMap StoredContainer :=
  match containers.find? name with
  | none => containers
  | some container => containers.insert name { container with rows := container.rows ++ rows }

/-- Puts a container in, as a previous run may have left it; this is no call. -/
def insertContainer (s : MemoryStore) (name : String) (schema : Schema) (rows : Array Row) : MemoryStore :=
  { s with containers := s.containers.insert name ⟨schema, rows⟩ }

def container? (s : MemoryStore) (name : String) : Option StoredContainer := s.containers.find? name

/-- The number of rows of each write in the log, in order. -/
def writeSizes (s : MemoryStore) : List Nat :=
  s.log.toList.filterMap fun
    | .write rowCounts => some (rowCounts.foldl (fun sum (_, count) => sum + count) 0)
    | _ => none

/-- Performs a call. A write is checked as a whole before any of it is stored. -/
def perform (s : MemoryStore) : (call : StoreCall) → Except StoreError call.Answer × MemoryStore
  | .exists name =>
    let s := s.record (.exists name)
    match s.admitted .exists with
    | .error e => (.error e, s)
    | .ok () => (.ok (s.containers.contains name), s)
  | .create name schema =>
    let s := s.record (.create name schema)
    match s.admitted .create with
    | .error e => (.error e, s)
    | .ok () =>
      if s.containers.contains name then
        (.error (.rejected 409 ("container '" ++ name ++ "' already exists")), s)
      else (.ok (), { s with containers := s.containers.insert name ⟨schema, #[]⟩ })
  | .drop name =>
    let s := s.record (.drop name)
    match s.admitted .drop with
    | .error e => (.error e, s)
    | .ok () => (.ok (), { s with containers := s.containers.erase name })
  | .write batch =>
    let s := { s.record (.write batch) with writes := s.writes + 1 }
    match s.admitted (.write s.writes) with
    | .error e => (.error e, s)
    | .ok () =>
      if batch.isEmpty then (.ok (), s)
      else match acceptsAll s.containers batch.entries with
        | .error e => (.error e, s)
        | .ok () =>
          (.ok (), { s with
            containers := batch.entries.foldl (fun cs (name, rows) => appendRows cs name rows) s.containers })
  | .close =>
    let s := { s.record .close with closes := s.closes + 1 }
    (s.injected .close, s)

end MemoryStore

/-- The store in memory, working on its state. -/
def memoryStore : ContainerStore (StateM MemoryStore) where
  perform call := fun s => s.perform call

end SampleLoad
