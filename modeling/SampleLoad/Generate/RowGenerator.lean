import SampleLoad.Generate.Draw
import SampleLoad.Number.Reader
import SampleLoad.Schema.Validity

/-!
Rows from schemas. The row at cursor `i` carries the base time less `i` steps in every timestamp column;
everything else is drawn from a random source. The base is a whole millisecond and the step at least one,
so the times of different cursors differ.
-/

namespace SampleLoad

/-- Why there is no row at a cursor. -/
inductive GeneratorError where
  | schema (e : SchemaError)
  | timestampOutOfRange (cursor : Nat)
  /-- A column draws from an empty range; no column whose strategy was checked does. -/
  | emptyRange (column : String)
  deriving DecidableEq

namespace GeneratorError

def message : GeneratorError → String
  | schema e => e.message
  | timestampOutOfRange cursor => "Timestamp for cursor " ++ toString cursor ++ " is out of range"
  | emptyRange column => "column '" ++ column ++ "' draws from an empty range"

end GeneratorError

/-- The number is that of a signed 64-bit integer. -/
def inSignedRange (n : Int) : Bool := n.toNat < signedLimit && (-n).toNat ≤ signedLimit

/-- The time `cursor` steps of `stepMillis` milliseconds before a base. The cursor and the distance are
signed 64-bit integers, and the distance is not the least of them. -/
def cursorTime? (base : Instant) (cursor : Nat) (stepMillis : Int) : Option Instant :=
  if !inSignedRange cursor then none
  else
    let distance := cursor * stepMillis
    if !inSignedRange distance || distance = -(signedLimit : Int) then none
    else base.minusMillis? distance

/-- Where times start and how far apart they are. -/
structure RowGenerator where
  baseTime : Instant
  stepMillis : Int
  deriving DecidableEq

namespace RowGenerator

/-- The step of a new generator, in milliseconds. -/
def defaultStepMillis : Int := 1000

/-- A generator whose cursor 0 is at a time, less what it has below the millisecond. -/
def startingAt (base : Instant) : RowGenerator := ⟨base.floorMilli, defaultStepMillis⟩

/-- Sets the step, in whole milliseconds; steps of less than one become one. -/
def withStep (g : RowGenerator) (stepNanos : Int) : RowGenerator :=
  { g with stepMillis := max 1 (stepNanos.tdiv nanosPerMilli) }

/-- The time of a cursor. -/
def timeAt (g : RowGenerator) (cursor : Nat) : Except GeneratorError Instant :=
  match cursorTime? g.baseTime cursor g.stepMillis with
  | some t => .ok t
  | none => .error (.timestampOutOfRange cursor)

/-- Draws the values of the given columns in order, up to the first that has none. -/
def drawColumns (schemaName : String) (time? : Option Instant) :
    List Column → RandomSource → Except GeneratorError (List Value) × RandomSource
  | [], source => (.ok [], source)
  | c :: rest, source =>
    match c.strategy.check c.type with
    | .error fault => (.error (.schema (.mismatch schemaName (.strategy c.name fault))), source)
    | .ok () =>
      match c.strategy.draw time? source with
      | (.error .noCursorTime, source) =>
        (.error (.schema (.mismatch schemaName (.noCursorTime c.name))), source)
      | (.error .emptyRange, source) => (.error (.emptyRange c.name), source)
      | (.ok value, source) =>
        match drawColumns schemaName time? rest source with
        | (.error e, source) => (.error e, source)
        | (.ok values, source) => (.ok (value :: values), source)

/-- The row at a cursor, and the source after it. The cursor's time is settled before anything is drawn. -/
def rowAt (g : RowGenerator) (schema : Schema) (cursor : Nat) (source : RandomSource) :
    Except GeneratorError Row × RandomSource :=
  if schema.columns.any (·.type = .timestamp) then
    match g.timeAt cursor with
    | .error e => (.error e, source)
    | .ok time =>
      let (values, source) := drawColumns schema.name (some time) schema.columns source
      (values.map Row.mk, source)
  else
    let (values, source) := drawColumns schema.name none schema.columns source
    (values.map Row.mk, source)

end RowGenerator

/-- The rows of the cursors from `cursor` up to but not including `count`, one at a time. -/
structure RowSequence where
  generator : RowGenerator
  schema : Schema
  count : Nat
  cursor : Nat := 0

namespace RowSequence

/-- The number of items to come. -/
def remaining (r : RowSequence) : Nat := r.count - r.cursor

/-- The next item, which may be an error; the sequence goes on behind it. -/
def next (r : RowSequence) (source : RandomSource) :
    Option (Except GeneratorError Row) × RowSequence × RandomSource :=
  if r.count ≤ r.cursor then (none, r, source)
  else
    let (item, source) := r.generator.rowAt r.schema r.cursor source
    (some item, { r with cursor := r.cursor + 1 }, source)

/-- Up to so many items, and what is left. -/
def take : (limit : Nat) → RowSequence → RandomSource →
    List (Except GeneratorError Row) × RowSequence × RandomSource
  | 0, r, source => ([], r, source)
  | limit + 1, r, source =>
    match r.next source with
    | (none, r, source) => ([], r, source)
    | (some item, r, source) =>
      let (items, r, source) := take limit r source
      (item :: items, r, source)

end RowSequence

end SampleLoad
