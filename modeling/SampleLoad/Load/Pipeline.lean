import SampleLoad.Load.Provision
import SampleLoad.Time.Duration

/-!
A run: the container is provisioned, rows are generated and gathered in a buffer, each full buffer is
written, and at the end what is left is written once more, be it nothing. The store is closed last,
whatever happened before.
-/

namespace SampleLoad

/-- What a run did. -/
structure Metrics where
  rowsWritten : Nat := 0
  batchCount : Nat := 0
  deriving DecidableEq, Repr

/-- Rows for each second of a run; zero if it took no time. -/
def rowsPerSecond (rowsWritten : Nat) (total : Duration) : Float :=
  if 0 < total.toFloat then (UInt64.ofNat rowsWritten).toFloat / total.toFloat else 0

/-- The options that all loading commands share. -/
structure CommonOptions where
  batchSize : Capacity := .default
  seed? : Option UInt64 := none
  /-- The step between the times of rows, a signed 64-bit number of milliseconds. -/
  decreaseUnitMillis : Int := 1000
  dryRun : Bool := false
  deriving DecidableEq

/-- How a run makes and groups its rows. -/
structure Pipeline where
  capacity : Capacity
  generator : RowGenerator
  source : RandomSource

namespace Pipeline

/-- A pipeline whose times start now and whose values come from a given source. -/
def new (now : Instant) (source : RandomSource) : Pipeline := ⟨.default, .startingAt now, source⟩

def withCapacity (p : Pipeline) (capacity : Capacity) : Pipeline := { p with capacity }

def withSeed (p : Pipeline) (seed : UInt64) : Pipeline := { p with source := .ofSeed seed }

/-- Sets the time of cursor 0; the step stays. -/
def withBaseTime (p : Pipeline) (base : Instant) : Pipeline :=
  { p with generator :=
      (RowGenerator.startingAt base).withStep (p.generator.stepMillis * nanosPerMilli) }

/-- Sets the step, in nanoseconds. -/
def withStep (p : Pipeline) (stepNanos : Int) : Pipeline :=
  { p with generator := p.generator.withStep stepNanos }

/-- A number of milliseconds as a step, in nanoseconds. The least 64-bit number has no opposite and is no
length of time; it stands for the default. -/
def stepOfMillis (millis : Int) : Int :=
  (if millis = -(signedLimit : Int) then RowGenerator.defaultStepMillis else millis) * nanosPerMilli

/-- Applies the options of a command; the seed only if there is one. -/
def withOptions (p : Pipeline) (options : CommonOptions) : Pipeline :=
  let p := (p.withCapacity options.batchSize).withStep (stepOfMillis options.decreaseUnitMillis)
  match options.seed? with
  | some seed => p.withSeed seed
  | none => p

variable {m : Type → Type} [Monad m]

/-- Writes the rows of the buffer as the next batch, also when there are none. -/
def flush (store : ContainerStore m) (container : String) (buffer : Buffer) (metrics : Metrics) :
    m (Except LoadError (Buffer × Metrics)) := do
  let (rows, buffer) := buffer.drain
  let batch := metrics.batchCount + 1
  match ← store.perform (.write (.single container rows)) with
  | .error e => pure (.error (.write container batch e))
  | .ok () => pure (.ok (buffer, ⟨metrics.rowsWritten + rows.size, batch⟩))

/-- Generates the rows from `cursor` on, of which `remaining` are to come, and writes every full buffer
and then the last one. -/
def writeRows (p : Pipeline) (store : ContainerStore m) (container : String) (schema : Schema) :
    (remaining cursor : Nat) → RandomSource → Buffer → Metrics → m (Except LoadError Metrics)
  | 0, _, _, buffer, metrics => do
    match ← flush store container buffer metrics with
    | .error e => pure (.error e)
    | .ok (_, metrics) => pure (.ok metrics)
  | remaining + 1, cursor, source, buffer, metrics => do
    match p.generator.rowAt schema cursor source with
    | (.error e, _) => pure (.error (.generator e))
    | (.ok row, source) =>
      match buffer.push row with
      | .error e => pure (.error (.buffer e))
      | .ok buffer =>
        if buffer.isFull then
          match ← flush store container buffer metrics with
          | .error e => pure (.error e)
          | .ok (buffer, metrics) => writeRows p store container schema remaining (cursor + 1) source buffer metrics
        else writeRows p store container schema remaining (cursor + 1) source buffer metrics

/-- Checks the schema, provisions the container and writes its rows. -/
def load (p : Pipeline) (store : ContainerStore m) (container : String) (schema : Schema) (rowCount : Nat) :
    m (Except LoadError Metrics) := do
  match schema.validate with
  | .error e => pure (.error (.schema e))
  | .ok () =>
    match ← provision store container schema with
    | .error e => pure (.error e)
    | .ok _ => p.writeRows store container schema rowCount 0 p.source (.empty p.capacity) {}

/-- What a run reports: its own error if it has one, else that of closing the store. -/
def report (result : Except LoadError Metrics) (closed : Except StoreError Unit) :
    Except LoadError Metrics :=
  match result, closed with
  | .ok metrics, .ok () => .ok metrics
  | .ok _, .error e => .error (.connection e)
  | .error e, _ => .error e

/-- Loads rows into a container and closes the store. -/
def run (p : Pipeline) (store : ContainerStore m) (container : String) (schema : Schema) (rowCount : Nat) :
    m (Except LoadError Metrics) := do
  let result ← p.load store container schema rowCount
  let closed ← store.perform .close
  pure (report result closed)

end Pipeline

end SampleLoad
