import SampleLoad.Proofs.Load.StepOption

/-!
Pipelines that were configured in some order. Each setting leaves alone what it is not about, also the one for the
base time, which makes a new generator and takes the step over through a length of time. So what counts for each part
of a pipeline is the last setting that gives it, and settings of different parts may change places. None of this
leaves the ranges of instants, lengths of time and 64-bit numbers on the way, however extreme what is set. Main
statement: `Pipeline.configured_by_last`.
-/

namespace SampleLoad

/-! ### Lengths of time -/

/-- The number of nanoseconds is that of a length of time: at most 2^63 - 1 milliseconds, forward or back. -/
def TimeSpan.InRange (nanos : Int) : Prop :=
  -((signedLimit : Int) - 1) * nanosPerMilli ≤ nanos ∧ nanos ≤ ((signedLimit : Int) - 1) * nanosPerMilli

instance (nanos : Int) : Decidable (TimeSpan.InRange nanos) := inferInstanceAs (Decidable (_ ∧ _))

/-- A length of time, forward or back, in nanoseconds. -/
structure TimeSpan where
  nanos : Int
  inRange : TimeSpan.InRange nanos

namespace TimeSpan

def ofMillis? (millis : Int) : Option TimeSpan :=
  if h : InRange (millis * nanosPerMilli) then some ⟨millis * nanosPerMilli, h⟩ else none

def millis (length : TimeSpan) : Int := length.nanos.tdiv nanosPerMilli

/-- The whole milliseconds, if they are a signed 64-bit number. -/
def signedMillis? (length : TimeSpan) : Option Int :=
  if inSignedRange length.millis then some length.millis else none

theorem ofMillis?_eq_some {millis : Int} (hlow : -(signedLimit : Int) < millis) (hhigh : millis < signedLimit) :
    ∃ length, ofMillis? millis = some length ∧ length.nanos = millis * nanosPerMilli := by
  have hrange : InRange (millis * nanosPerMilli) := by
    simp only [InRange, signedLimit, nanosPerMilli] at *
    omega
  exact ⟨⟨_, hrange⟩, dif_pos hrange, rfl⟩

theorem ofMillis?_eq_none {millis : Int} (h : millis = -(signedLimit : Int)) : ofMillis? millis = none := by
  subst h
  rfl

theorem millis_bounds (length : TimeSpan) :
    -(signedLimit : Int) < length.millis ∧ length.millis < signedLimit := by
  have hrange := length.inRange
  have hsplit := Int.mul_tdiv_add_tmod length.nanos nanosPerMilli
  have hbelow := Int.tmod_lt_of_pos length.nanos (show 0 < nanosPerMilli by decide)
  have habove := Int.lt_tmod_of_pos length.nanos (show 0 < nanosPerMilli by decide)
  simp only [millis, InRange, signedLimit, nanosPerMilli] at *
  omega

theorem signedMillis?_eq_some (length : TimeSpan) : length.signedMillis? = some length.millis := by
  have hbounds := length.millis_bounds
  exact if_pos ((inSignedRange_iff _).mpr (by omega))

end TimeSpan

namespace Instant

/-- The last whole millisecond at or before the instant, if that is an instant. -/
def floorMilli? (t : Instant) : Option Instant := ofNanos? (t.nanos - t.nanos % nanosPerMilli)

theorem floorMilli?_eq_some (t : Instant) : t.floorMilli? = some t.floorMilli :=
  (ofNanos?_eq_some_iff _ _).mpr rfl

end Instant

/-! ### Settings -/

inductive Setting where
  | capacity (rows : Capacity)
  | seed (number : UInt64)
  | baseTime (base : Instant)
  | step (length : TimeSpan)
  /-- The options of a command; the one for the step is a signed 64-bit number. -/
  | options (common : CommonOptions) (signed : inSignedRange common.decreaseUnitMillis)

namespace Setting

def capacity? : Setting → Option Capacity
  | capacity rows => some rows
  | options common _ => some common.batchSize
  | seed _ | baseTime _ | step _ => none

/-- The seed that is set; options may have none. -/
def seed? : Setting → Option UInt64
  | seed number => some number
  | options common _ => common.seed?
  | capacity _ | baseTime _ | step _ => none

/-- The base time that is set, before it is cut to whole milliseconds. -/
def baseTime? : Setting → Option Instant
  | baseTime base => some base
  | capacity _ | seed _ | step _ | options .. => none

/-- The step that is set, in whole milliseconds, before it is raised to one. An option that is no length of time
stands for the default. -/
def stepMillis? : Setting → Option Int
  | step length => some length.millis
  | options common _ =>
    some (if common.decreaseUnitMillis = -(signedLimit : Int) then RowGenerator.defaultStepMillis
      else common.decreaseUnitMillis)
  | capacity _ | seed _ | baseTime _ => none

theorem stepMillis?_lt (s : Setting) {millis : Int} (h : s.stepMillis? = some millis) : millis < signedLimit := by
  cases s with
  | step length =>
      cases h
      exact length.millis_bounds.2
  | options common signed =>
      have hrange := (inSignedRange_iff _).mp signed
      cases h
      split
      · decide
      · exact hrange.2
  | _ => cases h

/-- The two settings give no part of a pipeline both. -/
structure Apart (first second : Setting) : Prop where
  capacity : first.capacity? = none ∨ second.capacity? = none
  seed : first.seed? = none ∨ second.seed? = none
  baseTime : first.baseTime? = none ∨ second.baseTime? = none
  stepMillis : first.stepMillis? = none ∨ second.stepMillis? = none

/-- What the last of the settings gives that gives any. -/
def last? {α : Type} (given? : Setting → Option α) (settings : List Setting) : Option α :=
  (settings.filterMap given?).getLast?

theorem last?_cons {α : Type} (given? : Setting → Option α) (s : Setting) (rest : List Setting) :
    last? given? (s :: rest) = (last? given? rest <|> given? s) := by
  rw [last?, last?, List.filterMap_cons]
  cases given? s with
  | none => simp
  | some value => simp [List.getLast?_cons, Option.or_some]

end Setting

namespace Pipeline

def apply (p : Pipeline) : Setting → Pipeline
  | .capacity rows => p.withCapacity rows
  | .seed number => p.withSeed number
  | .baseTime base => p.withBaseTime base
  | .step length => p.withStep length.nanos
  | .options common _ => p.withOptions common

def configure (p : Pipeline) (settings : List Setting) : Pipeline := settings.foldl apply p

/-! ### What each setting does -/

/-- The step is at least a millisecond and a signed 64-bit number. -/
structure HoldsStep (p : Pipeline) : Prop where
  positive : 1 ≤ p.generator.stepMillis
  signed : p.generator.stepMillis < signedLimit

theorem withBaseTime_generator (p : Pipeline) (base : Instant) :
    (p.withBaseTime base).generator = ⟨base.floorMilli, max 1 p.generator.stepMillis⟩ :=
  withStep_millis (.startingAt base) p.generator.stepMillis

section Views

variable {p : Pipeline} (s : Setting)

theorem apply_capacity : (p.apply s).capacity = s.capacity?.getD p.capacity := by
  cases s with
  | options common signed =>
      rw [apply, withOptions]
      cases common.seed? <;> rfl
  | _ => rfl

theorem apply_source : (p.apply s).source = (s.seed?.map RandomSource.ofSeed).getD p.source := by
  cases s with
  | options common signed =>
      rw [apply, withOptions, Setting.seed?]
      cases common.seed? <;> rfl
  | _ => rfl

theorem apply_baseTime :
    (p.apply s).generator.baseTime = (s.baseTime?.map Instant.floorMilli).getD p.generator.baseTime := by
  cases s with
  | options common signed => exact p.withOptions_baseTime common
  | _ => rfl

theorem apply_stepMillis (hp : p.HoldsStep) :
    (p.apply s).generator.stepMillis = (s.stepMillis?.map (max 1)).getD p.generator.stepMillis := by
  cases s with
  | baseTime base =>
      rw [apply, withBaseTime_generator]
      exact Int.max_eq_right hp.positive
  | options common signed =>
      rw [apply, withOptions_stepMillis, effectiveStep, Setting.stepMillis?]
      split
      · rfl
      · rfl
  | _ => rfl

theorem HoldsStep.apply (hp : p.HoldsStep) : (p.apply s).HoldsStep := by
  have hstep := apply_stepMillis s hp
  cases hgiven : s.stepMillis? with
  | none =>
      rw [hgiven] at hstep
      exact ⟨hstep ▸ hp.positive, hstep ▸ hp.signed⟩
  | some millis =>
      rw [hgiven] at hstep
      have hmax : (p.apply s).generator.stepMillis = max 1 millis := hstep
      have hlimit : millis < signedLimit := s.stepMillis?_lt hgiven
      have hone : (1 : Int) < signedLimit := by decide
      exact ⟨by omega, by omega⟩

end Views

/-! ### Settings in order -/

/-- A part of pipelines that every setting sets to what it gives, or leaves alone, is as the last setting that gives
any has it. -/
theorem configure_view {α β : Type} (view : Pipeline → β) (given? : Setting → Option α) (make : α → β)
    (hview : ∀ (p : Pipeline) (s : Setting), p.HoldsStep → view (p.apply s) = ((given? s).map make).getD (view p))
    {p : Pipeline} (hp : p.HoldsStep) (settings : List Setting) :
    view (p.configure settings) = ((Setting.last? given? settings).map make).getD (view p) := by
  induction settings generalizing p with
  | nil => rfl
  | cons s rest ih =>
      show view ((p.apply s).configure rest) = _
      rw [ih (hp.apply s), hview p s hp, Setting.last?_cons]
      cases Setting.last? given? rest <;> rfl

theorem HoldsStep.configure {p : Pipeline} (hp : p.HoldsStep) (settings : List Setting) :
    (p.configure settings).HoldsStep := by
  induction settings generalizing p with
  | nil => exact hp
  | cons s rest ih => exact ih (hp.apply s)

theorem eq_of_views {p q : Pipeline} (hcapacity : p.capacity = q.capacity) (hsource : p.source = q.source)
    (hbase : p.generator.baseTime = q.generator.baseTime)
    (hstep : p.generator.stepMillis = q.generator.stepMillis) : p = q := by
  obtain ⟨_, ⟨_, _⟩, _⟩ := p
  obtain ⟨_, ⟨_, _⟩, _⟩ := q
  cases hcapacity
  cases hsource
  cases hbase
  cases hstep
  rfl

/-- Settings of different parts may change places. -/
theorem apply_comm {p : Pipeline} (hp : p.HoldsStep) {first second : Setting} (h : first.Apart second) :
    (p.apply first).apply second = (p.apply second).apply first := by
  have hswap {α β : Type} {given given' : Option α} (make : α → β) (hnone : given = none ∨ given' = none)
      (start : β) : (given'.map make).getD ((given.map make).getD start) =
        (given.map make).getD ((given'.map make).getD start) := by
    rcases hnone with rfl | rfl <;> rfl
  apply eq_of_views
  · simpa only [apply_capacity, Option.map_id_fun, id_eq] using hswap id h.capacity p.capacity
  · simpa only [apply_source] using hswap RandomSource.ofSeed h.seed p.source
  · simpa only [apply_baseTime] using hswap Instant.floorMilli h.baseTime p.generator.baseTime
  · rw [apply_stepMillis second (hp.apply first), apply_stepMillis first hp, apply_stepMillis first (hp.apply second),
      apply_stepMillis second hp]
    exact hswap (max 1) h.stepMillis p.generator.stepMillis

/-! ### Nothing leaves its range -/

/-- Sets the step to a length of time, if its whole milliseconds are a 64-bit number. -/
def stepped? (g : RowGenerator) (length : TimeSpan) : Option RowGenerator :=
  length.signedMillis?.map fun millis => { g with stepMillis := max 1 millis }

/-- The length of time of a step in milliseconds, or that of the default if it has none. -/
def spanOrDefault? (millis : Int) : Option TimeSpan :=
  TimeSpan.ofMillis? millis <|> TimeSpan.ofMillis? RowGenerator.defaultStepMillis

/-- The pipeline after a setting, if every length of time, every instant and every 64-bit number that comes up on the
way is one. -/
def applyChecked? (p : Pipeline) : Setting → Option Pipeline
  | .capacity rows => some (p.withCapacity rows)
  | .seed number => some (p.withSeed number)
  | .baseTime base => do
    let step ← TimeSpan.ofMillis? p.generator.stepMillis
    let start ← base.floorMilli?
    let generator ← stepped? ⟨start, RowGenerator.defaultStepMillis⟩ step
    return { p with generator }
  | .step length => do
    let generator ← stepped? p.generator length
    return { p with generator }
  | .options common _ => do
    let step ← spanOrDefault? common.decreaseUnitMillis
    let generator ← stepped? p.generator step
    return { p with
      capacity := common.batchSize
      generator
      source := (common.seed?.map RandomSource.ofSeed).getD p.source }

theorem stepped?_eq (g : RowGenerator) (length : TimeSpan) : stepped? g length = some (g.withStep length.nanos) := by
  rw [stepped?, length.signedMillis?_eq_some]
  rfl

theorem spanOrDefault?_eq {millis : Int} (signed : inSignedRange millis) :
    ∃ length, spanOrDefault? millis = some length ∧ length.nanos = stepOfMillis millis := by
  have hrange := (inSignedRange_iff _).mp signed
  by_cases hleast : millis = -(signedLimit : Int)
  · obtain ⟨length, hlength, hnanos⟩ := TimeSpan.ofMillis?_eq_some
      (show -(signedLimit : Int) < RowGenerator.defaultStepMillis by decide) (by decide)
    refine ⟨length, ?_, ?_⟩
    · rw [spanOrDefault?, TimeSpan.ofMillis?_eq_none hleast, hlength]
      rfl
    · rw [hnanos, stepOfMillis, if_pos hleast]
  · obtain ⟨length, hlength, hnanos⟩ := TimeSpan.ofMillis?_eq_some (by omega) hrange.2
    refine ⟨length, ?_, ?_⟩
    · rw [spanOrDefault?, hlength]
      rfl
    · rw [hnanos, stepOfMillis, if_neg hleast]

theorem applyChecked?_eq {p : Pipeline} (hp : p.HoldsStep) (s : Setting) : p.applyChecked? s = some (p.apply s) := by
  cases s with
  | capacity rows => rfl
  | seed number => rfl
  | baseTime base =>
      have hpositive := hp.positive
      obtain ⟨step, hstep, hnanos⟩ := TimeSpan.ofMillis?_eq_some (by omega) hp.signed
      rw [applyChecked?, hstep, base.floorMilli?_eq_some]
      simp only [Option.bind_eq_bind, Option.bind_some, stepped?_eq, hnanos]
      rfl
  | step length =>
      rw [applyChecked?, stepped?_eq]
      rfl
  | options common signed =>
      obtain ⟨step, hstep, hnanos⟩ := spanOrDefault?_eq signed
      rw [applyChecked?, hstep]
      simp only [Option.bind_eq_bind, Option.bind_some, stepped?_eq, hnanos]
      rw [apply, withOptions]
      cases common.seed? <;> rfl

/-- The pipeline after settings in order, if nothing leaves its range on the way. -/
def configureChecked? (p : Pipeline) (settings : List Setting) : Option Pipeline :=
  settings.foldlM applyChecked? p

theorem configureChecked?_eq {p : Pipeline} (hp : p.HoldsStep) (settings : List Setting) :
    p.configureChecked? settings = some (p.configure settings) := by
  induction settings generalizing p with
  | nil => rfl
  | cons s rest ih =>
      rw [configureChecked?, List.foldlM_cons, applyChecked?_eq hp s]
      exact ih (hp.apply s)

/-! ### New pipelines -/

theorem HoldsStep.new (now : Instant) (fresh : RandomSource) : (new now fresh).HoldsStep :=
  ⟨show 1 ≤ RowGenerator.defaultStepMillis by decide, show RowGenerator.defaultStepMillis < signedLimit by decide⟩

/-- What counts for the capacity, the source of values, the base time and the step of a pipeline is the last setting
that gives it, and without one what a new pipeline has. Settings that give different parts may change places wherever
they stand next to each other. Every length of time, every instant and every 64-bit number that comes up on the way
is one, so no setting fails. -/
theorem configured_by_last (now : Instant) (fresh : RandomSource) (settings : List Setting) :
    let p := (new now fresh).configure settings
    p.capacity = (Setting.last? Setting.capacity? settings).getD .default ∧
      p.source = ((Setting.last? Setting.seed? settings).map RandomSource.ofSeed).getD fresh ∧
      p.generator.baseTime = ((Setting.last? Setting.baseTime? settings).getD now).floorMilli ∧
      p.generator.stepMillis = max 1 ((Setting.last? Setting.stepMillis? settings).getD 1000) ∧
      (∀ (before after : List Setting) (first second : Setting), first.Apart second →
        settings = before ++ first :: second :: after →
        p = (new now fresh).configure (before ++ second :: first :: after)) ∧
      (new now fresh).configureChecked? settings = some p := by
  intro p
  have hnew := HoldsStep.new now fresh
  refine ⟨?_, ?_, ?_, ?_, ?_, ?_⟩
  · have hview := configure_view Pipeline.capacity Setting.capacity? id
      (fun p s _ => by rw [apply_capacity, Option.map_id_fun, id]) hnew settings
    rwa [Option.map_id_fun, id] at hview
  · exact configure_view Pipeline.source Setting.seed? RandomSource.ofSeed (fun p s _ => apply_source s) hnew settings
  · have hview := configure_view (fun p => p.generator.baseTime) Setting.baseTime? Instant.floorMilli
      (fun p s _ => apply_baseTime s) hnew settings
    exact hview.trans (Option.getD_map Instant.floorMilli now _)
  · have hview := configure_view (fun p => p.generator.stepMillis) Setting.stepMillis? (max 1)
      (fun p s hp => apply_stepMillis s hp) hnew settings
    exact hview.trans (Option.getD_map (max (1 : Int)) 1000 _)
  · rintro before after first second hapart rfl
    show configure _ _ = _
    rw [configure, configure, List.foldl_append, List.foldl_append]
    have hbefore : ((new now fresh).configure before).HoldsStep := hnew.configure before
    exact congrArg (fun q : Pipeline => q.configure after) (apply_comm hbefore hapart)
  · exact configureChecked?_eq hnew settings

end Pipeline

end SampleLoad
