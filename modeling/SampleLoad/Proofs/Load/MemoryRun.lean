import SampleLoad.Proofs.Load.Injection
import SampleLoad.Proofs.Load.Stored
import SampleLoad.Template.Registry

/-!
What a run leaves in a store in memory. Where nothing fails, the container holds the rows of the generator,
whatever it held before and however the rows are grouped. Where something fails after provisioning, it holds
the rows of the batches written before.
-/

namespace SampleLoad.Pipeline

open MemoryStore (SameElsewhere)

/-- A run over a store in memory: what is reported, and the store after it. -/
def runInMemory (p : Pipeline) (store : MemoryStore) (container : String) (schema : Schema) (rowCount : Nat) :
    Except LoadError Metrics × MemoryStore :=
  (p.run memoryStore container schema rowCount).run store

/-- A store in which a container of another schema is left, with a row. -/
def staleStore : MemoryStore :=
  ({} : MemoryStore).insertContainer "t" Builtin.multipleTimeColumns.schema #[⟨[]⟩]

section Load

variable (p : Pipeline) {store : MemoryStore} {container : String} {schema : Schema} (rowCount : Nat)

/-- A run ends with closing the store. -/
theorem runInMemory_eq {result : Except LoadError Metrics} {loaded : MemoryStore}
    (hload : (p.load memoryStore container schema rowCount).run store = (result, loaded)) :
    p.runInMemory store container schema rowCount =
      (report result (loaded.perform .close).1, loaded.noted .close) := by
  rw [runInMemory, run, StateT.run_bind, hload]
  rfl

variable (hopen : store.closes = 0) (hvalid : schema.validate = .ok ())
  (hprovisioned : ∃ outcome, ((provision memoryStore container schema).run store).1 = .ok outcome)

include hvalid hprovisioned

/-- After provisioning the batches of the plan are written into an empty container. -/
theorem load_provisioned :
    ∃ empty, SameElsewhere container store empty ∧ empty.writes = store.writes ∧
      empty.container? container = some ⟨schema, #[]⟩ ∧
      (p.load memoryStore container schema rowCount).run store =
        (performSteps memoryStore ((p.plan schema rowCount).outcome {})
          (writeSteps container 0 (p.plan schema rowCount).batches)).run empty := by
  obtain ⟨outcome, houtcome⟩ := hprovisioned
  have hsame := (elsewhere_compositional container).provision schema store
  rcases hprovision : (provision memoryStore container schema).run store with ⟨answer, empty⟩
  rw [hprovision] at houtcome hsame
  obtain rfl : answer = .ok outcome := houtcome
  obtain ⟨hempty, hwrites⟩ := provision_stored hprovision
  refine ⟨empty, hsame, hwrites, hempty, ?_⟩
  rw [load, hvalid, plan, items_eq]
  simp only [StateT.run_bind, hprovision]
  change (p.writeRows memoryStore container schema rowCount 0 p.source _ {}).run empty = _
  rw [writeRows_eq _ _ _ _ _ _ _ _ _ (Buffer.empty_not_full p.capacity)]
  rfl

include hopen

/-- Where no write is to fail, all batches of the plan are stored. -/
theorem load_stored (hfree : ∀ number, store.failPoint? = some (.write number) →
      number ≤ store.writes ∨ store.writes + (p.plan schema rowCount).batches.length < number) :
    ∃ loaded, (p.load memoryStore container schema rowCount).run store =
        ((p.plan schema rowCount).outcome {}, loaded) ∧
      SameElsewhere container store loaded ∧
      loaded.writes = store.writes + (p.plan schema rowCount).batches.length ∧
      loaded.container? container = some ⟨schema, (p.plan schema rowCount).batches.flatten.toArray⟩ := by
  obtain ⟨empty, hsame, hwrites, hempty, hload⟩ := p.load_provisioned rowCount hvalid hprovisioned
  have hloaded := (elsewhere_compositional container).load p schema rowCount store
  rw [← hwrites, ← hsame.failPoint] at hfree
  obtain ⟨loaded, hrun, hcount, hstored⟩ := writeSteps_stored (hsame.closes.trans hopen) hempty
    ((p.plan schema rowCount).outcome {}) 0 (fun _ hbatch _ hrow => p.plan_width schema rowCount hbatch hrow) hfree
  rw [hrun] at hload
  rw [hload] at hloaded
  exact ⟨loaded, hload, hloaded, hcount.trans (hwrites ▸ rfl), hstored.trans (by simp)⟩

/-- Where a write is to fail, the batches before it are stored. -/
theorem load_refused {count : Nat} (hcount : count < (p.plan schema rowCount).batches.length)
    (hfail : store.failPoint? = some (.write (store.writes + count + 1))) :
    ∃ loaded, (p.load memoryStore container schema rowCount).run store =
        (.error (.write container (count + 1) (FailPoint.write (store.writes + count + 1)).refusal), loaded) ∧
      SameElsewhere container store loaded ∧
      loaded.container? container =
        some ⟨schema, ((p.plan schema rowCount).batches.take count).flatten.toArray⟩ := by
  obtain ⟨empty, hsame, hwrites, hempty, hload⟩ := p.load_provisioned rowCount hvalid hprovisioned
  have hloaded := (elsewhere_compositional container).load p schema rowCount store
  rw [← hwrites, ← hsame.failPoint] at hfail
  obtain ⟨loaded, hrun, hstored⟩ := writeSteps_refused (hsame.closes.trans hopen) hempty
    ((p.plan schema rowCount).outcome {}) 0 (fun _ hbatch _ hrow => p.plan_width schema rowCount hbatch hrow)
    hcount hfail
  rw [hrun, hwrites, Nat.zero_add] at hload
  rw [hload] at hloaded
  exact ⟨loaded, hload, hloaded, hstored.trans (by simp)⟩

end Load

/-! ### Runs in which nothing fails -/

section Rows

variable (p : Pipeline) {store : MemoryStore} (container : String) {schema : Schema} {rowCount : Nat}

theorem runInMemory_rows (hopen : store.closes = 0) (hfree : store.failPoint? = none)
    (hvalid : schema.validate = .ok ()) {rows : List Row} (hrows : p.items schema rowCount = rows.map .ok) :
    (p.runInMemory store container schema rowCount).2.container? container = some ⟨schema, rows.toArray⟩ ∧
      ∀ other, other ≠ container →
        (p.runInMemory store container schema rowCount).2.container? other = store.container? other := by
  have hnever : ∀ number, store.failPoint? = some (.write number) →
      number ≤ store.writes ∨ store.writes + (p.plan schema rowCount).batches.length < number := by
    intro number hfail
    rw [hfree] at hfail
    cases hfail
  obtain ⟨loaded, hload, hsame, -, hstored⟩ := p.load_stored rowCount hopen hvalid
    (provision_succeeds hopen hfree container schema) hnever
  have hgenerated : upToError (p.items schema rowCount) = (rows, none) := by
    rw [hrows, upToError_map_ok]
  rw [p.plan_complete_flatten schema rowCount (congrArg Prod.snd hgenerated), Pipeline.rows, hgenerated] at hstored
  rw [p.runInMemory_eq rowCount hload]
  exact ⟨hstored, hsame.others⟩

/-- Where nothing fails, a run leaves the rows of the generator in its container, whatever it held before and
however many rows are written at once; no other container changes. More rows begin with the same rows. -/
theorem run_stores_rows (hopen : store.closes = 0) (hfree : store.failPoint? = none)
    (hvalid : schema.validate = .ok ()) {rows : List Row} (hrows : p.items schema rowCount = rows.map .ok) :
    (p.runInMemory store container schema rowCount).2.container? container = some ⟨schema, rows.toArray⟩ ∧
      (∀ other, other ≠ container →
        (p.runInMemory store container schema rowCount).2.container? other = store.container? other) ∧
      (∀ capacity (before : MemoryStore), before.closes = 0 → before.failPoint? = none →
        ((p.withCapacity capacity).runInMemory before container schema rowCount).2.container? container =
          (p.runInMemory store container schema rowCount).2.container? container) ∧
      ∀ total more, rowCount ≤ total → p.items schema total = more.map .ok →
        rows <+: more ∧
          (p.runInMemory store container schema total).2.container? container = some ⟨schema, more.toArray⟩ := by
  obtain ⟨hstored, hothers⟩ := p.runInMemory_rows container hopen hfree hvalid hrows
  refine ⟨hstored, hothers, fun capacity before hopen' hfree' => ?_, fun total more htotal hmore => ⟨?_, ?_⟩⟩
  · exact ((p.withCapacity capacity).runInMemory_rows container hopen' hfree' hvalid hrows).1.trans hstored.symm
  · have hprefix := p.items_prefix schema htotal
    rw [hmore, hrows, ← List.map_take, List.map_inj_right fun _ _ => Except.ok.inj] at hprefix
    exact hprefix ▸ List.take_prefix _ _
  · exact (p.runInMemory_rows container hopen hfree hvalid hmore).1

theorem run_stores_rows_stale :
    staleStore.closes = 0 ∧ staleStore.failPoint? = none ∧ Builtin.oneThousandRows.schema.validate = .ok () ∧
      inPairs.items Builtin.oneThousandRows.schema 3 = (inPairs.rows Builtin.oneThousandRows.schema 3).map .ok ∧
      (inPairs.runInMemory staleStore "t" Builtin.oneThousandRows.schema 3).2.container? "t" =
        some ⟨Builtin.oneThousandRows.schema, (inPairs.rows Builtin.oneThousandRows.schema 3).toArray⟩ :=
  ⟨rfl, rfl, rfl, rfl, (inPairs.run_stores_rows "t" rfl rfl rfl rfl).1⟩

end Rows

/-! ### Runs in which something fails -/

/-- How many rows are left in the container, by what a run reports after provisioning. -/
inductive Kept (items : List (Except GeneratorError Row)) (capacity rowCount : Nat) (container : String) :
    Except LoadError Metrics → Nat → Prop where
  | loaded (metrics : Metrics) : Kept items capacity rowCount container (.ok metrics) rowCount
  | notClosed (e : StoreError) : Kept items capacity rowCount container (.error (.connection e)) rowCount
  | notWritten (batch : Nat) (e : StoreError) :
    Kept items capacity rowCount container (.error (.write container (batch + 1) e)) (batch * capacity)
  | notGenerated {index : Nat} {e : GeneratorError} (h : FailsAt items index e) :
    Kept items capacity rowCount container (.error (.generator e)) (index / capacity * capacity)

/-- The container holds the first rows of the generator, as many as the result of the run says. -/
def HoldsKept (p : Pipeline) (container : String) (schema : Schema) (rowCount : Nat)
    (run : Except LoadError Metrics × MemoryStore) : Prop :=
  ∃ (kept : Nat) (rows : List Row),
    Kept (p.items schema rowCount) p.capacity.rows rowCount container run.1 kept ∧
      run.2.container? container = some ⟨schema, rows.toArray⟩ ∧
      (p.items schema rowCount).take kept = rows.map .ok ∧ rows.length = kept

theorem report_outcome_ne_write (plan : LoadPlan) (closed : Except StoreError Unit) (container : String)
    (batch : Nat) (e : StoreError) : report (plan.outcome {}) closed ≠ .error (.write container batch e) := by
  obtain ⟨batches, fault?⟩ := plan
  cases fault? <;> cases closed <;> exact nofun

section Faults

variable (p : Pipeline) (container : String) (schema : Schema) (rowCount : Nat)

/-- What a run comes to if no call is made to fail. -/
def unfailing (store : MemoryStore) : Except LoadError Metrics × MemoryStore :=
  p.runInMemory (store.failingAt none) container schema rowCount

variable {schema} {loaded : MemoryStore}

/-- The batches before one that is refused are full. -/
theorem holdsKept_refused {count : Nat} {e : StoreError} {closed : Except StoreError Unit}
    (hcount : count < (p.plan schema rowCount).batches.length)
    (hstored : loaded.container? container =
      some ⟨schema, ((p.plan schema rowCount).batches.take count).flatten.toArray⟩) :
    p.HoldsKept container schema rowCount
      (report (.error (.write container (count + 1) e)) closed, loaded.noted .close) := by
  have hfull : count ≤ (p.rows schema rowCount).length / p.capacity.rows :=
    Nat.le_of_lt_succ (Nat.lt_of_lt_of_le hcount (p.plan_length_le_rows schema rowCount))
  have hrows : count * p.capacity.rows ≤ (p.rows schema rowCount).length :=
    (Nat.le_div_iff_mul_le p.capacity.positive).mp hfull
  rw [p.plan_take schema rowCount hfull] at hstored
  refine ⟨_, _, .notWritten count e, hstored, p.items_take schema rowCount hrows, ?_⟩
  rw [List.length_take, Nat.min_eq_left hrows]

/-- Where all batches are stored, the result is that of the plan. -/
theorem holdsKept_stored (closed : Except StoreError Unit)
    (hstored : loaded.container? container = some ⟨schema, (p.plan schema rowCount).batches.flatten.toArray⟩) :
    p.HoldsKept container schema rowCount
      (report ((p.plan schema rowCount).outcome {}) closed, loaded.noted .close) := by
  cases hfault : (p.plan schema rowCount).fault? with
  | none =>
      have hcount := rows_length_of_complete hfault
      have hitems := p.items_take schema rowCount (Nat.le_refl _)
      rw [p.plan_complete_flatten schema rowCount hfault] at hstored
      rw [List.take_length, hcount] at hitems
      refine ⟨rowCount, _, ?_, hstored, hitems, hcount⟩
      rw [LoadPlan.outcome, hfault]
      cases closed with
      | error e => exact .notClosed e
      | ok closed => exact .loaded _
  | some e =>
      have hfails : FailsAt (p.items schema rowCount) (p.rows schema rowCount).length e :=
        (failsAt_iff _ _ _).mpr ⟨rfl, hfault⟩
      have hrows := Nat.div_mul_le_self (p.rows schema rowCount).length p.capacity.rows
      rw [p.plan_cut_flatten schema rowCount hfault] at hstored
      refine ⟨_, _, ?_, hstored, p.items_take schema rowCount hrows, ?_⟩
      · rw [LoadPlan.outcome, hfault]
        exact .notGenerated hfails
      · rw [List.length_take, Nat.min_eq_left hrows]

variable {store : MemoryStore} (hopen : store.closes = 0) (hvalid : schema.validate = .ok ())

include hopen hvalid

theorem holdsKept_run
    (hprovisioned : ∃ outcome, ((provision memoryStore container schema).run store).1 = .ok outcome) :
    p.HoldsKept container schema rowCount (p.runInMemory store container schema rowCount) := by
  by_cases hfail : ∃ count, count < (p.plan schema rowCount).batches.length ∧
      store.failPoint? = some (.write (store.writes + count + 1))
  · obtain ⟨count, hcount, hpoint⟩ := hfail
    obtain ⟨loaded, hload, -, hstored⟩ := p.load_refused rowCount hopen hvalid hprovisioned hcount hpoint
    rw [p.runInMemory_eq rowCount hload]
    exact p.holdsKept_refused container rowCount hcount hstored
  · have hfree : ∀ number, store.failPoint? = some (.write number) →
        number ≤ store.writes ∨ store.writes + (p.plan schema rowCount).batches.length < number := by
      intro number hpoint
      refine Decidable.byContradiction fun hreached => hfail ⟨number - store.writes - 1, by omega, ?_⟩
      have hnumber : store.writes + (number - store.writes - 1) + 1 = number := by omega
      rw [hpoint, hnumber]
    obtain ⟨loaded, hload, -, -, hstored⟩ := p.load_stored rowCount hopen hvalid hprovisioned hfree
    rw [p.runInMemory_eq rowCount hload]
    exact p.holdsKept_stored container rowCount _ hstored

/-- If no call is made to fail, every batch of the plan is a write, and the result is that of the plan. -/
theorem unfailing_eq :
    (p.unfailing container schema rowCount store).2.writes =
        store.writes + (p.plan schema rowCount).batches.length ∧
      ∃ closed, (p.unfailing container schema rowCount store).1 =
        report ((p.plan schema rowCount).outcome {}) closed := by
  have hopen : (store.failingAt none).closes = 0 := hopen
  obtain ⟨loaded, hload, -, hwrites, -⟩ := p.load_stored rowCount hopen hvalid
    (provision_succeeds hopen rfl container schema) fun _ h => nomatch h
  rw [unfailing, p.runInMemory_eq rowCount hload]
  exact ⟨hwrites, _, rfl⟩

omit hopen hvalid in
/-- A run that does not come to the write at which the store is to fail does what it does without. -/
theorem run_unreached (hunused : store.writes = 0) {number : Nat} (hpoint : store.failPoint? = some (.write number))
    (h : ¬(1 ≤ number ∧ number ≤ (p.unfailing container schema rowCount store).2.writes)) :
    p.runInMemory store container schema rowCount =
      ((p.unfailing container schema rowCount store).1,
        (p.unfailing container schema rowCount store).2.failingAt store.failPoint?) := by
  have hstore : (store.failingAt none).failingAt (some (.write number)) = store := by
    rw [← hpoint]
    rfl
  have hsame := (p.run_unaffected number container schema rowCount).unreached (store.failingAt none) rfl
    fun hreached => h ⟨Nat.succ_le_of_lt (hunused ▸ hreached.1), hreached.2⟩
  rw [hstore, ← hpoint] at hsame
  exact hsame

/-- A run that comes to the write at which the store is to fail ends there. -/
theorem run_reached
    (hprovisioned : ∃ outcome, ((provision memoryStore container schema).run store).1 = .ok outcome)
    (hunused : store.writes = 0) {number : Nat} (hpoint : store.failPoint? = some (.write number))
    (h : 1 ≤ number ∧ number ≤ (p.unfailing container schema rowCount store).2.writes) :
    ∃ e, (p.runInMemory store container schema rowCount).1 = .error (.write container number e) := by
  obtain ⟨hwrites, -⟩ := p.unfailing_eq container rowCount hopen hvalid
  rw [hwrites, hunused, Nat.zero_add] at h
  obtain ⟨count, rfl⟩ : ∃ count, number = count + 1 := ⟨number - 1, by omega⟩
  have hpoint : store.failPoint? = some (.write (store.writes + count + 1)) := by
    rw [hpoint, hunused, Nat.zero_add]
  obtain ⟨loaded, hload, -⟩ := p.load_refused rowCount hopen hvalid hprovisioned h.2 hpoint
  rw [p.runInMemory_eq rowCount hload]
  exact ⟨_, rfl⟩

/-- A store that is to fail at a write makes a run fail there if it comes to that, and nowhere else. -/
theorem run_fails_iff
    (hprovisioned : ∃ outcome, ((provision memoryStore container schema).run store).1 = .ok outcome)
    (hunused : store.writes = 0) {number : Nat} (hpoint : store.failPoint? = some (.write number)) :
    (∃ e, (p.runInMemory store container schema rowCount).1 = .error (.write container number e)) ↔
      1 ≤ number ∧ number ≤ (p.unfailing container schema rowCount store).2.writes := by
  refine ⟨fun h => Decidable.byContradiction fun hnot => ?_,
    p.run_reached container rowCount hopen hvalid hprovisioned hunused hpoint⟩
  obtain ⟨-, closed, hresult⟩ := p.unfailing_eq container rowCount hopen hvalid
  obtain ⟨e, he⟩ := h
  rw [p.run_unreached container rowCount hunused hpoint hnot] at he
  change (p.unfailing container schema rowCount store).1 = _ at he
  exact report_outcome_ne_write _ _ _ _ _ (hresult ▸ he)

/-- What a run leaves behind that was provisioned, over a store that may be told to fail anywhere: the rows of
all batches written before it failed, and everything else as it was. A write at which the store is to fail
ends the run if it comes to that many flushes, and has no effect otherwise. -/
theorem run_keeps_written_rows (hunused : store.writes = 0)
    (hprovisioned : ∃ outcome, ((provision memoryStore container schema).run store).1 = .ok outcome) :
    p.HoldsKept container schema rowCount (p.runInMemory store container schema rowCount) ∧
      (∀ other, other ≠ container →
        (p.runInMemory store container schema rowCount).2.container? other = store.container? other) ∧
      (p.runInMemory store container schema rowCount).2.closes = 1 ∧
      (∀ rows : List Row, p.items schema rowCount = rows.map .ok →
        (p.unfailing container schema rowCount store).2.writes = rowCount / p.capacity.rows + 1) ∧
      (∀ index e, FailsAt (p.items schema rowCount) index e →
        (p.unfailing container schema rowCount store).2.writes = index / p.capacity.rows) ∧
      ∀ number, store.failPoint? = some (.write number) →
        ((∃ e, (p.runInMemory store container schema rowCount).1 = .error (.write container number e)) ↔
          1 ≤ number ∧ number ≤ (p.unfailing container schema rowCount store).2.writes) ∧
        (¬(1 ≤ number ∧ number ≤ (p.unfailing container schema rowCount store).2.writes) →
          p.runInMemory store container schema rowCount =
            ((p.unfailing container schema rowCount store).1,
              (p.unfailing container schema rowCount store).2.failingAt store.failPoint?)) := by
  have hsame := (elsewhere_compositional container).load p schema rowCount store
  have hrun : p.runInMemory store container schema rowCount = _ := p.runInMemory_eq rowCount rfl
  obtain ⟨hwrites, -⟩ := p.unfailing_eq container rowCount hopen hvalid
  rw [hunused, Nat.zero_add] at hwrites
  refine ⟨p.holdsKept_run container rowCount hopen hvalid hprovisioned, fun other hne => ?_, ?_,
    fun rows hrows => ?_, fun index e h => ?_, fun number hpoint =>
      ⟨p.run_fails_iff container rowCount hopen hvalid hprovisioned hunused hpoint,
        p.run_unreached container rowCount hunused hpoint⟩⟩
  · rw [hrun]
    exact hsame.others other hne
  · rw [hrun]
    exact congrArg Nat.succ (hsame.closes.trans hopen)
  · rw [hwrites, p.plan_length_of_rows schema rowCount hrows]
  · rw [hwrites, p.plan_length_of_failsAt schema rowCount h]

end Faults

theorem run_keeps_written_rows_second :
    (staleStore.failingAt (some (.write 2))).closes = 0 ∧ Builtin.oneThousandRows.schema.validate = .ok () ∧
      (staleStore.failingAt (some (.write 2))).writes = 0 ∧
      ((provision memoryStore "t" Builtin.oneThousandRows.schema).run (staleStore.failingAt (some (.write 2)))).1 =
        .ok .recreated ∧
      inPairs.HoldsKept "t" Builtin.oneThousandRows.schema 5
        (inPairs.runInMemory (staleStore.failingAt (some (.write 2))) "t" Builtin.oneThousandRows.schema 5) ∧
      ∃ e, (inPairs.runInMemory (staleStore.failingAt (some (.write 2))) "t" Builtin.oneThousandRows.schema 5).1 =
        .error (.write "t" 2 e) := by
  have hprovisioned : ((provision memoryStore "t" Builtin.oneThousandRows.schema).run
      (staleStore.failingAt (some (.write 2)))).1 = .ok .recreated := rfl
  obtain ⟨hkept, -, -, hflushes, -, hfault⟩ :=
    inPairs.run_keeps_written_rows "t" 5 rfl rfl rfl ⟨.recreated, hprovisioned⟩
  have hreached : 2 ≤ (inPairs.unfailing "t" Builtin.oneThousandRows.schema 5
      (staleStore.failingAt (some (.write 2)))).2.writes := by
    rw [hflushes (inPairs.rows Builtin.oneThousandRows.schema 5) rfl]
    decide
  exact ⟨rfl, rfl, rfl, hprovisioned, hkept, (hfault 2 rfl).1.mpr ⟨by decide, hreached⟩⟩

end SampleLoad.Pipeline
