import SampleLoad.Proofs.Command.Contact
import SampleLoad.Proofs.Load.Seeded
import SampleLoad.Proofs.Web.Delivery

/-!
The loads of all built-in templates, one after the other. Each settles the settings anew, connects by a check of its
own and starts its rows afresh, while the network may answer by all requests before and time goes on. The requests of
the command are those of its loads in order, up to the first load that fails. Main statement:
`Surroundings.sample_in_order`.
-/

namespace SampleLoad

def Builtin.request (b : Builtin) : LoadRequest := ⟨b.container, b.schema, b.rowCount⟩

theorem Builtin.resolve (b : Builtin) : LoadRequest.resolve .builtin b.id none none = .ok b.request :=
  (Registry.Loaded.builtin.resolve b.id none none).1 b.template (Registry.builtin_mem b) rfl

def Builtin.sampleContext (b : Builtin) : String := "Sample run '" ++ b.id ++ "' failed"

def Builtin.alone (b : Builtin) (a : SampleArguments) : PopulateArguments :=
  { template := b.id, common := a.common, connection := a.connection }

structure TemplateRun where
  template : Builtin
  result : Except CommandError Metrics
  sent : List WebApi.Request

/-- What a command finds outside that loads more than once. Time and fresh random numbers may change with every
request. -/
structure Surroundings where
  files : String → Except String (List UInt8)
  network : WebApi.Network
  now : (before : List WebApi.Request) → Instant
  freshSource : (before : List WebApi.Request) → RandomSource

namespace Surroundings

open WebApi (Checks Goes LoadsOver SendsAll)

variable (s : Surroundings)

def world : World (StateM (List WebApi.Request)) where
  files path := pure (s.files path)
  transport := s.network.transport
  now before := (s.now before, before)
  freshSource before := (s.freshSource before, before)

/-- What is found outside after some requests. -/
def moment (before : List WebApi.Request) : Outside where
  files := s.files
  network := s.network
  now := s.now before
  freshSource := s.freshSource before

def pipeline (options : CommonOptions) (before : List WebApi.Request) : Pipeline := (s.moment before).pipeline options

/-- The settings of a command. They do not change with time. -/
def Configures (c : ConnectionArguments) (config : WebApiConfig) : Prop := (s.moment []).Configures c config

/-! ### One load -/

/-- The load of a template after some requests: what it comes to and what it sends. The check goes out first, and if
it is confirmed, the script of provisioning and of the writes follows. -/
inductive Loads (options : CommonOptions) (config : WebApiConfig) (b : Builtin) (context? : Option String)
    (before : List WebApi.Request) : Except CommandError Metrics → List WebApi.Request → Prop where
  | unchecked {e : CommandError} (hnone : ∀ check, ¬Checks config check) :
    Loads options config b context? before (.error e) []
  | refused {check r : WebApi.Request} {sent : List WebApi.Request} {e : CommandError} (hcheck : Checks config check)
    (hsent : Goes s.network.Confirms before [check] sent (some r)) :
    Loads options config b context? before (.error e) sent
  | loaded {check : WebApi.Request} {sent : List WebApi.Request} {result : Except LoadError Metrics}
    (hcheck : Checks config check) (hconfirmed : s.network.Confirms before check)
    (hloads : LoadsOver s.network config (s.pipeline options (before ++ [check])) b.container b.schema b.rowCount
      (before ++ [check]) result sent) :
    Loads options config b context? before (CommandError.reported context? (b.request.report result)) (check :: sent)

variable {s} in
/-- A load that succeeds has sent its check and its whole script. -/
theorem Loads.whole_of_ok {options : CommonOptions} {config : WebApiConfig} {b : Builtin} {context? : Option String}
    {before sent : List WebApi.Request} {metrics : Metrics}
    (h : s.Loads options config b context? before (.ok metrics) sent) :
    ∃ check loading existed, sent = check :: loading ∧ Checks config check ∧
      SendsAll config (.exists b.container :: (loadSteps b.container b.schema
        ((s.pipeline options (before ++ [check])).plan b.schema b.rowCount) existed).map LoadStep.call) loading := by
  generalize hresult : Except.ok metrics = result at h
  cases h with
  | unchecked hnone => cases hresult
  | refused hcheck hsent => cases hresult
  | loaded hcheck hconfirmed hloads =>
      rename_i check loading result
      have hok := (CommandError.reported_ok_iff context? _ metrics).mp hresult.symm
      cases result with
      | error e => cases hok
      | ok metrics =>
          obtain ⟨existed, hscript⟩ := hloads.whole_of_ok
          exact ⟨check, loading, existed, rfl, hcheck, hscript⟩

variable {s} {a : SampleArguments} {config : WebApiConfig} (hlive : a.common.dryRun = false)
  (hconfig : s.Configures a.connection config)

include hconfig in
/-- Settings come to the same after any requests, and what is left of connecting is the check. -/
theorem connect_run {before after : List WebApi.Request} {result : Except StoreError WebApi.Session}
    (hrun : (WebApi.connect s.network.transport config).run before = (result, after)) :
    (s.world.connect a.connection).run before =
      (result.mapError fun e => (CommandError.ofLoad (.connection e)).within "Failed to connect to GridDB", after) := by
  rcases (s.moment []).resolve_cases a.connection before with ⟨other, hother, hresolve⟩ | ⟨fault, hfault, -⟩
  · rw [← hconfig.unique hother] at hresolve
    exact (s.moment []).connect_run hresolve hrun
  · exact absurd hconfig (hfault.not_configures config)

include hlive hconfig in
/-- A load sends the same whatever is being done, and it succeeds in all contexts or in none. -/
theorem load_run (b : Builtin) (before : List WebApi.Request) :
    ∃ (sent : List WebApi.Request) (result : Option String → Except CommandError Metrics),
      (∀ context?,
        (s.world.load a.common a.connection b.request context?).run before = (result context?, before ++ sent) ∧
          s.Loads a.common config b context? before (result context?) sent) ∧
      ∀ context? metrics, result context? = .ok metrics ↔ result none = .ok metrics := by
  rcases WebApi.connect_goes s.network config before with
    ⟨e, hrun, hnone⟩ | ⟨check, sent, stop?, session, hcheck, hrun, hgoes, hreports⟩
  · obtain ⟨fault, hconnect⟩ : ∃ fault, (s.world.connect a.connection).run before = (.error fault, before) :=
      ⟨_, connect_run hconfig hrun⟩
    refine ⟨[], fun _ => .error fault, fun context? => ⟨?_, .unchecked hnone⟩, fun _ _ => Iff.rfl⟩
    rw [List.append_nil]
    exact World.load_unconnected hlive b.request context? hconnect
  · have hconnect := connect_run hconfig hrun
    cases stop? with
    | some r =>
        obtain ⟨e, rfl⟩ := hreports
        have hload := fun context? => World.load_unconnected hlive b.request context? hconnect
        exact ⟨sent, _, fun context? => ⟨hload context?, .refused hcheck hgoes⟩, fun _ _ => Iff.rfl⟩
    | none =>
        obtain rfl : session = .ok { config } := hreports
        obtain rfl := hgoes.complete
        have hconfirmed : s.network.Confirms before check := by
          cases hgoes with
          | taken hr hrest => exact hr
        obtain ⟨result, after, hload, hloads⟩ := WebApi.run_goes s.network hcheck.hasEndpoints
          (s.pipeline a.common (before ++ [check])) b.container b.rowCount b.schema_valid (before ++ [check])
        refine ⟨check :: after, fun context? => CommandError.reported context? (b.request.report result),
          fun context? => ⟨?_, .loaded hcheck hconfirmed hloads⟩,
          fun context? metrics => CommandError.reported_ok_iff context? _ metrics⟩
        rw [World.load_connected hlive b.request context? hconnect rfl hload, List.append_assoc]
        rfl

theorem populate_alone (b : Builtin) (before : List WebApi.Request) :
    (s.world.populate (b.alone a)).run before = (s.world.load a.common a.connection b.request).run before := by
  have hregistry : (s.world.registry none).run before = (.ok .builtin, before) := rfl
  have hrequest : World.request .builtin (b.alone a) = .ok b.request := by
    simp only [World.request, Builtin.alone, Builtin.resolve]
  rw [World.populate]
  refine (WebApi.bind_run hregistry).trans ?_
  simp only [hrequest]
  rfl

/-! ### Loads in order -/

variable (s a config) in
/-- The load is that of its template after some requests. The same requests go out if the template is loaded alone,
which succeeds with the same. -/
structure IsRun (before : List WebApi.Request) (run : TemplateRun) : Prop where
  loads : s.Loads a.common config run.template (some run.template.sampleContext) before run.result run.sent
  alone : ∃ result, (s.world.populate (run.template.alone a)).run before = (result, before ++ run.sent) ∧
    ∀ metrics, result = .ok metrics ↔ run.result = .ok metrics

theorem IsRun.load {before : List WebApi.Request} {run : TemplateRun} (h : s.IsRun a config before run) :
    ∃ result, (s.world.load a.common a.connection run.template.request).run before = (result, before ++ run.sent) ∧
      ∀ metrics, result = .ok metrics ↔ run.result = .ok metrics := by
  rw [← populate_alone]
  exact h.alone

include hlive hconfig in
theorem load_isRun (b : Builtin) (before : List WebApi.Request) :
    ∃ run : TemplateRun, run.template = b ∧
      (s.world.load a.common a.connection b.request (some b.sampleContext)).run before =
        (run.result, before ++ run.sent) ∧ s.IsRun a config before run := by
  obtain ⟨sent, result, hload, hsame⟩ := load_run hlive hconfig b before
  obtain ⟨hrun, hloads⟩ := hload (some b.sampleContext)
  refine ⟨⟨b, result (some b.sampleContext), sent⟩, rfl, hrun, hloads, result none, ?_, ?_⟩
  · rw [populate_alone]
    exact (hload none).1
  · exact fun metrics => (hsame _ metrics).symm

variable (s a config) in
/-- Loads of templates one after the other up to the first that fails, and what they come to together. -/
inductive Runs : (before : List WebApi.Request) → List Builtin → List TemplateRun →
    Except CommandError (List (Builtin × Metrics)) → Prop where
  | done {before : List WebApi.Request} : Runs before [] [] (.ok [])
  | failed {before : List WebApi.Request} {run : TemplateRun} {rest : List Builtin} {e : CommandError}
    (hrun : s.IsRun a config before run) (he : run.result = .error e) :
    Runs before (run.template :: rest) [run] (.error e)
  | succeeded {before : List WebApi.Request} {run : TemplateRun} {rest : List Builtin} {metrics : Metrics}
    {runs : List TemplateRun} {result : Except CommandError (List (Builtin × Metrics))}
    (hrun : s.IsRun a config before run) (hmetrics : run.result = .ok metrics)
    (hrest : Runs (before ++ run.sent) rest runs result) :
    Runs before (run.template :: rest) (run :: runs) (result.map ((run.template, metrics) :: ·))

include hlive hconfig in
/-- The loop over the templates. -/
theorem sampleFrom_runs (templates : List Builtin) (before : List WebApi.Request) :
    ∃ runs result,
      (s.world.sampleFrom a templates).run before = (result, before ++ runs.flatMap TemplateRun.sent) ∧
      s.Runs a config before templates runs result := by
  induction templates generalizing before with
  | nil => exact ⟨[], .ok [], by rw [List.flatMap_nil, List.append_nil]; rfl, .done⟩
  | cons b rest ih =>
      obtain ⟨run, rfl, hload, hrun⟩ := load_isRun hlive hconfig b before
      rw [World.sampleFrom]
      simp only [Builtin.resolve]
      refine Exists.imp (fun runs => Exists.imp fun result => And.imp_left (WebApi.bind_run hload).trans) ?_
      cases hresult : run.result with
      | error e =>
          refine ⟨[run], .error e, ?_, .failed hrun hresult⟩
          rw [List.flatMap_singleton]
          rfl
      | ok metrics =>
          obtain ⟨runs, result, hrest, hruns⟩ := ih (before ++ run.sent)
          refine ⟨run :: runs, _, ?_, .succeeded hrun hresult hruns⟩
          dsimp only
          rw [WebApi.bind_run hrest, List.flatMap_cons, List.append_assoc]
          cases result <;> rfl

namespace Runs

variable {before : List WebApi.Request} {templates : List Builtin} {runs : List TemplateRun}
  {result : Except CommandError (List (Builtin × Metrics))} (h : s.Runs a config before templates runs result)

include h

theorem templates_isPrefix : runs.map TemplateRun.template <+: templates := by
  induction h with
  | done => exact List.prefix_rfl
  | failed hrun he => exact ⟨_, rfl⟩
  | succeeded hrun hmetrics hrest ih => exact List.cons_prefix_cons.mpr ⟨rfl, ih⟩

/-- Each load comes after the requests of those before it. One that fails is the last, and its error is that of the
command. -/
theorem at_place {earlier later : List TemplateRun} {run : TemplateRun} (hplace : runs = earlier ++ run :: later) :
    s.IsRun a config (before ++ earlier.flatMap TemplateRun.sent) run ∧
      ∀ e, run.result = .error e → later = [] ∧ result = .error e := by
  induction h generalizing earlier with
  | done => simp at hplace
  | failed hrun he =>
      cases earlier with
      | nil =>
          cases hplace
          rw [List.flatMap_nil, List.append_nil]
          refine ⟨hrun, fun e he' => ?_⟩
          cases he.symm.trans he'
          exact ⟨rfl, rfl⟩
      | cons first earlier => simp at hplace
  | succeeded hrun hmetrics hrest ih =>
      cases earlier with
      | nil =>
          cases hplace
          rw [List.flatMap_nil, List.append_nil]
          refine ⟨hrun, fun e he => ?_⟩
          cases hmetrics.symm.trans he
      | cons first earlier =>
          cases hplace
          rw [List.flatMap_cons, ← List.append_assoc]
          obtain ⟨hlater, hlast⟩ := ih rfl
          refine ⟨hlater, fun e he => ?_⟩
          obtain ⟨hnone, rfl⟩ := hlast e he
          exact ⟨hnone, rfl⟩

theorem ok_iff : (∃ entries, result = .ok entries) ↔ ∀ run ∈ runs, ∃ metrics, run.result = .ok metrics := by
  induction h with
  | done => simp
  | failed hrun he => simp [he]
  | succeeded hrun hmetrics hrest ih =>
      rw [List.forall_mem_cons, ← ih, and_iff_right ⟨_, hmetrics⟩]
      rename_i result
      cases result <;> simp [Except.map]

/-- With success there is an entry for every template in order, with the metrics of its load. -/
theorem entries_of_ok {entries : List (Builtin × Metrics)} (hok : result = .ok entries) :
    entries.map Prod.fst = templates ∧
      runs.map (fun run => (run.template, run.result)) = entries.map fun entry => (entry.1, .ok entry.2) := by
  induction h generalizing entries with
  | done =>
      cases hok
      exact ⟨rfl, rfl⟩
  | failed hrun he => cases hok
  | succeeded hrun hmetrics hrest ih =>
      rename_i result
      cases result with
      | error e => cases hok
      | ok rest =>
          cases hok
          obtain ⟨hfirst, hentries⟩ := ih rfl
          rw [List.map_cons, List.map_cons, List.map_cons, hfirst, hentries, hmetrics]
          exact ⟨rfl, rfl⟩

end Runs

theorem pipeline_options (s : Surroundings) (options : CommonOptions) (before : List WebApi.Request) :
    (s.pipeline options before).capacity = options.batchSize ∧
      ∀ seed, options.seed? = some seed → (s.pipeline options before).source = .ofSeed seed := by
  refine ⟨?_, fun seed => Pipeline.source_of_seed _⟩
  rw [pipeline, Outside.pipeline, Pipeline.withOptions]
  cases options.seed? <;> rfl

/-- The sample runs of a command that is for real and whose settings can be settled, on any network: it sends the
requests of the loads of the built-in templates one after the other, up to the first that fails. Each load follows
what went out before it by its check, provisioning and writes, all of them if it succeeds, with rows that start afresh
with the seed and the batch size, and it sends what it would send alone. After a load that fails nothing goes out, and
its error is that of the command. The command succeeds exactly if all loads do, with the metrics of each in order. -/
theorem sample_in_order (s : Surroundings) (a : SampleArguments) {config : WebApiConfig}
    (hlive : a.common.dryRun = false) (hconfig : s.Configures a.connection config) :
    ∃ runs result, (s.world.sample a).run [] = (result, runs.flatMap TemplateRun.sent) ∧
      runs.map TemplateRun.template <+: Builtin.all ∧
      (∀ earlier run later, runs = earlier ++ run :: later →
        s.IsRun a config (earlier.flatMap TemplateRun.sent) run ∧
          (∀ metrics, run.result = .ok metrics → ∃ check loading existed, run.sent = check :: loading ∧
            Checks config check ∧ SendsAll config (.exists run.template.container ::
              (loadSteps run.template.container run.template.schema
                ((s.pipeline a.common (earlier.flatMap TemplateRun.sent ++ [check])).plan run.template.schema
                  run.template.rowCount) existed).map LoadStep.call) loading) ∧
          ∀ e, run.result = .error e → later = [] ∧ result = .error e) ∧
      ((∃ entries, result = .ok entries) ↔ ∀ run ∈ runs, ∃ metrics, run.result = .ok metrics) ∧
      (∀ entries, result = .ok entries → entries.map Prod.fst = Builtin.all ∧
        runs.map (fun run => (run.template, run.result)) = entries.map fun entry => (entry.1, .ok entry.2)) ∧
      ∀ before, (s.pipeline a.common before).capacity = a.common.batchSize ∧
        ∀ seed, a.common.seed? = some seed → (s.pipeline a.common before).source = .ofSeed seed := by
  obtain ⟨runs, result, hrun, hruns⟩ := sampleFrom_runs hlive hconfig Builtin.all []
  refine ⟨runs, result, hrun, hruns.templates_isPrefix, fun earlier run later hplace => ?_, hruns.ok_iff,
    fun _ => hruns.entries_of_ok, s.pipeline_options a.common⟩
  obtain ⟨hisRun, hlast⟩ := hruns.at_place hplace
  refine ⟨hisRun, fun metrics hmetrics => ?_, hlast⟩
  have hloads := hisRun.loads
  rw [hmetrics] at hloads
  exact hloads.whole_of_ok

/-- Surroundings without files and with a server that takes seven requests and then is full. -/
def filling : Surroundings where
  files _ := .error "No such file or directory (os error 2)"
  network before _ := some (if before.length < 7 then ⟨200, []⟩ else ⟨507, "full".toUTF8.toList⟩)
  now _ := default
  freshSource _ := .ofWords []

section Filling

variable {run : TemplateRun}

theorem filling_first (h : filling.IsRun {} {} [] run) (htemplate : run.template = .multipleTimeColumns) :
    run.result = .ok ⟨10, 1⟩ ∧
      run.sent = ((filling.world.load {} {} Builtin.multipleTimeColumns.request).run []).2 := by
  have hloaded : ((filling.world.load {} {} Builtin.multipleTimeColumns.request).run []).1.toOption =
      some ⟨10, 1⟩ := by
    decide +kernel
  obtain ⟨result, hload, hsame⟩ := h.load
  rw [htemplate] at hload
  rw [hload] at hloaded ⊢
  refine ⟨(hsame _).mp ?_, rfl⟩
  cases result with
  | error e => cases hloaded
  | ok metrics => exact congrArg Except.ok (Option.some.inj hloaded)

theorem filling_second
    (h : filling.IsRun {} {} ((filling.world.load {} {} Builtin.multipleTimeColumns.request).run []).2 run)
    (htemplate : run.template = .oneThousandRows) : ∃ e, run.result = .error e := by
  have hfull : ((filling.world.load {} {} Builtin.oneThousandRows.request).run
      ((filling.world.load {} {} Builtin.multipleTimeColumns.request).run []).2).1.toOption = none := by
    decide +kernel
  obtain ⟨result, hload, hsame⟩ := h.load
  rw [htemplate] at hload
  rw [hload] at hfull
  cases hresult : run.result with
  | error e => exact ⟨e, rfl⟩
  | ok metrics =>
      rw [(hsame metrics).mpr hresult] at hfull
      cases hfull

end Filling

/-- The first load succeeds. The second cannot drop its container any more, so that there is no third. -/
theorem sample_in_order_full :
    ({} : SampleArguments).common.dryRun = false ∧ filling.Configures {} {} ∧
      ∃ first second e, (filling.world.sample {}).run [] = (.error e, first.sent ++ second.sent) ∧
        first.template = .multipleTimeColumns ∧ filling.IsRun {} {} [] first ∧ first.result = .ok ⟨10, 1⟩ ∧
        second.template = .oneThousandRows ∧ filling.IsRun {} {} first.sent second ∧ second.result = .error e := by
  have hconfig : filling.Configures {} {} := ⟨{}, .none rfl, rfl⟩
  refine ⟨rfl, hconfig, ?_⟩
  obtain ⟨runs, result, hrun, hprefix, hplace, hok, hentries, -⟩ := filling.sample_in_order {} rfl hconfig
  have hall (hsuccess : ∀ run ∈ runs, ∃ metrics, run.result = .ok metrics) :
      runs.map TemplateRun.template = Builtin.all := by
    obtain ⟨entries, hresult⟩ := hok.mpr hsuccess
    obtain ⟨htemplates, hmetrics⟩ := hentries entries hresult
    have hsame := congrArg (List.map Prod.fst) hmetrics
    rw [List.map_map, List.map_map] at hsame
    exact hsame.trans htemplates
  match runs with
  | [] => cases hall (List.forall_mem_nil _)
  | [first] =>
    have htemplate : first.template = .multipleTimeColumns := (List.cons_prefix_cons.mp hprefix).1
    obtain ⟨hmetrics, -⟩ := filling_first (hplace [] first [] rfl).1 htemplate
    have hlength : 1 = 3 := congrArg List.length (hall (List.forall_mem_singleton.mpr ⟨_, hmetrics⟩))
    exact absurd hlength (by decide)
  | first :: second :: later =>
    obtain ⟨htemplate, hrest⟩ := List.cons_prefix_cons.mp hprefix
    have hsecond : second.template = .oneThousandRows := (List.cons_prefix_cons.mp hrest).1
    have hfirst : filling.IsRun {} {} [] first := (hplace [] first (second :: later) rfl).1
    obtain ⟨hmetrics, hsent⟩ := filling_first hfirst htemplate
    obtain ⟨hnext, -, hlast⟩ := hplace [first] second later rfl
    rw [List.flatMap_singleton] at hnext
    obtain ⟨e, he⟩ := filling_second (hsent ▸ hnext) hsecond
    obtain ⟨rfl, rfl⟩ := hlast e he
    exact ⟨first, second, e, by simpa using hrun, htemplate, hfirst, hmetrics, hsecond, hnext, he⟩

end Surroundings

end SampleLoad
