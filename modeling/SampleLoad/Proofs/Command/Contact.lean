import SampleLoad.Proofs.Command.Resolution
import SampleLoad.Proofs.Load.MemoryRun

/-!
When a load contacts the database. Its check goes out first, and only after the load and the settings have been
settled; a dry run sends nothing and asks for no settings. Whatever goes wrong is reported by the kind of what went
wrong, whatever was being done around it. Main statement: `Outside.settled_before_contact`.
-/

namespace SampleLoad

def LoadRequest.report (request : LoadRequest) : Except LoadError Metrics → Except CommandError Metrics
  | .ok metrics => .ok metrics
  | .error e =>
    .error ((CommandError.ofLoad e).within ("Failed to populate container '" ++ request.container ++ "'"))

theorem LoadRequest.run_eq {m : Type → Type} [Monad m] [LawfulMonad m] (request : LoadRequest) (pipeline : Pipeline)
    (options : CommonOptions) (store : ContainerStore m) :
    request.run pipeline options store =
      request.report <$> (pipeline.withOptions options).run store request.container request.schema
        request.rowCount := by
  rw [LoadRequest.run, map_eq_pure_bind]
  refine bind_congr fun result => ?_
  cases result <;> rfl

theorem LoadRequest.report_error {request : LoadRequest} {result : Except LoadError Metrics} {e : CommandError}
    (h : request.report result = .error e) : ∃ cause, result = .error cause ∧ e.fault = .load cause := by
  cases result with
  | ok metrics => cases h
  | error cause =>
      cases h
      exact ⟨cause, rfl, rfl⟩

/-- What is reported of a load whose store was opened. -/
def CommandError.reported (context? : Option String) (result : Except CommandError Metrics) :
    Except CommandError Metrics :=
  match context? with
  | some context => result.mapError (·.within context)
  | none => result

/-- What is being done says nothing about success. -/
theorem CommandError.reported_ok_iff (context? : Option String) (result : Except CommandError Metrics)
    (metrics : Metrics) : reported context? result = .ok metrics ↔ result = .ok metrics := by
  cases context? with
  | none => exact Iff.rfl
  | some context => cases result <;> simp [reported, Except.mapError]

namespace World

variable {σ : Type} {world : World (StateM σ)} {common : CommonOptions} {connection : ConnectionArguments}
  (hlive : common.dryRun = false) (request : LoadRequest) (context? : Option String)

include hlive

theorem load_unconnected {s after : σ} {e : CommandError}
    (hconnect : (world.connect connection).run s = (.error e, after)) :
    (world.load common connection request context?).run s = (.error e, after) := by
  rw [load, if_neg (by simp [hlive]), WebApi.bind_run hconnect]
  rfl

/-- What a load reports that is connected is the report of its run. -/
theorem load_connected {s midway after : σ} {session closed : WebApi.Session} {pipeline : Pipeline}
    {result : Except LoadError Metrics} (hconnect : (world.connect connection).run s = (.ok session, midway))
    (hpipeline : world.pipeline.run midway = (pipeline, midway))
    (hrun : (((pipeline.withOptions common).run (webStore world.transport) request.container request.schema
      request.rowCount).run session).run midway = ((result, closed), after)) :
    (world.load common connection request context?).run s =
      (CommandError.reported context? (request.report result), after) := by
  have hload : ((request.run pipeline common (webStore world.transport)).run session).run midway =
      ((request.report result, closed), after) := by
    rw [LoadRequest.run_eq, StateT.run_map, map_eq_pure_bind]
    exact WebApi.bind_run hrun
  rw [load, if_neg (by simp [hlive]), WebApi.bind_run hconnect]
  dsimp only
  rw [WebApi.bind_run hpipeline]
  exact WebApi.bind_run hload

end World

namespace Outside

open WebApi (Reachable Checks)

variable (o : Outside)

def pipeline (options : CommonOptions) : Pipeline := (Pipeline.new o.now o.freshSource).withOptions options

def loadInMemory (a : PopulateArguments) (request : LoadRequest) : Except LoadError Metrics :=
  ((o.pipeline a.common).runInMemory {} request.container request.schema request.rowCount).1

/-- What a load over the network comes to, in an open session after some requests, and all requests. -/
def loadOverNetwork (a : PopulateArguments) (request : LoadRequest) (config : WebApiConfig)
    (before : List WebApi.Request) : Except LoadError Metrics × List WebApi.Request :=
  let ((result, _), requests) :=
    (((o.pipeline a.common).run (webStore o.network.transport) request.container request.schema
      request.rowCount).run { config }).run before
  (result, requests)

/-- What to populate a container comes to, and the requests that go out. -/
inductive Populates (a : PopulateArguments) : Except CommandError Metrics → List WebApi.Request → Prop where
  | unsettled {context : String} {fault : SchemaError} (h : o.TemplateFault a context fault) :
    Populates a (.error ((CommandError.ofLoad (.schema fault)).within context)) []
  | dry {request : LoadRequest} (hdry : a.common.dryRun = true) (h : o.Settles a request) :
    Populates a (request.report (o.loadInMemory a request)) []
  | unconfigured {request : LoadRequest} {fault : SettingsError} (hdry : a.common.dryRun = false)
    (h : o.Settles a request) (hfault : o.SettingsFault a.connection fault) :
    Populates a (.error (.ofSettings fault)) []
  | unreachable {request : LoadRequest} {config : WebApiConfig} {e : StoreError} (hdry : a.common.dryRun = false)
    (h : o.Settles a request) (hconfig : o.Configures a.connection config)
    (hunreachable : ¬Reachable config ["checkConnection"])
    (he : (WebApi.connect o.network.transport config).run [] = (.error e, [])) :
    Populates a (.error ((CommandError.ofLoad (.connection e)).within "Failed to connect to GridDB")) []
  | refused {request : LoadRequest} {config : WebApiConfig} {check : WebApi.Request} {e : StoreError}
    (hdry : a.common.dryRun = false) (h : o.Settles a request) (hconfig : o.Configures a.connection config)
    (hreachable : Reachable config ["checkConnection"]) (hcheck : Checks config check)
    (he : (WebApi.connect o.network.transport config).run [] = (.error e, [check])) :
    Populates a (.error ((CommandError.ofLoad (.connection e)).within "Failed to connect to GridDB")) [check]
  | loaded {request : LoadRequest} {config : WebApiConfig} {check : WebApi.Request}
    {result : Except LoadError Metrics} {sent : List WebApi.Request} (hdry : a.common.dryRun = false)
    (h : o.Settles a request) (hconfig : o.Configures a.connection config)
    (hreachable : Reachable config ["checkConnection"]) (hcheck : Checks config check)
    (hconnected : (WebApi.connect o.network.transport config).run [] = (.ok { config }, [check]))
    (hload : o.loadOverNetwork a request config [check] = (result, check :: sent)) :
    Populates a (request.report result) (check :: sent)

/-! ### One load -/

theorem pipeline_run (history : List WebApi.Request) :
    o.world.pipeline.run history = (Pipeline.new o.now o.freshSource, history) := rfl

theorem load_dry {a : PopulateArguments} (hdry : a.common.dryRun = true) (request : LoadRequest)
    (history : List WebApi.Request) :
    (o.world.load a.common a.connection request).run history =
      (request.report (o.loadInMemory a request), history) := by
  rw [World.load, if_pos hdry, WebApi.bind_run (o.pipeline_run history), LoadRequest.run_eq]
  rfl

theorem load_session {a : PopulateArguments} {request : LoadRequest} {config : WebApiConfig}
    (hdry : a.common.dryRun = false) {history before : List WebApi.Request}
    (hconnect : (o.world.connect a.connection).run history = (.ok { config }, before)) :
    (o.world.load a.common a.connection request).run history =
      (request.report (o.loadOverNetwork a request config before).1,
        (o.loadOverNetwork a request config before).2) :=
  World.load_connected hdry request none hconnect (o.pipeline_run before) rfl

/-- The requests of a load go out after those before it. -/
theorem loadOverNetwork_grows (a : PopulateArguments) (request : LoadRequest) (config : WebApiConfig)
    (check : WebApi.Request) :
    ∃ result sent, o.loadOverNetwork a request config [check] = (result, check :: sent) := by
  obtain ⟨sent, hsent⟩ := WebApi.run_grows o.network (o.pipeline a.common) request.container request.schema
    request.rowCount { config } [check]
  exact ⟨_, sent, Prod.ext rfl hsent.symm⟩

/-- Connecting goes from settings to the check and on to a session. -/
theorem connect_run {c : ConnectionArguments} {config : WebApiConfig} {history after : List WebApi.Request}
    {result : Except StoreError WebApi.Session}
    (hresolve : (c.resolve o.world.files).run history = (.ok config, history))
    (hconnect : (WebApi.connect o.network.transport config).run history = (result, after)) :
    (o.world.connect c).run history =
      (result.mapError fun e => (CommandError.ofLoad (.connection e)).within "Failed to connect to GridDB", after) := by
  have hconnect : (WebApi.connect o.world.transport config).run history = (result, after) := hconnect
  rw [World.connect, WebApi.bind_run hresolve]
  dsimp only
  rw [WebApi.bind_run hconnect]
  cases result <;> rfl

theorem populates (a : PopulateArguments) :
    o.Populates a ((o.world.populate a).run []).1 ((o.world.populate a).run []).2 := by
  rcases o.settle_cases a [] with ⟨request, hsettles, hrun⟩ | ⟨context, fault, hfault, hrun⟩
  · rw [hrun]
    cases hdry : a.common.dryRun with
    | true =>
        rw [o.load_dry hdry]
        exact .dry hdry hsettles
    | false =>
        rcases o.resolve_cases a.connection [] with ⟨config, hconfig, hresolve⟩ | ⟨fault, hfault, hresolve⟩
        · rcases WebApi.connect_cases o.network config [] with
            ⟨hunreachable, e, he⟩ | ⟨hreachable, check, hcheck, hconnected | ⟨e, he⟩⟩
          · rw [World.load_unconnected hdry request none (o.connect_run hresolve he)]
            exact .unreachable hdry hsettles hconfig hunreachable he
          · obtain ⟨result, sent, hload⟩ := o.loadOverNetwork_grows a request config check
            rw [o.load_session hdry (o.connect_run hresolve hconnected)]
            rw [List.nil_append, hload]
            exact .loaded hdry hsettles hconfig hreachable hcheck hconnected hload
          · rw [World.load_unconnected hdry request none (o.connect_run hresolve he)]
            exact .refused hdry hsettles hconfig hreachable hcheck he
        · have hconnect : (o.world.connect a.connection).run [] = (.error (.ofSettings fault), []) := by
            rw [World.connect, WebApi.bind_run hresolve]
            rfl
          rw [World.load_unconnected hdry request none hconnect]
          exact .unconfigured hdry hsettles hfault
  · rw [hrun]
    exact .unsettled hfault

/-! ### Commands -/

def run (command : Command) : Except CommandError CommandOutcome × List WebApi.Request :=
  (o.world.run command).run []

theorem run_populate (a : PopulateArguments) :
    o.run (.populate a) =
      (((o.world.populate a).run []).1.map .populated, ((o.world.populate a).run []).2) := by
  have hpopulate : (o.world.populate a).run [] =
      (((o.world.populate a).run []).1, ((o.world.populate a).run []).2) := rfl
  rw [run, World.run, WebApi.bind_run hpopulate]
  rfl

/-- What goes wrong with a load, as the part says in which it goes wrong. -/
inductive Cause (a : PopulateArguments) : LoadError → Prop where
  | template {context : String} {fault : SchemaError} (h : o.TemplateFault a context fault) : Cause a (.schema fault)
  | connection {config : WebApiConfig} {e : StoreError} {sent : List WebApi.Request}
    (hdry : a.common.dryRun = false) (hconfig : o.Configures a.connection config)
    (he : (WebApi.connect o.network.transport config).run [] = (.error e, sent)) : Cause a (.connection e)
  | memory {request : LoadRequest} {e : LoadError} (hdry : a.common.dryRun = true) (h : o.Settles a request)
    (he : o.loadInMemory a request = .error e) : Cause a e
  | network {request : LoadRequest} {config : WebApiConfig} {before sent : List WebApi.Request} {e : LoadError}
    (hdry : a.common.dryRun = false) (h : o.Settles a request) (hconfig : o.Configures a.connection config)
    (hconnected : (WebApi.connect o.network.transport config).run [] = (.ok { config }, before))
    (he : o.loadOverNetwork a request config before = (.error e, sent)) : Cause a e

variable {o} {a : PopulateArguments} {result : Except CommandError Metrics} {sent : List WebApi.Request}

/-- Errors are those of settings, or have a cause. -/
theorem Populates.cause (h : o.Populates a result sent) {e : CommandError} (he : result = .error e) :
    (∃ fault, o.SettingsFault a.connection fault ∧ e.fault = .settings fault) ∨
      ∃ cause, o.Cause a cause ∧ e.fault = .load cause := by
  cases h with
  | unsettled hfault =>
      cases he
      exact .inr ⟨_, .template hfault, rfl⟩
  | dry hdry hsettles =>
      obtain ⟨cause, hcause, hfault⟩ := LoadRequest.report_error he
      exact .inr ⟨cause, .memory hdry hsettles hcause, hfault⟩
  | unconfigured hdry hsettles hfault =>
      cases he
      exact .inl ⟨_, hfault, rfl⟩
  | unreachable hdry hsettles hconfig hunreachable hconnect =>
      cases he
      exact .inr ⟨_, .connection hdry hconfig hconnect, rfl⟩
  | refused hdry hsettles hconfig hreachable hcheck hconnect =>
      cases he
      exact .inr ⟨_, .connection hdry hconfig hconnect, rfl⟩
  | loaded hdry hsettles hconfig hreachable hcheck hconnected hload =>
      obtain ⟨cause, rfl, hfault⟩ := LoadRequest.report_error he
      exact .inr ⟨cause, .network hdry hsettles hconfig hconnected hload, hfault⟩

/-- A load that is for real, and for which all is settled. -/
structure Ready (o : Outside) (a : PopulateArguments) : Prop where
  live : a.common.dryRun = false
  load : ∃ request, o.Settles a request
  settings : ∃ config, o.Configures a.connection config ∧ Reachable config ["checkConnection"]

theorem TemplateFault.not_ready {context : String} {fault : SchemaError} (h : o.TemplateFault a context fault) :
    ¬o.Ready a := by
  intro hready
  obtain ⟨request, hsettles⟩ := hready.load
  exact h.not_settles request hsettles

theorem SettingsFault.not_ready {fault : SettingsError} (h : o.SettingsFault a.connection fault) : ¬o.Ready a := by
  intro hready
  obtain ⟨config, hconfig, -⟩ := hready.settings
  exact h.not_configures config hconfig

theorem Configures.not_ready {config : WebApiConfig} (h : o.Configures a.connection config)
    (hunreachable : ¬Reachable config ["checkConnection"]) : ¬o.Ready a := by
  intro hready
  obtain ⟨other, hother, hreachable⟩ := hready.settings
  exact hunreachable (h.unique hother ▸ hreachable)

theorem not_ready_of_dry (hdry : a.common.dryRun = true) : ¬o.Ready a := by
  intro hready
  cases hdry.symm.trans hready.live

/-- A request goes out exactly if all is ready. -/
theorem Populates.contact_iff (h : o.Populates a result sent) : sent ≠ [] ↔ o.Ready a := by
  have hnone : ¬([] : List WebApi.Request) ≠ [] := fun hsent => hsent rfl
  cases h with
  | unsettled hfault => exact iff_of_false hnone hfault.not_ready
  | dry hdry hsettles => exact iff_of_false hnone (not_ready_of_dry hdry)
  | unconfigured hdry hsettles hfault => exact iff_of_false hnone hfault.not_ready
  | unreachable hdry hsettles hconfig hunreachable hconnect =>
      exact iff_of_false hnone (hconfig.not_ready hunreachable)
  | refused hdry hsettles hconfig hreachable hcheck hconnect =>
      exact iff_of_true (List.cons_ne_nil _ _) ⟨hdry, ⟨_, hsettles⟩, _, hconfig, hreachable⟩
  | loaded hdry hsettles hconfig hreachable hcheck hconnected hload =>
      exact iff_of_true (List.cons_ne_nil _ _) ⟨hdry, ⟨_, hsettles⟩, _, hconfig, hreachable⟩

theorem Populates.nothing_sent (h : o.Populates a result sent) (hready : ¬o.Ready a) : sent = [] :=
  not_not.mp (mt h.contact_iff.mp hready)

theorem Populates.first_sent (h : o.Populates a result sent) {check : WebApi.Request}
    (hfirst : sent.head? = some check) : ∃ config, o.Configures a.connection config ∧ Checks config check := by
  cases h with
  | unsettled => cases hfirst
  | dry => cases hfirst
  | unconfigured => cases hfirst
  | unreachable => cases hfirst
  | refused hdry hsettles hconfig hreachable hcheck hconnect =>
      cases hfirst
      exact ⟨_, hconfig, hcheck⟩
  | loaded hdry hsettles hconfig hreachable hcheck hconnected hload =>
      cases hfirst
      exact ⟨_, hconfig, hcheck⟩

/-- A load that is for real and not ready is refused. -/
theorem Populates.refused_of_not_ready (h : o.Populates a result sent) (hlive : a.common.dryRun = false)
    (hready : ¬o.Ready a) : sent = [] ∧ ∃ e, result = .error e := by
  have hnone := h.nothing_sent hready
  refine ⟨hnone, ?_⟩
  cases h with
  | dry hdry => cases hdry.symm.trans hlive
  | loaded => cases hnone
  | _ => exact ⟨_, rfl⟩

theorem Populates.of_templateFault (h : o.Populates a result sent) {context : String} {fault : SchemaError}
    (hfault : o.TemplateFault a context fault) :
    sent = [] ∧ ∃ context fault, o.TemplateFault a context fault ∧
      result = .error ((CommandError.ofLoad (.schema fault)).within context) := by
  cases h with
  | unsettled hfault' => exact ⟨rfl, _, _, hfault', rfl⟩
  | dry hdry hsettles => exact absurd hsettles (hfault.not_settles _)
  | unconfigured hdry hsettles => exact absurd hsettles (hfault.not_settles _)
  | unreachable hdry hsettles => exact absurd hsettles (hfault.not_settles _)
  | refused hdry hsettles => exact absurd hsettles (hfault.not_settles _)
  | loaded hdry hsettles => exact absurd hsettles (hfault.not_settles _)

variable (o a) in
/-- Neither the network nor the settings of the connection matter to a dry run. -/
theorem dry_independent (hdry : a.common.dryRun = true) (network : WebApi.Network)
    (connection : ConnectionArguments) :
    { o with network }.run (.populate { a with connection }) = o.run (.populate a) := by
  let p : Outside := { o with network }
  let b : PopulateArguments := { a with connection }
  obtain ⟨registered, hregistry⟩ : ∃ registered,
      (o.world.registry a.templatesFile?).run [] = (registered, []) := by
    rcases o.registry_cases a.templatesFile? [] with ⟨r, -, hrun⟩ | ⟨path, fault, -, -, hrun⟩
    · exact ⟨_, hrun⟩
    · exact ⟨_, hrun⟩
  have hregistry' : (p.world.registry b.templatesFile?).run [] = (registered, []) := hregistry
  have hpopulate : (p.world.populate b).run [] = (o.world.populate a).run [] := by
    rw [World.populate, World.populate, WebApi.bind_run hregistry, WebApi.bind_run hregistry']
    cases registered with
    | error e => rfl
    | ok r =>
        cases hrequest : World.request r a with
        | error e =>
            have hrequest' : World.request r b = .error e := hrequest
            simp only [hrequest, hrequest']
        | ok request =>
            have hrequest' : World.request r b = .ok request := hrequest
            simp only [hrequest, hrequest']
            rw [o.load_dry hdry, p.load_dry (show b.common.dryRun = true from hdry)]
            rfl
  rw [run_populate, run_populate, hpopulate]

/-- A load is settled before the database is contacted. No request goes out if the templates cannot be used, if there
is no such template, if the settings are at fault or if there is nothing to send the check to; all of this is an
error. A dry run sends nothing, and what it comes to depends on neither network nor settings. A request does go out if
the load is for real and all is settled, and the first is the check. What is reported is of the kind of the error of
the part that failed, whatever was being done around it, unless the settings are at fault, which have none. -/
theorem settled_before_contact (o : Outside) (a : PopulateArguments) :
    let result := (o.run (.populate a)).1
    let sent := (o.run (.populate a)).2
    (∀ context fault, o.TemplateFault a context fault → sent = [] ∧ ∃ context fault, o.TemplateFault a context fault ∧
        result = .error ((CommandError.ofLoad (.schema fault)).within context)) ∧
      (a.common.dryRun = false → ∀ fault, o.SettingsFault a.connection fault → sent = [] ∧ ∃ e, result = .error e) ∧
      (a.common.dryRun = false → ∀ config, o.Configures a.connection config → ¬Reachable config ["checkConnection"] →
        sent = [] ∧ ∃ e, result = .error e) ∧
      (a.common.dryRun = true → sent = [] ∧ ∀ network connection,
        { o with network }.run (.populate { a with connection }) = (result, [])) ∧
      (sent ≠ [] ↔ o.Ready a) ∧
      (∀ check, sent.head? = some check → ∃ config, o.Configures a.connection config ∧ Checks config check) ∧
      ∀ e, result = .error e →
        (∃ fault, o.SettingsFault a.connection fault ∧ e.fault = .settings fault ∧ e.kind? = none) ∨
          ∃ cause, o.Cause a cause ∧ e.fault = .load cause ∧ e.kind? = some cause.kind ∧
            e.report = "Error (" ++ cause.kind ++ "): " ++ ": ".intercalate (e.contexts ++ cause.chain) := by
  intro result sent
  obtain ⟨populated, hresult, h⟩ : ∃ populated, result = populated.map .populated ∧ o.Populates a populated sent := by
    refine ⟨_, congrArg Prod.fst (o.run_populate a), ?_⟩
    rw [show sent = _ from congrArg Prod.snd (o.run_populate a)]
    exact o.populates a
  have herror (e : CommandError) : result = .error e ↔ populated = .error e := by
    rw [hresult]
    cases populated <;> simp [Except.map]
  simp only [herror]
  refine ⟨fun _ _ hfault => h.of_templateFault hfault, ?_, ?_, ?_, h.contact_iff, fun _ => h.first_sent, ?_⟩
  · intro hlive fault hfault
    exact h.refused_of_not_ready hlive hfault.not_ready
  · intro hlive config hconfig hunreachable
    exact h.refused_of_not_ready hlive (hconfig.not_ready hunreachable)
  · intro hdry
    have hnone := h.nothing_sent (not_ready_of_dry hdry)
    refine ⟨hnone, fun network connection => ?_⟩
    rw [dry_independent o a hdry, ← hnone]
  · intro e he
    rcases h.cause he with ⟨fault, hfault, hkind⟩ | ⟨cause, hcause, hkind⟩
    · exact .inl ⟨fault, hfault, hkind, by rw [CommandError.kind?, hkind]⟩
    · refine .inr ⟨cause, hcause, hkind, by rw [CommandError.kind?, hkind], ?_⟩
      simp only [CommandError.report, CommandError.kind?, CommandError.message, CommandError.chain, hkind]

/-- A place without files, where a server takes everything. -/
def bare : Outside where
  files _ := .error "No such file or directory (os error 2)"
  network _ _ := some ⟨200, []⟩
  now := default
  freshSource := .ofWords []

/-- No templates, a timeout that is none, and nothing amiss. -/
theorem settled_before_contact_bare :
    let missing : PopulateArguments := { template := "one-thousand-rows", templatesFile? := some "t.yaml" }
    let untimed : PopulateArguments := { template := "one-thousand-rows", connection := { timeout? := some "soon" } }
    let plain : PopulateArguments := { template := "one-thousand-rows" }
    (∃ context fault, bare.TemplateFault missing context fault) ∧ (bare.run (.populate missing)).2 = [] ∧
      (∃ fault, bare.SettingsFault untimed.connection fault) ∧ (bare.run (.populate untimed)).2 = [] ∧
      bare.Ready plain ∧ (bare.run (.populate plain)).2 ≠ [] := by
  intro missing untimed plain
  have hmissing : bare.TemplateFault missing _ _ := .file rfl (.unreadable rfl)
  have huntimed : bare.SettingsFault untimed.connection _ := .timeout (.none rfl) rfl rfl
  have hready : bare.Ready plain := by
    refine ⟨rfl, ⟨_, .of .builtin (Registry.builtin_mem .oneThousandRows) rfl⟩, {}, ⟨{}, .none rfl, rfl⟩, ?_⟩
    exact ⟨{
      scheme := "http"
      host? := some (.name "localhost")
      port? := some 8080
      path? := some ["griddb", "v2", "myCluster", "dbs", "public", "checkConnection"] }, by decide +kernel,
      by decide +kernel⟩
  obtain ⟨hfile, -⟩ := settled_before_contact bare missing
  obtain ⟨-, hsettings, -⟩ := settled_before_contact bare untimed
  obtain ⟨-, -, -, -, hcontact, -⟩ := settled_before_contact bare plain
  exact ⟨⟨_, _, hmissing⟩, (hfile _ _ hmissing).1, ⟨_, huntimed⟩, (hsettings rfl _ huntimed).1, hready,
    hcontact.mpr hready⟩

end Outside

end SampleLoad
