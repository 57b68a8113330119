import SampleLoad.Command.Run
import SampleLoad.Proofs.Template.Loaded
import SampleLoad.Proofs.Web.Network

/-!
What a command is to do, settled from its arguments and files. A load is settled from the templates, which may be
extended by a file, and the template that is asked for; settings come from arguments, connection file and defaults.
Either there is a load, or one fault keeps it from being settled, and so it is with settings. No request goes out in
the meantime.
-/

namespace SampleLoad

/-- What a command finds outside. -/
structure Outside where
  files : String → Except String (List UInt8)
  network : WebApi.Network
  now : Instant
  freshSource : RandomSource

namespace Outside

variable (o : Outside)

/-- The world as programs see it that keep a record of all requests. -/
def world : World (StateM (List WebApi.Request)) where
  files path := pure (o.files path)
  transport := o.network.transport
  now := pure o.now
  freshSource := pure o.freshSource

def text (path : String) : Except String String :=
  match o.files path with
  | .error e => .error e
  | .ok bytes => textOfBytes bytes

theorem text_run (path : String) (history : List WebApi.Request) :
    (FileReader.text o.world.files path).run history = (o.text path, history) := by
  have hread : (o.world.files path).run history = (o.files path, history) := rfl
  rw [FileReader.text, WebApi.bind_run hread, text]
  cases o.files path <;> rfl

/-! ### Templates -/

/-- The templates of a command: those built in, and those of a file of which nothing is wrong. -/
inductive Templates : Option String → Registry → Prop where
  | builtin : Templates none .builtin
  | file {path text : String} {entries : List TemplateEntry} (hread : o.text path = .ok text)
    (hparse : TemplateDocument.parse? text = some entries) (hsound : ∀ e ∈ entries, e.Sound) :
    Templates (some path) (Registry.builtin.submitText text).2

inductive FileFault (path : String) : SchemaError → Prop where
  | unreadable {text : String} (hread : o.text path = .error text) : FileFault path (.unreadable text)
  | malformed {text : String} (hread : o.text path = .ok text) (hparse : TemplateDocument.parse? text = none) :
    FileFault path .malformed
  | entry {text : String} {entries : List TemplateEntry} {fault : SchemaError} (hread : o.text path = .ok text)
    (hparse : TemplateDocument.parse? text = some entries) (hfirst : TemplateEntry.FirstFault entries fault) :
    FileFault path fault

/-- The load that is settled: the template's, but for what is given. -/
inductive Settles (a : PopulateArguments) : LoadRequest → Prop where
  | of {r : Registry} {t : Template} (hr : o.Templates a.templatesFile? r) (ht : t ∈ r.templates)
    (hid : t.id = a.template) :
    Settles a ⟨a.container?.getD t.container, t.schema, a.rowCount?.getD t.rowCount⟩

/-- What keeps a load from being settled, and what was being done. -/
inductive TemplateFault (a : PopulateArguments) : (context : String) → SchemaError → Prop where
  | file {path : String} {fault : SchemaError} (hpath : a.templatesFile? = some path) (h : o.FileFault path fault) :
    TemplateFault a ("Failed to load templates from " ++ Quoted.path path) fault
  | unknown {r : Registry} (hr : o.Templates a.templatesFile? r) (hid : a.template ∉ r.ids) :
    TemplateFault a ("Failed to resolve template '" ++ a.template ++ "'") (.unknownTemplate a.template)

variable {o}

theorem Templates.loaded {file? : Option String} {r : Registry} (h : o.Templates file? r) : r.Loaded := by
  cases h with
  | builtin => exact .builtin
  | file hread hparse hsound => exact .text .builtin _

theorem Templates.unique {file? : Option String} {r other : Registry} (h : o.Templates file? r)
    (hother : o.Templates file? other) : r = other := by
  cases h with
  | builtin =>
      cases hother
      rfl
  | file hread =>
      cases hother with
      | file hread' =>
          cases hread.symm.trans hread'
          rfl

theorem FileFault.no_templates {path : String} {fault : SchemaError} (h : o.FileFault path fault) (r : Registry) :
    ¬o.Templates (some path) r := by
  intro htemplates
  cases htemplates with
  | file hread hparse hsound =>
      cases h with
      | unreadable hread' => cases hread.symm.trans hread'
      | malformed hread' hparse' =>
          cases hread.symm.trans hread'
          cases hparse.symm.trans hparse'
      | entry hread' hparse' hfirst =>
          cases hread.symm.trans hread'
          cases hparse.symm.trans hparse'
          exact hfirst.not_sound hsound

/-- A load that is settled has no fault. -/
theorem TemplateFault.not_settles {a : PopulateArguments} {context : String} {fault : SchemaError}
    (h : o.TemplateFault a context fault) (request : LoadRequest) : ¬o.Settles a request := by
  intro hsettles
  cases hsettles with
  | of hr ht hid =>
      cases h with
      | file hpath hfault =>
          rw [hpath] at hr
          exact hfault.no_templates _ hr
      | unknown hr' hunknown =>
          obtain rfl := hr.unique hr'
          exact hunknown (List.mem_map.mpr ⟨_, Array.mem_toList_iff.mpr ht, hid⟩)

variable (o)

theorem registry_cases (file? : Option String) (history : List WebApi.Request) :
    (∃ r, o.Templates file? r ∧ (o.world.registry file?).run history = (.ok r, history)) ∨
      ∃ path fault, file? = some path ∧ o.FileFault path fault ∧
        (o.world.registry file?).run history =
          (.error ((CommandError.ofLoad (.schema fault)).within
            ("Failed to load templates from " ++ Quoted.path path)), history) := by
  cases file? with
  | none => exact .inl ⟨.builtin, .builtin, rfl⟩
  | some path =>
      cases hread : o.text path with
      | error text =>
          have hfile : (Registry.builtin.registerFile o.world.files path).run history =
              (.error (.unreadable text), history) := by
            rw [Registry.registerFile, Registry.submitFile, bind_assoc, WebApi.bind_run (o.text_run path history), hread]
            rfl
          rw [World.registry, WebApi.bind_run hfile]
          exact .inr ⟨path, _, rfl, .unreadable hread, rfl⟩
      | ok text =>
          have hfile : (Registry.builtin.registerFile o.world.files path).run history =
              (Registry.ifAccepted (Registry.builtin.submitText text), history) := by
            rw [Registry.registerFile, Registry.submitFile, bind_assoc, WebApi.bind_run (o.text_run path history), hread]
            rfl
          rw [World.registry, WebApi.bind_run hfile]
          cases hparse : TemplateDocument.parse? text with
          | none =>
              have hsubmit : Registry.builtin.submitText text = (.error .malformed, .builtin) := by
                rw [Registry.submitText, hparse]
              rw [hsubmit]
              exact .inr ⟨path, _, rfl, .malformed hread hparse, rfl⟩
          | some entries =>
              have hsubmit : Registry.builtin.submitText text = Registry.builtin.registerEntries entries := by
                rw [Registry.submitText, hparse]
              rcases Registry.builtin.registerEntries_cases entries with ⟨ts, hall, -, hsound⟩ | ⟨fault, hnone, hfirst⟩
              · refine .inl ⟨_, .file hread hparse hsound, ?_⟩
                rw [hsubmit, hall]
                rfl
              · rw [hsubmit, hnone]
                exact .inr ⟨path, fault, rfl, .entry hread hparse hfirst, rfl⟩

theorem request_cases {a : PopulateArguments} {r : Registry} (hr : o.Templates a.templatesFile? r) :
    (∃ request, o.Settles a request ∧ World.request r a = .ok request) ∨
      a.template ∉ r.ids ∧ World.request r a = .error ((CommandError.ofLoad (.schema (.unknownTemplate a.template))).within
        ("Failed to resolve template '" ++ a.template ++ "'")) := by
  obtain ⟨hknown, hunknown⟩ := hr.loaded.resolve a.template a.container? a.rowCount?
  by_cases hid : a.template ∈ r.ids
  · obtain ⟨t, ht, hid⟩ := List.mem_map.mp hid
    have ht := Array.mem_toList_iff.mp ht
    refine .inl ⟨_, .of hr ht hid, ?_⟩
    rw [World.request, hknown t ht hid]
  · refine .inr ⟨hid, ?_⟩
    rw [World.request, hunknown hid]

/-- Either the load is settled, and what is left is to load it, or nothing is done at all. -/
theorem settle_cases (a : PopulateArguments) (history : List WebApi.Request) :
    (∃ request, o.Settles a request ∧
        (o.world.populate a).run history = (o.world.load a.common a.connection request).run history) ∨
      ∃ context fault, o.TemplateFault a context fault ∧
        (o.world.populate a).run history =
          (.error ((CommandError.ofLoad (.schema fault)).within context), history) := by
  rcases o.registry_cases a.templatesFile? history with ⟨r, hr, hrun⟩ | ⟨path, fault, hpath, hfault, hrun⟩
  · rcases o.request_cases hr with ⟨request, hsettles, hrequest⟩ | ⟨hid, hrequest⟩
    · refine .inl ⟨request, hsettles, ?_⟩
      rw [World.populate, WebApi.bind_run hrun]
      simp only [hrequest]
    · refine .inr ⟨_, _, .unknown hr hid, ?_⟩
      rw [World.populate, WebApi.bind_run hrun]
      simp only [hrequest]
      rfl
  · refine .inr ⟨_, _, .file hpath hfault, ?_⟩
    rw [World.populate, WebApi.bind_run hrun]
    rfl

/-! ### Settings -/

/-- The connection file of a command, an empty one if none is named. -/
inductive SettingsFile (c : ConnectionArguments) : ConnectionFile → Prop where
  | none (hpath : c.configFile? = none) : SettingsFile c {}
  | file {path text : String} {file : ConnectionFile} (hpath : c.configFile? = some path)
    (hread : o.text path = .ok text) (hparse : ConnectionFile.parse? text = some file) : SettingsFile c file

def Configures (c : ConnectionArguments) (config : WebApiConfig) : Prop :=
  ∃ file, o.SettingsFile c file ∧ c.merge file = .ok config

/-- What keeps settings from being settled. The timeout that counts is that of the arguments if they have one. -/
inductive SettingsFault (c : ConnectionArguments) : SettingsError → Prop where
  | unreadable {path text : String} (hpath : c.configFile? = some path) (hread : o.text path = .error text) :
    SettingsFault c (.unreadable path text)
  | malformed {path text : String} (hpath : c.configFile? = some path) (hread : o.text path = .ok text)
    (hparse : ConnectionFile.parse? text = none) : SettingsFault c (.malformed path)
  | timeout {file : ConnectionFile} {raw : String} {e : DurationError} (hfile : o.SettingsFile c file)
    (hraw : (c.timeout? <|> file.timeout?) = some raw) (hparse : Duration.parse raw = .error e) :
    SettingsFault c (.timeout raw e)

theorem merge_cases (c : ConnectionArguments) (file : ConnectionFile) :
    (∃ config, c.merge file = .ok config) ∨
      ∃ raw e, (c.timeout? <|> file.timeout?) = some raw ∧ Duration.parse raw = .error e ∧
        c.merge file = .error (.timeout raw e) := by
  cases hraw : (c.timeout? <|> file.timeout?) with
  | none => exact .inl ⟨_, by simp only [ConnectionArguments.merge, ConnectionArguments.timeout, hraw]; rfl⟩
  | some raw =>
      cases hparse : Duration.parse raw with
      | ok d => exact .inl ⟨_, by simp only [ConnectionArguments.merge, ConnectionArguments.timeout, hraw, hparse]; rfl⟩
      | error e =>
          exact .inr ⟨raw, e, rfl, hparse, by
            simp only [ConnectionArguments.merge, ConnectionArguments.timeout, hraw, hparse]⟩

theorem readFile_cases (c : ConnectionArguments) (history : List WebApi.Request) :
    (∃ file, o.SettingsFile c file ∧ (c.readFile o.world.files).run history = (.ok file, history)) ∨
      ∃ fault, o.SettingsFault c fault ∧ (c.readFile o.world.files).run history = (.error fault, history) := by
  unfold ConnectionArguments.readFile
  cases hpath : c.configFile? with
  | none => exact .inl ⟨{}, .none hpath, rfl⟩
  | some path =>
      dsimp only
      rw [WebApi.bind_run (o.text_run path history)]
      cases hread : o.text path with
      | error text => exact .inr ⟨_, .unreadable hpath hread, rfl⟩
      | ok text =>
          cases hparse : ConnectionFile.parse? text with
          | none => exact .inr ⟨_, .malformed hpath hread hparse, by simp only [hparse]; rfl⟩
          | some file => exact .inl ⟨file, .file hpath hread hparse, by simp only [hparse]; rfl⟩

theorem resolve_cases (c : ConnectionArguments) (history : List WebApi.Request) :
    (∃ config, o.Configures c config ∧ (c.resolve o.world.files).run history = (.ok config, history)) ∨
      ∃ fault, o.SettingsFault c fault ∧ (c.resolve o.world.files).run history = (.error fault, history) := by
  unfold ConnectionArguments.resolve
  rcases o.readFile_cases c history with ⟨file, hfile, hrun⟩ | ⟨fault, hfault, hrun⟩
  · rw [WebApi.bind_run hrun]
    rcases merge_cases c file with ⟨config, hmerge⟩ | ⟨raw, e, hraw, hparse, hmerge⟩
    · exact .inl ⟨config, ⟨file, hfile, hmerge⟩, by simp only [hmerge]; rfl⟩
    · exact .inr ⟨_, .timeout hfile hraw hparse, by simp only [hmerge]; rfl⟩
  · rw [WebApi.bind_run hrun]
    exact .inr ⟨fault, hfault, rfl⟩

variable {o}

theorem SettingsFile.unique {c : ConnectionArguments} {file other : ConnectionFile} (h : o.SettingsFile c file)
    (hother : o.SettingsFile c other) : file = other := by
  cases h with
  | none hpath =>
      cases hother with
      | none => rfl
      | file hpath' => cases hpath.symm.trans hpath'
  | file hpath hread hparse =>
      cases hother with
      | none hpath' => cases hpath.symm.trans hpath'
      | file hpath' hread' hparse' =>
          cases hpath.symm.trans hpath'
          cases hread.symm.trans hread'
          exact Option.some.inj (hparse.symm.trans hparse')

theorem SettingsFile.of_path {c : ConnectionArguments} {file : ConnectionFile} {path : String}
    (h : o.SettingsFile c file) (hpath : c.configFile? = some path) :
    ∃ text, o.text path = .ok text ∧ ConnectionFile.parse? text = some file := by
  cases h with
  | none hnone => cases hnone.symm.trans hpath
  | file hpath' hread hparse =>
      cases hpath'.symm.trans hpath
      exact ⟨_, hread, hparse⟩

theorem Configures.unique {c : ConnectionArguments} {config other : WebApiConfig} (h : o.Configures c config)
    (hother : o.Configures c other) : config = other := by
  obtain ⟨file, hfile, hmerge⟩ := h
  obtain ⟨file', hfile', hmerge'⟩ := hother
  obtain rfl := hfile.unique hfile'
  exact Except.ok.inj (hmerge.symm.trans hmerge')

/-- Where there is a connection file, only the timeout can be at fault. -/
theorem SettingsFault.of_file {c : ConnectionArguments} {fault : SettingsError} {file : ConnectionFile}
    (h : o.SettingsFault c fault) (hfile : o.SettingsFile c file) :
    ∃ raw e, fault = .timeout raw e ∧ (c.timeout? <|> file.timeout?) = some raw ∧ Duration.parse raw = .error e := by
  cases h with
  | unreadable hpath hread =>
      obtain ⟨text, hread', -⟩ := hfile.of_path hpath
      cases hread.symm.trans hread'
  | malformed hpath hread hparse =>
      obtain ⟨text, hread', hparse'⟩ := hfile.of_path hpath
      cases hread.symm.trans hread'
      cases hparse.symm.trans hparse'
  | timeout hfile' hraw hparse =>
      obtain rfl := hfile.unique hfile'
      exact ⟨_, _, rfl, hraw, hparse⟩

theorem SettingsFault.unique {c : ConnectionArguments} {fault other : SettingsError} (h : o.SettingsFault c fault)
    (hother : o.SettingsFault c other) : fault = other := by
  cases h with
  | unreadable hpath hread =>
      cases hother with
      | unreadable hpath' hread' =>
          cases hpath.symm.trans hpath'
          cases hread.symm.trans hread'
          rfl
      | malformed hpath' hread' =>
          cases hpath.symm.trans hpath'
          cases hread.symm.trans hread'
      | timeout hfile =>
          obtain ⟨text, hread', -⟩ := hfile.of_path hpath
          cases hread.symm.trans hread'
  | malformed hpath hread hparse =>
      cases hother with
      | unreadable hpath' hread' =>
          cases hpath.symm.trans hpath'
          cases hread.symm.trans hread'
      | malformed hpath' =>
          cases hpath.symm.trans hpath'
          rfl
      | timeout hfile =>
          obtain ⟨text, hread', hparse'⟩ := hfile.of_path hpath
          cases hread.symm.trans hread'
          cases hparse.symm.trans hparse'
  | timeout hfile hraw hparse =>
      obtain ⟨raw, e, rfl, hraw', hparse'⟩ := hother.of_file hfile
      cases hraw.symm.trans hraw'
      cases hparse.symm.trans hparse'
      rfl

/-- Settings that are settled have no fault. -/
theorem SettingsFault.not_configures {c : ConnectionArguments} {fault : SettingsError} (h : o.SettingsFault c fault)
    (config : WebApiConfig) : ¬o.Configures c config := by
  rintro ⟨file, hfile, hmerge⟩
  obtain ⟨raw, e, rfl, hraw, hparse⟩ := h.of_file hfile
  simp only [ConnectionArguments.merge, ConnectionArguments.timeout, hraw, hparse] at hmerge
  cases hmerge

variable (o) (c : ConnectionArguments) (history : List WebApi.Request)

theorem resolve_snd : ((c.resolve o.world.files).run history).2 = history := by
  rcases o.resolve_cases c history with ⟨config, -, hrun⟩ | ⟨fault, -, hrun⟩
  · rw [hrun]
  · rw [hrun]

theorem resolve_eq_ok_iff (config : WebApiConfig) :
    ((c.resolve o.world.files).run history).1 = .ok config ↔ o.Configures c config := by
  rcases o.resolve_cases c history with ⟨other, hother, hrun⟩ | ⟨fault, hfault, hrun⟩
  · rw [hrun]
    exact ⟨fun h => Except.ok.inj h ▸ hother, fun h => congrArg Except.ok (hother.unique h)⟩
  · rw [hrun]
    exact iff_of_false nofun (hfault.not_configures config)

theorem resolve_eq_error_iff (fault : SettingsError) :
    ((c.resolve o.world.files).run history).1 = .error fault ↔ o.SettingsFault c fault := by
  rcases o.resolve_cases c history with ⟨config, hconfig, hrun⟩ | ⟨other, hother, hrun⟩
  · rw [hrun]
    exact iff_of_false nofun fun h => h.not_configures config hconfig
  · rw [hrun]
    exact ⟨fun h => Except.error.inj h ▸ hother, fun h => congrArg Except.error (hother.unique h)⟩

end Outside

end SampleLoad
