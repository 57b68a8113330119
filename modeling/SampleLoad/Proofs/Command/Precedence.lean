import SampleLoad.Proofs.Command.Environment
import SampleLoad.Proofs.Command.Resolution

/-!
Where the settings of a connection come from. Each setting for itself is taken from the first source that has it: the
arguments, which come from the command line or else from the environment, then the connection file, then the default.
So a source of one setting makes no difference to another. Only the timeout can be wrong, and only in the source that
it is taken from. Main statement: `Outside.settings_by_precedence`.
-/

namespace SampleLoad

inductive ConnectionSetting where
  | url
  | cluster
  | database
  | user
  | password
  | timeout
  deriving DecidableEq, Repr

namespace ConnectionSetting

abbrev Value : ConnectionSetting → Type
  | timeout => Duration
  | _ => String

def ofConfig (config : WebApiConfig) : (s : ConnectionSetting) → s.Value
  | url => config.url
  | cluster => config.cluster
  | database => config.database
  | user => config.user
  | password => config.password
  | timeout => config.timeout

/-- What the text of a source says; it may not be a timeout. -/
def read : (s : ConnectionSetting) → String → Except DurationError s.Value
  | url, text | cluster, text | database, text | user, text | password, text => .ok text
  | timeout, text => Duration.parse text

/-! ### Sources -/

def flag : ConnectionSetting → String
  | url => "griddb-url"
  | cluster => "cluster"
  | database => "database"
  | user => "user"
  | password => "password"
  | timeout => "timeout"

/-- The environment variable that stands in for the option. -/
def environmentName? : ConnectionSetting → Option String
  | url => some "GRIDDB_URL"
  | cluster => some "GRIDDB_CLUSTER"
  | database => some "GRIDDB_DATABASE"
  | user => some "GRIDDB_USER"
  | password => some "GRIDDB_PASSWORD"
  | timeout => none

def inArguments? (c : ConnectionArguments) : ConnectionSetting → Option String
  | url => c.url?
  | cluster => c.cluster?
  | database => c.database?
  | user => c.user?
  | password => c.password?
  | timeout => c.timeout?

def inFile? (file : ConnectionFile) : ConnectionSetting → Option String
  | url => file.url?
  | cluster => file.cluster?
  | database => file.database?
  | user => file.user?
  | password => file.password?
  | timeout => file.timeout?

/-- The value of a setting comes from the first source that has it. -/
inductive Settled (c : ConnectionArguments) (file : ConnectionFile) (s : ConnectionSetting) : s.Value → Prop where
  | argument {text : String} {value : s.Value} (htext : s.inArguments? c = some text)
    (hread : s.read text = .ok value) : Settled c file s value
  | file {text : String} {value : s.Value} (habsent : s.inArguments? c = none) (htext : s.inFile? file = some text)
    (hread : s.read text = .ok value) : Settled c file s value
  | default (habsent : s.inArguments? c = none) (hmissing : s.inFile? file = none) :
    Settled c file s (s.ofConfig {})

/-- The value of a setting, given the text that comes first, if there is one. -/
def settle (s : ConnectionSetting) (text? : Option String) : Except DurationError s.Value :=
  text?.elim (.ok (s.ofConfig {})) s.read

theorem settled_iff (c : ConnectionArguments) (file : ConnectionFile) (s : ConnectionSetting) (value : s.Value) :
    Settled c file s value ↔ s.settle (s.inArguments? c <|> s.inFile? file) = .ok value := by
  constructor
  · intro h
    cases h with
    | argument htext hread => rw [htext]; exact hread
    | file habsent htext hread => rw [habsent, htext]; exact hread
    | default habsent hmissing => rw [habsent, hmissing]; rfl
  · intro h
    cases harguments : s.inArguments? c with
    | some text =>
        rw [harguments] at h
        exact .argument harguments h
    | none =>
        cases hfile : s.inFile? file with
        | some text =>
            rw [harguments, hfile] at h
            exact .file harguments hfile h
        | none =>
            rw [harguments, hfile] at h
            obtain rfl : s.ofConfig {} = value := Except.ok.inj h
            exact .default harguments hfile

theorem ofConfig_injective {config other : WebApiConfig}
    (h : ∀ s : ConnectionSetting, s.ofConfig config = s.ofConfig other) : config = other := by
  obtain ⟨curl, ccluster, cdatabase, cuser, cpassword, ctimeout⟩ := config
  obtain ⟨rfl, rfl, rfl⟩ : curl = other.url ∧ ccluster = other.cluster ∧ cdatabase = other.database :=
    ⟨h url, h cluster, h database⟩
  obtain ⟨rfl, rfl, rfl⟩ : cuser = other.user ∧ cpassword = other.password ∧ ctimeout = other.timeout :=
    ⟨h user, h password, h timeout⟩
  rfl

/-! ### Settings together -/

theorem settle_text (text? : Option String) (default : String) :
    text?.elim (.ok default) Except.ok = (.ok (text?.getD default) : Except DurationError String) := by
  cases text? <;> rfl

theorem settle_timeout {c : ConnectionArguments} {file : ConnectionFile} {d : Duration}
    (h : c.timeout file ({} : WebApiConfig).timeout = .ok d) :
    timeout.settle (c.timeout? <|> file.timeout?) = .ok d := by
  rw [ConnectionArguments.timeout] at h
  cases hraw : (c.timeout? <|> file.timeout?) with
  | none =>
      rw [hraw] at h
      exact congrArg Except.ok (Except.ok.inj h)
  | some raw =>
      show Duration.parse raw = .ok d
      cases hparse : Duration.parse raw with
      | error e => simp [hraw, hparse] at h
      | ok parsed =>
          simp only [hraw, hparse] at h
          exact congrArg Except.ok (Except.ok.inj h)

theorem settle_of_merge {c : ConnectionArguments} {file : ConnectionFile} {config : WebApiConfig}
    (h : c.merge file = .ok config) (s : ConnectionSetting) :
    s.settle (s.inArguments? c <|> s.inFile? file) = .ok (s.ofConfig config) := by
  rw [ConnectionArguments.merge] at h
  cases htimeout : c.timeout file ({} : WebApiConfig).timeout with
  | error e => simp [htimeout] at h
  | ok d =>
      simp only [htimeout] at h
      obtain rfl := Except.ok.inj h
      cases s with
      | timeout => exact settle_timeout htimeout
      | _ => exact settle_text _ _

/-- Arguments and file merge into the settings that the first sources give. -/
theorem merge_eq_ok_iff (c : ConnectionArguments) (file : ConnectionFile) (config : WebApiConfig) :
    c.merge file = .ok config ↔ ∀ s, Settled c file s (s.ofConfig config) := by
  refine ⟨fun h s => (settled_iff c file s _).mpr (settle_of_merge h s), fun h => ?_⟩
  rcases Outside.merge_cases c file with ⟨other, hmerge⟩ | ⟨raw, e, hraw, hparse, -⟩
  · rw [hmerge]
    refine congrArg Except.ok (ofConfig_injective fun s => ?_)
    exact Except.ok.inj ((settle_of_merge hmerge s).symm.trans ((settled_iff c file s _).mp (h s)))
  · have htimeout : timeout.settle (c.timeout? <|> file.timeout?) = .ok config.timeout :=
      (settled_iff c file timeout _).mp (h timeout)
    rw [hraw] at htimeout
    cases hparse.symm.trans htimeout

/-- A timeout in the file that cannot be read does no harm where the arguments have one. -/
example :
    ({ cluster? := "fromArgs", timeout? := "5s" } : ConnectionArguments).merge
        { cluster? := "fromFile", database? := "fileDb", timeout? := "soon" } =
      .ok { cluster := "fromArgs", database := "fileDb", timeout := ⟨5, 0⟩ } := by
  rfl

/-- What is settled for one setting depends on the sources of this setting alone. -/
theorem ofConfig_eq_of_sources {c c' : ConnectionArguments} {file file' : ConnectionFile}
    {config config' : WebApiConfig} (h : c.merge file = .ok config) (h' : c'.merge file' = .ok config')
    {s : ConnectionSetting} (harguments : s.inArguments? c = s.inArguments? c')
    (hfile : s.inFile? file = s.inFile? file') : s.ofConfig config = s.ofConfig config' := by
  have hsettle := settle_of_merge h s
  rw [harguments, hfile] at hsettle
  exact Except.ok.inj (hsettle.symm.trans (settle_of_merge h' s))

/-! ### Arguments -/

open OptionSpec (standIn? standIn?_cons)

theorem standIn?_connection (environment : String → Option String) (s : ConnectionSetting) :
    standIn? ConnectionArguments.specs environment s.flag = s.environmentName?.bind environment := by
  have hnil (name : String) : standIn? [] environment name = none := rfl
  cases s <;> simp [standIn?_cons, hnil, ConnectionArguments.specs, flag, environmentName?]

/-- The command line comes first and the environment second, for both commands that connect. -/
theorem inArguments?_ofGiven {specs : List OptionSpec}
    (hspecs : specs ∈ [Command.populateSpecs, CommonOptions.specs ++ ConnectionArguments.specs])
    (environment : String → Option String) (given : GivenOptions) (s : ConnectionSetting) :
    s.inArguments? (.ofGiven (OptionSpec.withEnvironment specs environment given)) =
      (given.lookup s.flag).or (s.environmentName?.bind environment) := by
  have hconnection : ∃ others, (∀ spec ∈ others, spec.environmentName? = none) ∧
      specs = others ++ ConnectionArguments.specs := by
    rcases List.mem_pair.mp hspecs with rfl | rfl
    · exact ⟨_, by decide, rfl⟩
    · exact ⟨_, by decide, rfl⟩
  obtain ⟨others, hbare, rfl⟩ := hconnection
  have harguments (options : GivenOptions) : s.inArguments? (.ofGiven options) = options.lookup s.flag := by
    cases s <;> rfl
  rw [harguments, OptionSpec.lookup_withEnvironment, OptionSpec.standIn?_append, OptionSpec.standIn?_of_bare hbare,
    Option.none_or, standIn?_connection]

end ConnectionSetting

namespace Outside

/-- A timeout among the arguments counts, whatever the file has. -/
theorem configures_of_timeout {o : Outside} {c : ConnectionArguments} {file : ConnectionFile} {raw : String}
    {d : Duration} (hfile : o.SettingsFile c file) (hraw : c.timeout? = some raw)
    (hparse : Duration.parse raw = .ok d) :
    ∃ config, o.Configures c config ∧ config.timeout = d := by
  rcases merge_cases c file with ⟨config, hmerge⟩ | ⟨other, e, hother, hfault, -⟩
  · refine ⟨config, ⟨file, hfile, hmerge⟩, ?_⟩
    have hsettle := ConnectionSetting.settle_of_merge hmerge .timeout
    rw [ConnectionSetting.inArguments?, hraw] at hsettle
    exact Except.ok.inj (hsettle.symm.trans hparse)
  · rw [hraw] at hother
    cases hother
    cases hparse.symm.trans hfault

/-- Settings come each from its first source: the command line, the environment, the connection file, the default. So
the sources of other settings make no difference to one. They are settled unless there is a fault: the connection file
cannot be read, or it is none, or the timeout is none in the source that counts for it. A timeout among the arguments
counts, whatever the file has. -/
theorem settings_by_precedence (o : Outside) (c : ConnectionArguments) (history : List WebApi.Request) :
    let outcome := (c.resolve o.world.files).run history
    (∀ config, outcome.1 = .ok config ↔
        ∃ file, o.SettingsFile c file ∧ ∀ s, ConnectionSetting.Settled c file s (s.ofConfig config)) ∧
      (∀ fault, outcome.1 = .error fault ↔ o.SettingsFault c fault) ∧
      outcome.2 = history ∧
      (∀ file raw d, o.SettingsFile c file → c.timeout? = some raw → Duration.parse raw = .ok d →
        ∃ config, outcome.1 = .ok config ∧ config.timeout = d) ∧
      (∀ (o' : Outside) (c' : ConnectionArguments) (history' : List WebApi.Request) (file file' : ConnectionFile)
          (config config' : WebApiConfig),
        o.SettingsFile c file → o'.SettingsFile c' file' → outcome.1 = .ok config →
          ((c'.resolve o'.world.files).run history').1 = .ok config' →
            ∀ s : ConnectionSetting, s.inArguments? c = s.inArguments? c' → s.inFile? file = s.inFile? file' →
              s.ofConfig config = s.ofConfig config') ∧
      ∀ specs ∈ [Command.populateSpecs, CommonOptions.specs ++ ConnectionArguments.specs], ∀ environment given,
        c = .ofGiven (OptionSpec.withEnvironment specs environment given) →
          ∀ s : ConnectionSetting,
            s.inArguments? c = (given.lookup s.flag).or (s.environmentName?.bind environment) := by
  intro outcome
  refine ⟨?_, o.resolve_eq_error_iff c history, o.resolve_snd c history, ?_, ?_, ?_⟩
  · intro config
    simp only [outcome, resolve_eq_ok_iff, Configures, ConnectionSetting.merge_eq_ok_iff]
  · intro file raw d hfile hraw hparse
    simp only [outcome, resolve_eq_ok_iff]
    exact configures_of_timeout hfile hraw hparse
  · intro o' c' history' file file' config config' hfile hfile' hconfig hconfig' s harguments hinFile
    obtain ⟨read, hread, hmerge⟩ := (o.resolve_eq_ok_iff c history config).mp hconfig
    obtain ⟨read', hread', hmerge'⟩ := (o'.resolve_eq_ok_iff c' history' config').mp hconfig'
    obtain rfl := hread.unique hfile
    obtain rfl := hread'.unique hfile'
    exact ConnectionSetting.ofConfig_eq_of_sources hmerge hmerge' harguments hinFile
  · rintro specs hspecs environment given rfl s
    exact ConnectionSetting.inArguments?_ofGiven hspecs environment given s

end Outside

end SampleLoad
