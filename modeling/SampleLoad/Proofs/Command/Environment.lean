import SampleLoad.Command.Options

/-!
Options that the environment stands in for. A value on the command line comes first, and the environment has a say only
about an option that has a variable. Main statement: `OptionSpec.lookup_withEnvironment`.
-/

namespace SampleLoad

namespace GivenOptions

theorem lookup_cons (name : String) (option : String × String) (rest : GivenOptions) :
    (option :: rest).lookup name = if name = option.1 then some option.2 else rest.lookup name := by
  rw [List.lookup_cons]
  by_cases hname : name = option.1
  · simp [hname]
  · simp [hname, beq_false_of_ne hname]

theorem any_eq_isSome_lookup (given : GivenOptions) (name : String) :
    given.any (·.1 = name) = (given.lookup name).isSome := by
  induction given with
  | nil => rfl
  | cons option rest ih =>
      rw [List.any_cons, lookup_cons, ih]
      by_cases hname : name = option.1
      · simp [hname]
      · simp [hname, Ne.symm hname]

end GivenOptions

namespace OptionSpec

/-- The value that the environment has for the option of a name. -/
def standIn? (specs : List OptionSpec) (environment : String → Option String) (name : String) : Option String :=
  specs.findSome? fun spec => if spec.name = name then spec.environmentName?.bind environment else none

theorem standIn?_cons (spec : OptionSpec) (rest : List OptionSpec) (environment : String → Option String)
    (name : String) :
    standIn? (spec :: rest) environment name =
      (if spec.name = name then spec.environmentName?.bind environment else none).or
        (standIn? rest environment name) := by
  rw [standIn?, List.findSome?_cons]
  cases (if spec.name = name then spec.environmentName?.bind environment else none) <;> rfl

theorem lookup_withEnvironment_singleton (spec : OptionSpec) (environment : String → Option String)
    (given : GivenOptions) (name : String) :
    (withEnvironment [spec] environment given).lookup name =
      (given.lookup name).or (if spec.name = name then spec.environmentName?.bind environment else none) := by
  show List.lookup name (if given.any (·.1 = spec.name) then given else _) = _
  rw [GivenOptions.any_eq_isSome_lookup]
  by_cases hname : spec.name = name
  · subst hname
    cases hgiven : given.lookup spec.name with
    | some value => simp [hgiven]
    | none =>
        cases henvironment : spec.environmentName?.bind environment with
        | some value => simp
        | none => simp [hgiven]
  · rw [if_neg hname, Option.or_none]
    split
    · rfl
    · split
      · rw [GivenOptions.lookup_cons, if_neg (Ne.symm hname)]
      · rfl

/-- The environment stands in for options that are not given. -/
theorem lookup_withEnvironment (specs : List OptionSpec) (environment : String → Option String) (given : GivenOptions)
    (name : String) :
    (withEnvironment specs environment given).lookup name =
      (given.lookup name).or (standIn? specs environment name) := by
  induction specs generalizing given with
  | nil => exact Option.or_none.symm
  | cons spec rest ih =>
      have hrest : (withEnvironment (spec :: rest) environment given).lookup name =
          (withEnvironment rest environment (withEnvironment [spec] environment given)).lookup name := rfl
      rw [hrest, ih, lookup_withEnvironment_singleton, Option.or_assoc, standIn?_cons]

theorem standIn?_append (specs more : List OptionSpec) (environment : String → Option String) (name : String) :
    standIn? (specs ++ more) environment name = (standIn? specs environment name).or (standIn? more environment name) :=
  List.findSome?_append

theorem standIn?_of_bare {specs : List OptionSpec} (h : ∀ spec ∈ specs, spec.environmentName? = none)
    (environment : String → Option String) (name : String) : standIn? specs environment name = none := by
  rw [standIn?, List.findSome?_eq_none_iff]
  intro spec hspec
  rw [h spec hspec]
  exact ite_self _

end OptionSpec

end SampleLoad
