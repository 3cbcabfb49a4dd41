/-
# Launch.Agreement -- the launch file and the hardware agree on the lever parameters

The launch file and `load_hardware_parameters` are two programs with one contract: the
file has magnitudes, the hardware a minimum and a maximum.  `described` is what passes
between them, a description in which each lever argument is the parameter of its name.

`lever_resolution_agrees` puts the two together.  If the launch raises it has set
nothing; otherwise the hardware receives the values that the launch has resolved, and
accepts them exactly when they fit each other.
-/
import Tb20e.Launch.LeverParameters
import Tb20e.Hardware.LeverAcceptance

namespace Tb20e.Launch

set_option autoImplicit false

open Tb20e.Theory Tb20e.Control Tb20e.Hardware
open Tb20e.Theory (Double)

/-- The description: xacro writes the text of each lever argument into the hardware
parameter of the same name. -/
def described (conf : Configurations) (rest : HardwareInfo) : HardwareInfo where
  hardwareParameters := fun key =>
    if key ∈ autoXacroArguments then some (conf key) else rest.hardwareParameters key
  joints := rest.joints

/-- The same description without its lever parameters. -/
def withoutLevers (rest : HardwareInfo) : HardwareInfo where
  hardwareParameters := fun key =>
    if key ∈ autoXacroArguments then none else rest.hardwareParameters key
  joints := rest.joints

/-- The argument of a parameter is the text of a number.  One that goes on to the hardware as
it is, is the same number to `std::stod`. -/
def ReadAs (parse : String → Option Double) (stod : Stod) (spec : LeverSpec) (text : String)
    (x : ℚ) : Prop :=
  parse text = some (Double.finite x) ∧
    (spec.target = spec.name → stod text = .ok (Double.finite x, text.utf8ByteSize))

/-- The lever values that the launch resolves for an axis. -/
structure Resolved (parse : String → Option Double) (conf : Configurations)
    (values : List (Yaml × Yaml)) (axis : String) (v : LeverValues) : Prop where
  positiveMax : Resolves parse conf values (.positiveMax axis) v.positiveMax
  negativeMax : Resolves parse conf values (.negativeMax axis) v.negativeMax
  positiveMin : Resolves parse conf values (.positiveMin axis) v.positiveMin
  negativeMin : Resolves parse conf values (.negativeMin axis) v.negativeMin
  start : Resolves parse conf values (.start axis) v.start
  stop : Resolves parse conf values (.stop axis) v.stop

theorem mem_leverParameterSpecs (a : Axis) :
    ∀ spec ∈ leverSpecs (defaultAxisConfigs a).name, spec ∈ leverParameterSpecs := by
  intro spec member
  refine List.mem_flatMap.mpr ⟨_, ?_, member⟩
  fin_cases a <;> simp [defaultAxisConfigs]

/-- The two programs name the same parameters. -/
theorem mem_autoXacroArguments_iff (key : String) :
    key ∈ autoXacroArguments ↔ key ∈ leverParameters := by
  have forth : ∀ key ∈ autoXacroArguments, key ∈ leverParameters := by decide +kernel
  have back : ∀ key ∈ leverParameters, key ∈ autoXacroArguments := by decide +kernel
  exact ⟨forth key, back key⟩

section Agreement

variable {stod : Stod} {parse : String → Option Double} {str : ℚ → String} {conf : Configurations}
  {values : List (Yaml × Yaml)} {rest : HardwareInfo}

theorem parseFiniteDouble_described {after : Configurations} {key : String} {x : ℚ}
    (member : key ∈ autoXacroArguments)
    (reads : stod (after key) = .ok (Double.finite x, (after key).utf8ByteSize)) (d : ℚ) :
    parseFiniteDouble stod (described after rest) key d = .ok x := by
  simp only [parseFiniteDouble, described, member, if_true, reads]

/-- **One parameter**: what its target is left at is read as its value times its
multiplier, whether the launch has printed that or the argument was given. -/
theorem target_reads {spec : LeverSpec} {text : Option String}
    (loaded : loadLeverParameter parse str conf values spec = .ok text)
    (explicit : conf spec.name ≠ "auto" → ∃ x, ReadAs parse stod spec (conf spec.name) x)
    (printed : conf spec.target = "auto" → ∀ x, Resolves parse conf values spec x →
      stod (str (spec.multiplier * x)) =
        .ok (Double.finite (spec.multiplier * x), (str (spec.multiplier * x)).utf8ByteSize))
    (own : conf spec.target = "auto" ∨ (spec.target = spec.name ∧ spec.multiplier = 1)) :
    ∃ x, Resolves parse conf values spec x ∧
      stod (text.getD (conf spec.target)) =
        .ok (Double.finite (spec.multiplier * x), (text.getD (conf spec.target)).utf8ByteSize) := by
  rcases (loadLeverParameter_eq_ok loaded).2 with ⟨given, rfl⟩ | ⟨auto, x, resolves, rfl⟩
  · -- The argument was given, so it is the parameter's own and goes on as it is.
    obtain ⟨target, multiplier⟩ := own.resolve_left given
    rw [target] at given ⊢
    obtain ⟨x, parsed, read⟩ := explicit given
    replace read := read target
    have value : valueOf conf values spec = .str (conf spec.name) := if_neg given
    refine ⟨x, ⟨by rw [value]; rfl, by simp [value, Yaml.toFloat, parsed]⟩, ?_⟩
    rw [multiplier, one_mul]
    exact read
  · exact ⟨x, resolves, printed auto x resolves⟩

/-- What the lever arguments may be: each is `auto` or the text of a number, and the two
that the maxima are turned into are `auto`. -/
structure Assigned (parse : String → Option Double) (stod : Stod) (conf : Configurations) :
    Prop where
  explicit : ∀ spec ∈ leverParameterSpecs, conf spec.name ≠ "auto" →
    ∃ x, ReadAs parse stod spec (conf spec.name) x
  leverMax : ∀ a, conf (LeverSpec.positiveMax (defaultAxisConfigs a).name).target = "auto"
  leverMin : ∀ a, conf (LeverSpec.negativeMax (defaultAxisConfigs a).name).target = "auto"

/-- `std::stod` reads the numbers that the launch prints. -/
def Printed (parse : String → Option Double) (str : ℚ → String) (stod : Stod)
    (conf : Configurations) (values : List (Yaml × Yaml)) : Prop :=
  ∀ spec ∈ leverParameterSpecs, conf spec.target = "auto" → ∀ x,
    Resolves parse conf values spec x → stod (str (spec.multiplier * x)) =
      .ok (Double.finite (spec.multiplier * x), (str (spec.multiplier * x)).utf8ByteSize)

/-- The hardware reads a parameter's target as its value times its multiplier. -/
theorem target_received (rest : HardwareInfo) {spec : LeverSpec}
    {actions : List (String × String)} (assigned : Assigned parse stod conf)
    (printed : Printed parse str stod conf values)
    (loaded : loadEach parse str conf values leverParameterSpecs = .ok actions)
    (member : spec ∈ leverParameterSpecs)
    (own : conf spec.target = "auto" ∨ (spec.target = spec.name ∧ spec.multiplier = 1)) :
    ∃ x, Resolves parse conf values spec x ∧ ∀ d,
      parseFiniteDouble stod (described (actions.foldl setLaunchConfiguration conf) rest)
        spec.target d = .ok (spec.multiplier * x) := by
  obtain ⟨text, loadedSpec, sets⟩ :=
    (loadEach_eq_ok leverParameterSpecs_distinct loaded).2 spec member
  obtain ⟨x, resolves, reads⟩ := target_reads loadedSpec (assigned.explicit spec member)
    (printed spec member) own
  rw [← sets conf] at reads
  exact ⟨x, resolves, parseFiniteDouble_described (List.mem_map_of_mem member) reads⟩

/-- **One axis**: the hardware receives what the launch has resolved. -/
theorem axis_received (rest : HardwareInfo) {actions : List (String × String)}
    (assigned : Assigned parse stod conf)
    (printed : Printed parse str stod conf values)
    (loaded : loadEach parse str conf values leverParameterSpecs = .ok actions) (a : Axis) :
    ∃ v, Resolved parse conf values (defaultAxisConfigs a).name v ∧
      Receives stod (described (actions.foldl setLaunchConfiguration conf) rest)
        (defaultAxisConfigs a).name v := by
  have received (spec : LeverSpec) (member : spec ∈ leverSpecs (defaultAxisConfigs a).name) :=
    target_received rest assigned printed loaded (mem_leverParameterSpecs a spec member)
  have max := assigned.leverMax a
  have min := assigned.leverMin a
  generalize (defaultAxisConfigs a).name = axis at received max min ⊢
  obtain ⟨P, positiveMax, leverMax⟩ := received (.positiveMax axis) (by simp [leverSpecs])
    (.inl max)
  obtain ⟨N, negativeMax, leverMin⟩ := received (.negativeMax axis) (by simp [leverSpecs])
    (.inl min)
  obtain ⟨p, positiveMin, leverPositiveMin⟩ := received (.positiveMin axis) (by simp [leverSpecs])
    (.inr ⟨rfl, rfl⟩)
  obtain ⟨n, negativeMin, leverNegativeMin⟩ := received (.negativeMin axis) (by simp [leverSpecs])
    (.inr ⟨rfl, rfl⟩)
  obtain ⟨s, start, leverStart⟩ := received (.start axis) (by simp [leverSpecs]) (.inr ⟨rfl, rfl⟩)
  obtain ⟨e, stop, leverStop⟩ := received (.stop axis) (by simp [leverSpecs]) (.inr ⟨rfl, rfl⟩)
  refine ⟨⟨P, N, p, n, s, e⟩, ⟨positiveMax, negativeMax, positiveMin, negativeMin, start, stop⟩, ?_⟩
  constructor <;> intro d <;> rw [String.append_assoc]
  · rw [← neg_one_mul]
    exact leverMin d
  · rw [← one_mul P]
    exact leverMax d
  · rw [← one_mul p]
    exact leverPositiveMin d
  · rw [← one_mul n]
    exact leverNegativeMin d
  · rw [← one_mul s]
    exact leverStart d
  · rw [← one_mul e]
    exact leverStop d

/-- **The launch file and the hardware agree.**  Let each lever argument be `auto` or the
text of a number, those of the minima and maxima `auto`, let `std::stod` read what the
launch prints or passes on, and let the hardware accept the rest of the description.  An unknown key or
an unusable value makes the launch raise, and if it raises it has set nothing.  Otherwise
it has resolved values for every axis, the hardware receives these, with the negative
maximum as a minimum, and it accepts them exactly when they fit each other. -/
theorem lever_resolution_agrees {document : Yaml} {accepted : Parameters}
    (assigned : Assigned parse stod conf)
    (printed : ∀ values, rosParameters document = .ok values →
      Printed parse str stod conf values)
    (valid : loadHardwareParameters stod (withoutLevers rest) = .ok accepted) :
    (∀ values, rosParameters document = .ok values →
      (unknownKeys values ≠ [] ∨ ∃ spec ∈ leverParameterSpecs, Unusable parse conf values spec) →
      ∃ raised, (resolveLeverParameters parse str document).run conf = .error raised conf) ∧
    (∀ raised after, (resolveLeverParameters parse str document).run conf = .error raised after →
      after = conf) ∧
    ∀ after, (resolveLeverParameters parse str document).run conf = .ok () after →
      ∃ (values : List (Yaml × Yaml)) (v : Axis → LeverValues),
        rosParameters document = .ok values ∧
        (∀ a, Resolved parse conf values (defaultAxisConfigs a).name (v a)) ∧
        (∀ a, Receives stod (described after rest) (defaultAxisConfigs a).name (v a)) ∧
        ((∃ P, loadHardwareParameters stod (described after rest) = .ok P) ↔
          ∀ a, (v a).Consistent) := by
  have run : (resolveLeverParameters parse str document).run conf = _ :=
    resolveLeverParameters_run document
  cases returned : loadLeverParameters parse str conf document with
  | error raised =>
      rw [returned] at run
      rw [run]
      refine ⟨fun _ _ _ => ⟨raised, rfl⟩, ?_, ?_⟩
      · rintro _ _ ⟨⟩
        rfl
      · rintro _ ⟨⟩
  | ok actions =>
      rw [returned] at run
      rw [run]
      obtain ⟨values, mapping, known, loaded⟩ := loadLeverParameters_eq_ok returned
      refine ⟨?_, by rintro _ _ ⟨⟩, ?_⟩
      · rintro values' mapping' bad
        obtain rfl := Except.ok.inj (mapping.symm.trans mapping')
        exfalso
        rcases bad with unknown | ⟨spec, member, unusable⟩
        · exact unknown known
        · obtain ⟨text, loadedSpec, -⟩ :=
            (loadEach_eq_ok leverParameterSpecs_distinct loaded).2 spec member
          exact (loadLeverParameter_eq_ok loadedSpec).1 unusable
      · rintro _ ⟨⟩
        choose v resolved receives using
          axis_received rest assigned (printed values mapping) loaded
        refine ⟨values, v, mapping, resolved, receives, ?_⟩
        apply loadHardwareParameters_ok_iff receives ?_ valid
        intro key apart
        rw [← mem_autoXacroArguments_iff] at apart
        simp [described, withoutLevers, apart]

end Agreement

/-! ## A launch -/

/-- Some numbers, as they are written and read on both sides. -/
def writtenNumbers : List (String × ℚ) :=
  [("0.0", 0), ("1.0", 1), ("2.0", 2), ("35.5", 71 / 2), ("70.0", 70), ("-60.0", -60),
    ("100.0", 100), ("-100.0", -100)]

def readNumber (text : String) : Option Double := (writtenNumbers.lookup text).map Double.finite

def printNumber (x : ℚ) : String :=
  ((writtenNumbers.find? fun entry => entry.2 = x).map (·.1)).getD ""

def stodNumber : Stod := fun text =>
  match readNumber text with
  | some x => .ok (x, text.utf8ByteSize)
  | none => .error "stod"

/-- Two maxima of the boom, one of them an integer. -/
def boomValues : List (Yaml × Yaml) :=
  [(.str "boom_lever_positive_max", .float (70 : ℚ)), (.str "boom_lever_negative_max", .int 60)]

/-- A controllers file with these lever parameters. -/
def boomDocument : Yaml :=
  .mapping [(.str "/**/tb20e_lever_hardware",
    .mapping [(.str "ros__parameters", .mapping boomValues)])]

/-- A minimum of the boom as an argument. -/
def boomArgument : Configurations := fun name =>
  if name = "boom_lever_positive_min" then "35.5" else "auto"

theorem assigned_boomArgument : Assigned readNumber stodNumber boomArgument where
  explicit := by
    intro spec _ given
    have named : spec.name = "boom_lever_positive_min" := by
      by_contra other
      exact given (if_neg other)
    rw [named]
    exact ⟨71 / 2, by decide +kernel, fun _ => by decide +kernel⟩
  leverMax := by decide +kernel
  leverMin := by decide +kernel

/-- A description that leaves everything else at its defaults. -/
def bareInfo : HardwareInfo where
  hardwareParameters := fun _ => none
  joints := []

/-- The number that a value comes to is read back as it is printed. -/
def readsBack (multiplier : ℚ) : Except Raised Double → Bool
  | .ok (.finite x) =>
      readNumber (printNumber (multiplier * x)) = some (Double.finite (multiplier * x))
  | _ => true

theorem printed_boomValues :
    Printed readNumber printNumber stodNumber boomArgument boomValues := by
  have prints : ∀ spec ∈ leverParameterSpecs, readsBack spec.multiplier
      ((valueOf boomArgument boomValues spec).toFloat readNumber) = true := by
    decide +kernel
  intro spec member _ x resolves
  have read := prints spec member
  simp only [resolves.2, readsBack, decide_eq_true_eq] at read
  simp only [stodNumber, read]

theorem lever_resolution_agrees_boom :
    ∃ after, (resolveLeverParameters readNumber printNumber boomDocument).run boomArgument =
        .ok () after ∧
      after "boom_lever_min" = "-60.0" ∧
      ∃ (values : List (Yaml × Yaml)) (v : Axis → LeverValues),
        rosParameters boomDocument = .ok values ∧
        (∀ a, Resolved readNumber boomArgument values (defaultAxisConfigs a).name (v a)) ∧
        (∀ a, Receives stodNumber (described after bareInfo) (defaultAxisConfigs a).name (v a)) ∧
        ((∃ P, loadHardwareParameters stodNumber (described after bareInfo) = .ok P) ↔
          ∀ a, (v a).Consistent) := by
  have valid : loadHardwareParameters stodNumber (withoutLevers bareInfo) = .ok defaultParameters :=
    loadHardwareParameters_unset fun key => by simp [withoutLevers, bareInfo]
  obtain ⟨actions, returned, min⟩ : ∃ actions,
      loadLeverParameters readNumber printNumber boomArgument boomDocument = .ok actions ∧
        actions.foldl setLaunchConfiguration boomArgument "boom_lever_min" = "-60.0" := by
    have given : (loadLeverParameters readNumber printNumber boomArgument
        boomDocument).toOption.map (fun actions =>
          actions.foldl setLaunchConfiguration boomArgument "boom_lever_min") = some "-60.0" := by
      decide +kernel
    cases returned : loadLeverParameters readNumber printNumber boomArgument boomDocument with
    | error raised =>
        rw [returned] at given
        cases given
    | ok actions =>
        rw [returned] at given
        exact ⟨actions, rfl, Option.some.inj given⟩
  have ran : (resolveLeverParameters readNumber printNumber boomDocument).run boomArgument =
      .ok () (actions.foldl setLaunchConfiguration boomArgument) := by
    rw [resolveLeverParameters_run, returned]
  have mapping : rosParameters boomDocument = .ok boomValues := rfl
  have printed : ∀ values, rosParameters boomDocument = .ok values →
      Printed readNumber printNumber stodNumber boomArgument values := by
    intro values same
    obtain rfl := Except.ok.inj (mapping.symm.trans same)
    exact printed_boomValues
  exact ⟨_, ran, min, (lever_resolution_agrees assigned_boomArgument printed valid).2.2 _ ran⟩

end Tb20e.Launch
