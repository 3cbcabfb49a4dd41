/-
# Launch.LeverParameters -- where the launch file takes the lever parameters from

`load_lever_parameters` reads the controllers file and the launch arguments, and sets
the arguments that go into the robot description.  A lever parameter that is given as
an argument wins over the file, and the file over the default; the two maxima are
magnitudes, and the negative one is turned into a minimum on the way.

`parse` is `float` of a text and `str` prints a number; nothing here depends on how
either is done.  An integer of the file is the number it is, in exact arithmetic, unless
it is too large for a double: then `float` raises.
-/
import Tb20e.Theory.ExactDouble

namespace Tb20e.Launch

set_option autoImplicit false

open Tb20e.Theory
open Tb20e.Theory (Double)

/-- What `yaml.safe_load` returns.  The keys of a mapping are distinct. -/
inductive Yaml where
  | null
  | bool (value : Bool)
  | int (value : ℤ)
  | float (value : Double)
  | str (text : String)
  | sequence (items : List Yaml)
  | mapping (entries : List (Yaml × Yaml))
  /-- A date, or another value that is not a number. -/
  | other

/-- The exception that `load_lever_parameters` ends with. -/
inductive Raised where
  | valueError (text : String)
  /-- The `ValueError` that lists the unknown names. -/
  | unknownLeverParameters (names : List Yaml)
  | typeError
  | attributeError
  | overflowError

/-- From here on an integer is too large for a double: it would round past the largest. -/
def doubleOverflow : ℕ := 2 ^ 1024 - 2 ^ 970

/-- `float` of an integer. -/
def floatOfInt (value : ℤ) : Except Raised Double :=
  if value.natAbs < doubleOverflow then .ok (Double.finite value) else .error .overflowError

namespace Yaml

def isStr (key : String) : Yaml → Bool
  | .str text => text = key
  | _ => false

def isBool : Yaml → Bool
  | .bool _ => true
  | _ => false

/-- `get` of a dictionary. -/
def lookup (entries : List (Yaml × Yaml)) (key : String) (defaultValue : Yaml) : Yaml :=
  ((entries.find? fun entry => entry.1.isStr key).map (·.2)).getD defaultValue

/-- `get` of a value that may not be a dictionary. -/
def get (value : Yaml) (key : String) (defaultValue : Yaml) : Except Raised Yaml :=
  match value with
  | .mapping entries => .ok (lookup entries key defaultValue)
  | _ => .error .attributeError

/-- `float` of a value. -/
def toFloat (parse : String → Option Double) : Yaml → Except Raised Double
  | .bool value => .ok (if value then 1 else 0)
  | .int value => floatOfInt value
  | .float value => .ok value
  | .str text =>
      match parse text with
      | some value => .ok value
      | none => .error (.valueError ("could not convert string to float: '" ++ text ++ "'"))
  | .null | .sequence _ | .mapping _ | .other => .error .typeError

end Yaml

/-! ## The parameters -/

/-- One entry of `LEVER_PARAMETER_SPECS`. -/
structure LeverSpec where
  name : String
  target : String
  defaultValue : ℚ
  multiplier : ℚ

namespace LeverSpec

def positiveMax (axis : String) : LeverSpec where
  name := axis ++ "_lever_positive_max"
  target := axis ++ "_lever_max"
  defaultValue := 100
  multiplier := 1

def negativeMax (axis : String) : LeverSpec where
  name := axis ++ "_lever_negative_max"
  target := axis ++ "_lever_min"
  defaultValue := 100
  multiplier := -1

/-- A parameter that goes into the argument of its own name. -/
def plain (name : String) (defaultValue : ℚ) : LeverSpec where
  name := name
  target := name
  defaultValue := defaultValue
  multiplier := 1

def positiveMin (axis : String) : LeverSpec := plain (axis ++ "_lever_positive_min") 0
def negativeMin (axis : String) : LeverSpec := plain (axis ++ "_lever_negative_min") 0
def start (axis : String) : LeverSpec := plain (axis ++ "_lever_start") 2
def stop (axis : String) : LeverSpec := plain (axis ++ "_lever_stop") 1

end LeverSpec

def leverSpecs (axis : String) : List LeverSpec :=
  [.positiveMax axis, .negativeMax axis, .positiveMin axis, .negativeMin axis, .start axis,
    .stop axis]

def leverParameterSpecs : List LeverSpec := ["swing", "boom", "arm", "bucket"].flatMap leverSpecs

/-- The arguments of the robot description that default to `auto`. -/
def autoXacroArguments : List String := leverParameterSpecs.map (·.target)

def maximumArguments : List String :=
  (leverParameterSpecs.map (·.name)).filter fun name => name.endsWith "_max"

/-! ## `load_lever_parameters` -/

/-- The launch configurations: every argument has one, `auto` unless it is given. -/
abbrev Configurations := String → String

/-- The mapping of the controllers file that holds the lever parameters. -/
def rosParameters (document : Yaml) : Except Raised (List (Yaml × Yaml)) := do
  let hardware ← document.get "/**/tb20e_lever_hardware" (.mapping [])
  match ← hardware.get "ros__parameters" (.mapping []) with
  | .mapping values => .ok values
  | _ => .error (.valueError "tb20e_lever_hardware.ros__parameters must be a mapping")

/-- The keys that name no lever parameter. -/
def unknownKeys (values : List (Yaml × Yaml)) : List Yaml :=
  (values.map (·.1)).filter fun key => !leverParameterSpecs.any fun spec => key.isStr spec.name

section Load

variable (parse : String → Option Double) (str : ℚ → String) (conf : Configurations)
  (values : List (Yaml × Yaml))

/-- Where the value of a parameter is taken from. -/
def valueOf (spec : LeverSpec) : Yaml :=
  if conf spec.name = "auto" then Yaml.lookup values spec.name (.float spec.defaultValue)
  else .str (conf spec.name)

/-- The loop body: the text its target is set to, or `none` if it continues. -/
def loadLeverParameter (spec : LeverSpec) : Except Raised (Option String) :=
  if conf spec.target ≠ "auto" then .ok none
  else
    let value := valueOf conf values spec
    if value.isBool then .error (.valueError (spec.name ++ " must be a finite number"))
    else
      match value.toFloat parse with
      | .error raised => .error raised
      | .ok (.finite x) =>
          if spec.name ∈ maximumArguments ∧ x < 0 then
            .error (.valueError (spec.name ++ " must be a non-negative magnitude"))
          else .ok (some (str (spec.multiplier * x)))
      | .ok _ => .error (.valueError (spec.name ++ " must be a finite number"))

/-- The loop: the arguments to set, in order. -/
def loadEach : List LeverSpec → Except Raised (List (String × String))
  | [] => .ok []
  | spec :: rest => do
      let text ← loadLeverParameter parse str conf values spec
      let actions ← loadEach rest
      return (text.map fun text => (spec.target, text)).toList ++ actions

end Load

def loadLeverParameters (parse : String → Option Double) (str : ℚ → String)
    (conf : Configurations) (document : Yaml) : Except Raised (List (String × String)) := do
  let values ← rosParameters document
  if unknownKeys values ≠ [] then .error (.unknownLeverParameters (unknownKeys values))
  else loadEach parse str conf values leverParameterSpecs

/-- `SetLaunchConfiguration`. -/
def setLaunchConfiguration (conf : Configurations) (action : String × String) : Configurations :=
  Function.update conf action.1 action.2

/-- The launch runs `load_lever_parameters` and then the actions it has returned. -/
def resolveLeverParameters (parse : String → Option Double) (str : ℚ → String) (document : Yaml) :
    EStateM Raised Configurations Unit := do
  let conf ← get
  match loadLeverParameters parse str conf document with
  | .error raised => throw raised
  | .ok actions => actions.forM fun action => modify fun conf => setLaunchConfiguration conf action

/-! ## What the launch comes to -/

section Resolve

variable {parse : String → Option Double} {str : ℚ → String} {conf : Configurations}
  {values : List (Yaml × Yaml)}

/-- The value of a parameter is this number: the argument over the file over the default. -/
def Resolves (parse : String → Option Double) (conf : Configurations)
    (values : List (Yaml × Yaml)) (spec : LeverSpec) (x : ℚ) : Prop :=
  (valueOf conf values spec).isBool = false ∧
    (valueOf conf values spec).toFloat parse = .ok (Double.finite x)

/-- The value of a parameter that is used is a boolean, not a finite number, or the
negative value of a maximum. -/
def Unusable (parse : String → Option Double) (conf : Configurations)
    (values : List (Yaml × Yaml)) (spec : LeverSpec) : Prop :=
  conf spec.target = "auto" ∧
    ((valueOf conf values spec).isBool = true ∨
      (∃ x, (valueOf conf values spec).toFloat parse = .ok x ∧ x.isFinite = false) ∨
      (spec.name ∈ maximumArguments ∧ ∃ x < 0, Resolves parse conf values spec x))

/-- **The loop body** skips a target that is given, and otherwise prints the number
that its value is. -/
theorem loadLeverParameter_eq_ok {spec : LeverSpec} {text : Option String}
    (loaded : loadLeverParameter parse str conf values spec = .ok text) :
    ¬ Unusable parse conf values spec ∧
      ((conf spec.target ≠ "auto" ∧ text = none) ∨
        (conf spec.target = "auto" ∧
          ∃ x, Resolves parse conf values spec x ∧ text = some (str (spec.multiplier * x)))) := by
  unfold loadLeverParameter at loaded
  by_cases given : conf spec.target ≠ "auto"
  · rw [if_pos given] at loaded
    exact ⟨fun unusable => given unusable.1, .inl ⟨given, (Except.ok.inj loaded).symm⟩⟩
  · rw [if_neg given] at loaded
    simp only at loaded
    cases bool : (valueOf conf values spec).isBool with
    | true => simp [bool] at loaded
    | false =>
        rw [bool, if_neg Bool.false_ne_true] at loaded
        cases float : (valueOf conf values spec).toFloat parse with
        | error raised => simp [float] at loaded
        | ok value =>
            cases value with
            | inf negative => simp [float] at loaded
            | nan => simp [float] at loaded
            | finite x =>
                simp only [float] at loaded
                split at loaded
                · cases loaded
                · next allowed =>
                    have printed := (Except.ok.inj loaded).symm
                    refine ⟨?_, .inr ⟨not_not.mp given, x, ⟨bool, float⟩, printed⟩⟩
                    rintro ⟨-, isBool | ⟨y, same, infinite⟩ | ⟨maximum, y, negative, -, same⟩⟩
                    · rw [bool] at isBool
                      cases isBool
                    · rw [float] at same
                      cases same
                      simp at infinite
                    · rw [float] at same
                      cases same
                      exact allowed ⟨maximum, negative⟩

theorem loadEach_cons_eq_ok {spec : LeverSpec} {rest : List LeverSpec}
    {actions : List (String × String)} :
    loadEach parse str conf values (spec :: rest) = .ok actions ↔
      ∃ text later, loadLeverParameter parse str conf values spec = .ok text ∧
        loadEach parse str conf values rest = .ok later ∧
        actions = (text.map fun text => (spec.target, text)).toList ++ later := by
  cases first : loadLeverParameter parse str conf values spec with
  | error raised => simp [loadEach, first, bind, Except.bind]
  | ok text =>
      cases second : loadEach parse str conf values rest with
      | error raised => simp [loadEach, first, second, bind, Except.bind]
      | ok later => simp [loadEach, first, second, bind, Except.bind, pure, Except.pure, eq_comm]

/-- The actions of the loop set each target once, to what its loop body printed. -/
theorem loadEach_eq_ok {specs : List LeverSpec} {actions : List (String × String)}
    (distinct : (specs.map (·.target)).Nodup)
    (loaded : loadEach parse str conf values specs = .ok actions) :
    (∀ before key, key ∉ specs.map (·.target) →
        actions.foldl setLaunchConfiguration before key = before key) ∧
      ∀ spec ∈ specs, ∃ text, loadLeverParameter parse str conf values spec = .ok text ∧
        ∀ before, actions.foldl setLaunchConfiguration before spec.target =
          text.getD (before spec.target) := by
  induction specs generalizing actions with
  | nil =>
      cases loaded
      exact ⟨fun _ _ _ => rfl, by simp⟩
  | cons spec rest ih =>
      obtain ⟨text, later, first, second, rfl⟩ := loadEach_cons_eq_ok.mp loaded
      rw [List.map_cons, List.nodup_cons] at distinct
      obtain ⟨outside, inside⟩ := ih distinct.2 second
      -- The first action sets the first target, and no later one does.
      have split (before : Configurations) :
          ((text.map fun text => (spec.target, text)).toList ++ later).foldl
              setLaunchConfiguration before =
            later.foldl setLaunchConfiguration
              (Function.update before spec.target (text.getD (before spec.target))) := by
        cases text <;> simp [setLaunchConfiguration]
      constructor
      · intro before key absent
        rw [List.map_cons, List.mem_cons, not_or] at absent
        rw [split, outside _ key absent.2, Function.update_of_ne absent.1]
      · intro other member
        rcases List.mem_cons.mp member with rfl | member
        · refine ⟨text, first, ?_⟩
          intro before
          rw [split, outside _ _ distinct.1, Function.update_self]
        · obtain ⟨found, loadedOther, sets⟩ := inside other member
          have apart : other.target ≠ spec.target := by
            intro same
            exact distinct.1 (same ▸ List.mem_map_of_mem member)
          refine ⟨found, loadedOther, ?_⟩
          intro before
          rw [split, sets, Function.update_of_ne apart]

theorem leverParameterSpecs_distinct : (leverParameterSpecs.map (·.target)).Nodup := by
  decide +kernel

/-- What has been set when `load_lever_parameters` returns. -/
theorem loadLeverParameters_eq_ok {document : Yaml} {actions : List (String × String)}
    (loaded : loadLeverParameters parse str conf document = .ok actions) :
    ∃ values, rosParameters document = .ok values ∧ unknownKeys values = [] ∧
      loadEach parse str conf values leverParameterSpecs = .ok actions := by
  unfold loadLeverParameters at loaded
  cases section_ : rosParameters document with
  | error raised => simp [section_, bind, Except.bind] at loaded
  | ok values =>
      by_cases unknown : unknownKeys values ≠ []
      · simp [section_, unknown, bind, Except.bind] at loaded
      · refine ⟨values, rfl, not_not.mp unknown, ?_⟩
        simpa [section_, unknown, bind, Except.bind] using loaded

/-- The launch sets what `load_lever_parameters` returns, and nothing if it raises. -/
theorem resolveLeverParameters_run (document : Yaml) :
    (resolveLeverParameters parse str document).run conf =
      match loadLeverParameters parse str conf document with
      | .error raised => .error raised conf
      | .ok actions => .ok () (actions.foldl setLaunchConfiguration conf) := by
  have sets (actions : List (String × String)) (before : Configurations) :
      (actions.forM fun action =>
        (modify fun conf => setLaunchConfiguration conf action :
          EStateM Raised Configurations Unit)).run before =
        .ok () (actions.foldl setLaunchConfiguration before) := by
    induction actions generalizing before with
    | nil => rfl
    | cons action rest ih => exact ih (setLaunchConfiguration before action)
  have reads (body : Configurations → EStateM Raised Configurations Unit) :
      (get >>= body).run conf = (body conf).run conf := rfl
  rw [resolveLeverParameters, reads]
  cases loadLeverParameters parse str conf document with
  | error raised => rfl
  | ok actions => exact sets actions conf

end Resolve

end Tb20e.Launch
