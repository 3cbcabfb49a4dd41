/-
# Launch.TuningFile -- what else the launch files read from the controllers file

`load_deadzone` and `load_http_parameters` resolve their values while the launch is
evaluated, before the nodes that take them are started.  An `OpaqueFunction` reads the
launch configurations and either raises or returns the configurations to set;
`opaqueFunction` runs one.

`opaqueFunctions_commute` is about any two of them: if neither sets what the other reads or
sets, their order makes no difference.  The launch files include each other, so the order
in which their functions run is not written down in any of them.
-/
import Tb20e.Launch.LeverParameters
import Tb20e.Gamepad.Node

namespace Tb20e.Launch

set_option autoImplicit false

open Tb20e.Theory
open Tb20e.Theory (Double)

/-! ## Opaque functions -/

/-- What is called with the launch configurations, and returns the ones to set. -/
abbrev Resolve := Configurations → Except Raised (List (String × String))

/-- The configurations after the actions have run. -/
def setAll (conf : Configurations) (actions : List (String × String)) : Configurations :=
  actions.foldl setLaunchConfiguration conf

/-- `OpaqueFunction(function=f)`, with the actions that it returns. -/
def opaqueFunction (f : Resolve) : EStateM Raised Configurations Unit := do
  let conf ← get
  match f conf with
  | .error raised => throw raised
  | .ok actions => set (setAll conf actions)

theorem opaqueFunction_run (f : Resolve) (conf : Configurations) :
    (opaqueFunction f).run conf =
      match f conf with
      | .error raised => .error raised conf
      | .ok actions => .ok () (setAll conf actions) := by
  have reads (body : Configurations → EStateM Raised Configurations Unit) :
      (get >>= body).run conf = (body conf).run conf := rfl
  rw [opaqueFunction, reads]
  cases f conf <;> rfl

/-! ### Two of them -/

theorem setAll_other {actions : List (String × String)} {key : String}
    (other : ∀ action ∈ actions, action.1 ≠ key) (conf : Configurations) :
    setAll conf actions key = conf key := by
  induction actions generalizing conf with
  | nil => rfl
  | cons action rest ih =>
      obtain ⟨head, later⟩ := List.forall_mem_cons.mp other
      exact (ih later _).trans (Function.update_of_ne (Ne.symm head) _ _)

theorem setAll_congr (actions : List (String × String)) {key : String}
    {conf conf' : Configurations} (same : conf key = conf' key) :
    setAll conf actions key = setAll conf' actions key := by
  induction actions generalizing conf conf' with
  | nil => exact same
  | cons action rest ih =>
      refine ih ?_
      by_cases own : key = action.1
      · simp [setLaunchConfiguration, own]
      · simp [setLaunchConfiguration, own, same]

/-- Actions that set different configurations commute. -/
theorem setAll_comm {first second : List (String × String)}
    (apart : ∀ action ∈ first, ∀ other ∈ second, action.1 ≠ other.1) (conf : Configurations) :
    setAll (setAll conf first) second = setAll (setAll conf second) first := by
  funext key
  by_cases inFirst : ∃ action ∈ first, action.1 = key
  · obtain ⟨action, member, rfl⟩ := inFirst
    have notSecond : ∀ other ∈ second, other.1 ≠ action.1 := fun other member' =>
      (apart action member other member').symm
    rw [setAll_other notSecond]
    exact setAll_congr first (setAll_other notSecond conf).symm
  · have notFirst : ∀ action ∈ first, action.1 ≠ key := fun action member same =>
      inFirst ⟨action, member, same⟩
    rw [setAll_other notFirst]
    exact setAll_congr second (setAll_other notFirst conf)

/-- What a function returns depends on these configurations only. -/
def Reads (f : Resolve) (keys : List String) : Prop :=
  ∀ conf conf', (∀ key ∈ keys, conf key = conf' key) → f conf = f conf'

/-- A function sets these configurations only. -/
def Writes (f : Resolve) (keys : List String) : Prop :=
  ∀ conf actions, f conf = .ok actions → ∀ action ∈ actions, action.1 ∈ keys

/-- What a function returns after another one that sets none of what it reads. -/
theorem Reads.after {f g : Resolve} {reads writes : List String} (reading : Reads f reads)
    (writing : Writes g writes) (apart : ∀ key ∈ writes, key ∉ reads) {conf : Configurations}
    {actions : List (String × String)} (ran : g conf = .ok actions) :
    f (setAll conf actions) = f conf := by
  refine reading _ _ fun key member => setAll_other (fun action inside => ?_) conf
  rintro rfl
  exact apart _ (writing conf actions ran action inside) member

/-- One after the other: the second reads what the first has set. -/
theorem opaqueFunctions_run (f g : Resolve) (conf : Configurations) :
    (opaqueFunction f >>= fun _ => opaqueFunction g).run conf =
      match f conf with
      | .error raised => .error raised conf
      | .ok actions => (opaqueFunction g).run (setAll conf actions) := by
  have first : opaqueFunction f conf = _ := opaqueFunction_run f conf
  change EStateM.bind (opaqueFunction f) (fun _ => opaqueFunction g) conf = _
  rw [EStateM.bind, first]
  cases f conf <;> rfl

/-- **Functions that do not interfere commute**: in either order the launch comes to the
same configurations, or raises. -/
theorem opaqueFunctions_commute {f g : Resolve} {readsF writesF readsG writesG : List String}
    (readingF : Reads f readsF) (writingF : Writes f writesF) (readingG : Reads g readsG)
    (writingG : Writes g writesG) (fg : ∀ key ∈ writesF, key ∉ readsG)
    (gf : ∀ key ∈ writesG, key ∉ readsF) (apart : ∀ key ∈ writesF, key ∉ writesG)
    (conf conf' : Configurations) :
    (opaqueFunction f >>= fun _ => opaqueFunction g).run conf = .ok () conf' ↔
      (opaqueFunction g >>= fun _ => opaqueFunction f).run conf = .ok () conf' := by
  rw [opaqueFunctions_run, opaqueFunctions_run]
  cases first : f conf with
  | error raised =>
      cases second : g conf with
      | error raised' => simp
      | ok actions' =>
          simp [opaqueFunction_run, readingF.after writingG gf second, first]
  | ok actions =>
      cases second : g conf with
      | error raised' =>
          simp [opaqueFunction_run, readingG.after writingF fg first, second]
      | ok actions' =>
          simp only [opaqueFunction_run, readingG.after writingF fg first, second,
            readingF.after writingG gf second, first]
          rw [setAll_comm]
          intro action member other member' same
          exact apart _ (writingF conf actions first action member)
            (same ▸ writingG conf actions' second other member')

/-! ## The controllers file -/

/-- The document that a path is read as. -/
abbrev Files := String → Yaml

/-- What a node has in the file under `ros__parameters`. -/
def nodeParameters (document : Yaml) (node : String) : Except Raised Yaml := do
  let entry ← document.get node (.mapping [])
  entry.get "ros__parameters" (.mapping [])

/-! ## `load_deadzone` -/

def deadzoneError : Raised := .valueError "deadzone must satisfy 0 <= deadzone < 1"

/-- The file is only read for `auto`. -/
def deadzoneValue (files : Files) (conf : Configurations) : Except Raised Yaml :=
  if conf "deadzone" = "auto" then do
    let values ← nodeParameters (files (conf "controllers_file")) "/**/tb20e_gamepad"
    values.get "deadzone" (.float (1 / 10 : ℚ))
  else .ok (.str (conf "deadzone"))

def loadDeadzone (parse : String → Option Double) (str : ℚ → String) (files : Files) :
    Resolve := fun conf =>
  match deadzoneValue files conf with
  | .error raised => .error raised
  | .ok value =>
      if value.isBool then .error deadzoneError
      else
        match value.toFloat parse with
        | .error raised => .error raised
        | .ok (.finite x) => if 0 ≤ x ∧ x < 1 then .ok [("deadzone", str x)] else .error deadzoneError
        | .ok _ => .error deadzoneError

section Deadzone

variable {parse : String → Option Double} {str : ℚ → String} {files : Files}
  {conf : Configurations}

/-- The argument, the file or the default gives this number for the deadzone. -/
def GivesDeadzone (parse : String → Option Double) (files : Files) (conf : Configurations)
    (x : ℚ) : Prop :=
  ∃ value, deadzoneValue files conf = .ok value ∧ value.isBool = false ∧
    value.toFloat parse = .ok (Double.finite x)

theorem GivesDeadzone.unique {x y : ℚ} (first : GivesDeadzone parse files conf x)
    (second : GivesDeadzone parse files conf y) : x = y := by
  obtain ⟨value, given, -, float⟩ := first
  obtain ⟨value', given', -, float'⟩ := second
  obtain rfl := Except.ok.inj (given.symm.trans given')
  simpa [float] using float'

/-- `load_deadzone` of a number. -/
theorem loadDeadzone_of_gives {x : ℚ} (gives : GivesDeadzone parse files conf x) :
    loadDeadzone parse str files conf =
      if 0 ≤ x ∧ x < 1 then .ok [("deadzone", str x)] else .error deadzoneError := by
  obtain ⟨value, given, bool, float⟩ := gives
  simp only [loadDeadzone, given, bool, float, Bool.false_eq_true, if_false]

/-- `load_deadzone` raises for anything else. -/
theorem gives_of_loadDeadzone {actions : List (String × String)}
    (returned : loadDeadzone parse str files conf = .ok actions) :
    ∃ x, GivesDeadzone parse files conf x := by
  unfold loadDeadzone at returned
  cases given : deadzoneValue files conf with
  | error raised => simp [given] at returned
  | ok value =>
      cases bool : value.isBool with
      | true => simp [given, bool] at returned
      | false =>
          cases float : value.toFloat parse with
          | error raised => simp [given, bool, float] at returned
          | ok number =>
              cases number with
              | inf negative => simp [given, bool, float] at returned
              | nan => simp [given, bool, float] at returned
              | finite x => exact ⟨x, value, given, bool, float⟩

/-- `load_deadzone` returns for a number in its range and sets the deadzone to its text. -/
theorem loadDeadzone_eq_ok {actions : List (String × String)} :
    loadDeadzone parse str files conf = .ok actions ↔
      ∃ x, GivesDeadzone parse files conf x ∧ (0 ≤ x ∧ x < 1) ∧ actions = [("deadzone", str x)] := by
  constructor
  · intro returned
    obtain ⟨x, gives⟩ := gives_of_loadDeadzone returned
    rw [loadDeadzone_of_gives gives] at returned
    split at returned
    · next range => exact ⟨x, gives, range, (Except.ok.inj returned).symm⟩
    · cases returned
  · rintro ⟨x, gives, range, rfl⟩
    rw [loadDeadzone_of_gives gives, if_pos range]

/-- Parameters of the gamepad node with this deadzone. -/
def withDeadzone (params : Gamepad.Parameters) (deadzone : Double) : Gamepad.Parameters :=
  { params with mapping := { params.mapping with deadzone := deadzone } }

/-- The node refuses a deadzone in the words of the launch file. -/
theorem validateParameters_withDeadzone {params : Gamepad.Parameters}
    (accepted : Gamepad.validateParameters params = .ok ()) (x : ℚ) :
    Gamepad.validateParameters (withDeadzone params (Double.finite x)) =
      if 0 ≤ x ∧ x < 1 then .ok () else .error "deadzone must satisfy 0 <= deadzone < 1" := by
  simp only [Gamepad.validateParameters, Gamepad.bind_eq_ok, Gamepad.require_eq_ok] at accepted
  obtain ⟨indices, scales, -, joy, hold, rate, sim, swing, boom, arm, bucket⟩ := accepted
  have check : ((Double.finite x).isFinite && decide (0 ≤ Double.finite x) &&
      decide (Double.finite x < 1)) = decide (0 ≤ x ∧ x < 1) := by
    simp
  by_cases range : 0 ≤ x ∧ x < 1
  · rw [if_pos range]
    simp only [Gamepad.validateParameters, Gamepad.bind_eq_ok, Gamepad.require_eq_ok]
    exact ⟨indices, scales, check.trans (decide_eq_true range), joy, hold, rate, sim, swing, boom,
      arm, bucket⟩
  · rw [if_neg range]
    have passes {x y : Gamepad.Validate} (passed : x = .ok ()) : (x >>= fun _ => y) = y := by
      rw [passed]
      rfl
    calc Gamepad.validateParameters (withDeadzone params (Double.finite x))
        = Gamepad.require ((Double.finite x).isFinite && decide (0 ≤ Double.finite x) &&
              decide (Double.finite x < 1)) "deadzone must satisfy 0 <= deadzone < 1" >>= _ :=
          (passes (Gamepad.require_eq_ok.mpr indices)).trans
            (passes (Gamepad.require_eq_ok.mpr scales))
      _ = .error "deadzone must satisfy 0 <= deadzone < 1" := by
          rw [check, decide_eq_false range]
          rfl

/-- Running `load_deadzone` on what it has set. -/
theorem loadDeadzone_again {x : ℚ} (range : 0 ≤ x ∧ x < 1) (resolved : conf "deadzone" = str x)
    (given : str x ≠ "auto") (reads : parse (str x) = some (Double.finite x)) :
    loadDeadzone parse str files conf = .ok [("deadzone", str x)] := by
  refine loadDeadzone_eq_ok.mpr ⟨x, ⟨.str (str x), ?_, rfl, ?_⟩, range, rfl⟩
  · rw [deadzoneValue, resolved, if_neg given]
  · simp only [Yaml.toFloat, reads]

/-- **The launch file and the gamepad node agree on the deadzone.**  Let the node accept
its other parameters.  What gives no number makes the launch raise, and if it raises it has
set nothing.  A number makes it raise exactly when the node would refuse that number as its
deadzone, and in the node's words.  If the node would take it, the launch sets the deadzone
to the text of the number and nothing else, and resolving again, from there, leaves
everything as it is. -/
theorem deadzone_resolution_agrees {params : Gamepad.Parameters}
    (accepted : Gamepad.validateParameters params = .ok ())
    (printed : ∀ x, GivesDeadzone parse files conf x → str x ≠ "auto" ∧
      parse (str x) = some (Double.finite x)) :
    (∀ raised after, (opaqueFunction (loadDeadzone parse str files)).run conf =
        .error raised after → after = conf) ∧
    ((¬ ∃ x, GivesDeadzone parse files conf x) →
      ∃ raised, (opaqueFunction (loadDeadzone parse str files)).run conf = .error raised conf) ∧
    ∀ x, GivesDeadzone parse files conf x →
      (∀ text, Gamepad.validateParameters (withDeadzone params (Double.finite x)) = .error text ↔
        (opaqueFunction (loadDeadzone parse str files)).run conf =
          .error (.valueError text) conf) ∧
      (Gamepad.validateParameters (withDeadzone params (Double.finite x)) = .ok () ↔
        ∃ after, (opaqueFunction (loadDeadzone parse str files)).run conf = .ok () after) ∧
      ∀ after, (opaqueFunction (loadDeadzone parse str files)).run conf = .ok () after →
        parse (after "deadzone") = some (Double.finite x) ∧
        (∀ key ≠ "deadzone", after key = conf key) ∧
        (opaqueFunction (loadDeadzone parse str files)).run after = .ok () after := by
  simp only [opaqueFunction_run]
  refine ⟨?_, ?_, ?_⟩
  · intro raised after ran
    cases returned : loadDeadzone parse str files conf with
    | error raised' =>
        rw [returned] at ran
        exact (EStateM.Result.error.inj ran).2.symm
    | ok actions => simp [returned] at ran
  · intro nothing
    cases returned : loadDeadzone parse str files conf with
    | error raised => exact ⟨raised, rfl⟩
    | ok actions => exact absurd (gives_of_loadDeadzone returned) nothing
  · intro x gives
    rw [validateParameters_withDeadzone accepted, loadDeadzone_of_gives gives]
    by_cases range : 0 ≤ x ∧ x < 1
    · simp only [if_pos range, reduceCtorEq, implies_true, true_and, true_iff]
      refine ⟨⟨_, rfl⟩, ?_⟩
      rintro _ ⟨⟩
      have resolved : setAll conf [("deadzone", str x)] "deadzone" = str x := by
        simp [setAll, setLaunchConfiguration]
      have reads := (printed x gives).2
      rw [loadDeadzone_again range resolved (printed x gives).1 reads, resolved]
      refine ⟨reads, ?_, ?_⟩
      · intro key other
        exact setAll_other (by simpa using other.symm) conf
      · exact congrArg _ (Function.update_idem (str x) (str x) conf)
    · simp [range, deadzoneError]

end Deadzone

/-- The numbers of `tunedFile`, as they are written and read. -/
def tunedNumbers : List (String × ℚ) :=
  [("0.0", 0), ("0.3", 3 / 10), ("0.5", 1 / 2), ("0.75", 3 / 4), ("12.0", 12)]

def readTuned (text : String) : Option Double := (tunedNumbers.lookup text).map Double.finite

def printTuned (x : ℚ) : String :=
  ((tunedNumbers.find? fun entry => entry.2 = x).map (·.1)).getD ""

/-- A controllers file with a deadzone and one of the parameters of the bridge. -/
def tunedFile : Yaml :=
  .mapping [
    (.str "/**/tb20e_gamepad",
      .mapping [(.str "ros__parameters", .mapping [(.str "deadzone", .float (3 / 10 : ℚ))])]),
    (.str "/**/scratch_hci_bridge",
      .mapping [(.str "ros__parameters", .mapping [(.str "swing_default_speed_deg_s", .int 12)])])]

def autoArguments : Configurations := fun _ => "auto"

theorem deadzone_resolution_agrees_tuned :
    ∃ after, (opaqueFunction (loadDeadzone readTuned printTuned fun _ => tunedFile)).run
        autoArguments = .ok () after ∧
      Gamepad.validateParameters (withDeadzone {} (Double.finite (3 / 10))) = .ok () ∧
      readTuned (after "deadzone") = some (Double.finite (3 / 10)) ∧
      (∀ key ≠ "deadzone", after key = "auto") ∧
      (opaqueFunction (loadDeadzone readTuned printTuned fun _ => tunedFile)).run after =
        .ok () after := by
  have gives : GivesDeadzone readTuned (fun _ => tunedFile) autoArguments (3 / 10) :=
    ⟨.float (3 / 10 : ℚ), rfl, rfl, rfl⟩
  have ran : (opaqueFunction (loadDeadzone readTuned printTuned fun _ => tunedFile)).run
      autoArguments = .ok () (setAll autoArguments [("deadzone", printTuned (3 / 10))]) := by
    rw [opaqueFunction_run, loadDeadzone_eq_ok.mpr ⟨3 / 10, gives, by norm_num, rfl⟩]
  have printed : ∀ x, GivesDeadzone readTuned (fun _ => tunedFile) autoArguments x →
      printTuned x ≠ "auto" ∧ readTuned (printTuned x) = some (Double.finite x) := by
    intro x given
    obtain rfl := gives.unique given
    decide +kernel
  obtain ⟨-, takes, resolves⟩ := (deadzone_resolution_agrees
    (Gamepad.validateParameters_default false) printed).2.2 _ gives
  exact ⟨_, ran, takes.mpr ⟨_, ran⟩, resolves _ ran⟩

/-! ## `load_http_parameters` -/

/-- One entry of `HTTP_PARAMETER_DEFAULTS`. -/
structure HttpParameter where
  name : String
  defaultValue : ℚ

def httpParameterDefaults : List HttpParameter :=
  (["swing", "boom", "arm", "bucket"].map fun joint =>
      { name := joint ++ "_default_speed_deg_s", defaultValue := 0 }) ++
    [{ name := "trajectory_goal_tolerance_deg", defaultValue := 3 / 4 },
      { name := "trajectory_stopped_velocity_deg_s", defaultValue := 1 / 2 }]

namespace HttpParameter

def allowsZero (parameter : HttpParameter) : Bool :=
  parameter.name.endsWith "_default_speed_deg_s"

def requirement (parameter : HttpParameter) : String :=
  if parameter.allowsZero then "non-negative" else "positive"

def complaint (parameter : HttpParameter) : Raised :=
  .valueError (parameter.name ++ " must be a " ++ parameter.requirement ++ " finite number")

/-- The launch configuration that takes the parameter. -/
def target (parameter : HttpParameter) : String := "http_" ++ parameter.name

end HttpParameter

/-- A value that is an integer or a float, and no boolean. -/
def Yaml.number : Yaml → Option (Except Raised Double)
  | .int value => some (floatOfInt value)
  | .float value => some (.ok value)
  | _ => none

/-- The loop body. -/
def loadHttpParameter (str : ℚ → String) (values : List (Yaml × Yaml))
    (parameter : HttpParameter) : Except Raised (String × String) :=
  match (Yaml.lookup values parameter.name (.float parameter.defaultValue)).number with
  | none => .error parameter.complaint
  -- `math.isfinite` makes a float of an integer first.
  | some (.error raised) => .error raised
  | some (.ok (.finite x)) =>
      if x < 0 ∨ (x = 0 ∧ !parameter.allowsZero) then .error parameter.complaint
      else .ok (parameter.target, str x)
  | some (.ok _) => .error parameter.complaint

def loadHttpParameters (str : ℚ → String) (files : Files) : Resolve := fun conf => do
  match ← nodeParameters (files (conf "controllers_file")) "/**/scratch_hci_bridge" with
  | .mapping values => httpParameterDefaults.mapM (loadHttpParameter str values)
  | _ => .error (.valueError "scratch_hci_bridge.ros__parameters must be a mapping")

section Http

variable {str : ℚ → String} {files : Files} {conf : Configurations} {values : List (Yaml × Yaml)}

/-- The file or the default gives this number for a parameter, and it is one that the
parameter can take. -/
def GivesHttp (values : List (Yaml × Yaml)) (parameter : HttpParameter) (x : ℚ) : Prop :=
  (Yaml.lookup values parameter.name (.float parameter.defaultValue)).number.bind
      Except.toOption = some (Double.finite x) ∧
    0 ≤ x ∧ (x = 0 → parameter.allowsZero)

/-- The exception for a parameter that is not given a number it can take: its own, or that of
an integer too large for a double. -/
def HttpParameter.exception (values : List (Yaml × Yaml)) (parameter : HttpParameter) : Raised :=
  match Yaml.lookup values parameter.name (.float parameter.defaultValue) with
  | .int value => if value.natAbs < doubleOverflow then parameter.complaint else .overflowError
  | _ => parameter.complaint

instance (values : List (Yaml × Yaml)) (parameter : HttpParameter) (x : ℚ) :
    Decidable (GivesHttp values parameter x) :=
  inferInstanceAs (Decidable (_ ∧ _ ∧ _))

theorem GivesHttp.unique {parameter : HttpParameter} {x y : ℚ}
    (first : GivesHttp values parameter x) (second : GivesHttp values parameter y) : x = y := by
  simpa using first.1.symm.trans second.1

theorem HttpParameter.exception_eq (values : List (Yaml × Yaml)) (parameter : HttpParameter) :
    parameter.exception values =
      match (Yaml.lookup values parameter.name (.float parameter.defaultValue)).number with
      | some (.error raised) => raised
      | _ => parameter.complaint := by
  unfold exception
  cases Yaml.lookup values parameter.name (.float parameter.defaultValue) with
  | int value =>
      by_cases small : value.natAbs < doubleOverflow <;> simp [Yaml.number, floatOfInt, small]
  | null | bool | float | str | sequence | mapping | other => rfl

/-- **The loop body** raises unless its parameter is given a number that it can take. -/
theorem loadHttpParameter_eq (str : ℚ → String) (values : List (Yaml × Yaml))
    (parameter : HttpParameter) :
    (∃ x, GivesHttp values parameter x ∧
        loadHttpParameter str values parameter = .ok (parameter.target, str x)) ∨
      ((∀ x, ¬ GivesHttp values parameter x) ∧
        loadHttpParameter str values parameter = .error (parameter.exception values)) := by
  rw [HttpParameter.exception_eq]
  unfold loadHttpParameter GivesHttp
  cases (Yaml.lookup values parameter.name (.float parameter.defaultValue)).number with
  | none => simp
  | some float =>
      cases float with
      | error raised => simp [Except.toOption]
      | ok number =>
          cases number with
          | inf negative => simp [Except.toOption]
          | nan => simp [Except.toOption]
          | finite x =>
              simp only [Option.bind_some, Except.toOption, Option.some.injEq, Double.finite.injEq]
              by_cases refused : x < 0 ∨ (x = 0 ∧ !parameter.allowsZero)
              · refine .inr ⟨?_, if_pos refused⟩
                rintro _ ⟨rfl, nonneg, zero⟩
                rcases refused with negative | ⟨isZero, never⟩
                · exact absurd nonneg (not_le.mpr negative)
                · simp [zero isZero] at never
              · refine .inl ⟨x, ⟨rfl, ?_⟩, if_neg refused⟩
                rw [not_or, not_lt, not_and] at refused
                exact ⟨refused.1, fun isZero => by simpa using refused.2 isZero⟩

/-- **The loop** sets each parameter's target once, to the text of its number. -/
theorem loadHttpEach_eq_ok {parameters : List HttpParameter} {actions : List (String × String)}
    (distinct : (parameters.map (·.target)).Nodup)
    (loaded : parameters.mapM (loadHttpParameter str values) = .ok actions) :
    (∀ action ∈ actions, action.1 ∈ parameters.map (·.target)) ∧
      ∀ parameter ∈ parameters, ∃ x, GivesHttp values parameter x ∧
        ∀ before, setAll before actions parameter.target = str x := by
  induction parameters generalizing actions with
  | nil =>
      obtain rfl : [] = actions := Except.ok.inj loaded
      simp
  | cons parameter rest ih =>
      rw [List.map_cons, List.nodup_cons] at distinct
      rw [List.mapM_cons] at loaded
      rcases loadHttpParameter_eq str values parameter with
        ⟨x, gives, first⟩ | ⟨-, first⟩
      · cases second : rest.mapM (loadHttpParameter str values) with
        | error raised => simp [first, second, bind, Except.bind] at loaded
        | ok later =>
            obtain rfl : (parameter.target, str x) :: later = actions := by
              simpa [first, second, bind, Except.bind, pure, Except.pure] using loaded
            obtain ⟨inside, sets⟩ := ih distinct.2 second
            refine ⟨?_, ?_⟩
            · intro action member
              rcases List.mem_cons.mp member with rfl | member
              · exact List.mem_cons_self
              · exact List.mem_cons_of_mem _ (inside action member)
            · rintro other member
              rcases List.mem_cons.mp member with rfl | member
              · refine ⟨x, gives, fun before => ?_⟩
                -- No later action sets the same target.
                have apart : ∀ action ∈ later, action.1 ≠ other.target := by
                  intro action member same
                  exact distinct.1 (same ▸ inside action member)
                have kept := setAll_other apart
                exact (kept _).trans (by simp [setLaunchConfiguration])
              · obtain ⟨y, givesOther, sets⟩ := sets other member
                exact ⟨y, givesOther, fun before => sets _⟩
      · simp [first, bind, Except.bind] at loaded

/-- The loop raises at the first parameter that is not given a number it can take. -/
theorem loadHttpEach_error {before after : List HttpParameter} {parameter : HttpParameter}
    (usable : ∀ earlier ∈ before, ∃ x, GivesHttp values earlier x)
    (unusable : ∀ x, ¬ GivesHttp values parameter x) :
    (before ++ parameter :: after).mapM (loadHttpParameter str values) =
      .error (parameter.exception values) := by
  induction before with
  | nil =>
      rcases loadHttpParameter_eq str values parameter with
        ⟨x, gives, -⟩ | ⟨-, raises⟩
      · exact absurd gives (unusable x)
      · rw [List.nil_append, List.mapM_cons, raises]
        rfl
  | cons earlier rest ih =>
      obtain ⟨given, later⟩ := List.forall_mem_cons.mp usable
      rcases loadHttpParameter_eq str values earlier with
        ⟨x, -, returns⟩ | ⟨never, -⟩
      · rw [List.cons_append, List.mapM_cons, returns, ih later]
        rfl
      · exact absurd given.choose_spec (never _)

theorem loadHttpEach_usable (str : ℚ → String) {parameters : List HttpParameter}
    (usable : ∀ parameter ∈ parameters, ∃ x, GivesHttp values parameter x) :
    ∃ actions, parameters.mapM (loadHttpParameter str values) = .ok actions := by
  induction parameters with
  | nil => exact ⟨[], rfl⟩
  | cons parameter rest ih =>
      obtain ⟨⟨x, gives⟩, later⟩ := List.forall_mem_cons.mp usable
      obtain ⟨actions, loaded⟩ := ih later
      rcases loadHttpParameter_eq str values parameter with
        ⟨y, -, returns⟩ | ⟨never, -⟩
      · exact ⟨_, by rw [List.mapM_cons, returns, loaded]; rfl⟩
      · exact absurd gives (never x)

theorem loadHttpParameters_of_mapping
    (has : nodeParameters (files (conf "controllers_file")) "/**/scratch_hci_bridge" =
      .ok (.mapping values)) :
    loadHttpParameters str files conf =
      httpParameterDefaults.mapM (loadHttpParameter str values) := by
  simp [loadHttpParameters, has, bind, Except.bind]

theorem httpParameterDefaults_distinct : (httpParameterDefaults.map (·.target)).Nodup := by
  decide +kernel

/-- A list in which not every element has a property has a first one that lacks it. -/
theorem exists_first {α : Type} {P : α → Prop} {items : List α} (lacking : ∃ a ∈ items, ¬ P a) :
    ∃ before a after, items = before ++ a :: after ∧ (∀ b ∈ before, P b) ∧ ¬ P a := by
  induction items with
  | nil => simp at lacking
  | cons head rest ih =>
      by_cases holds : P head
      · obtain ⟨a, member, lacks⟩ := lacking
        rcases List.mem_cons.mp member with rfl | member
        · exact absurd holds lacks
        · obtain ⟨before, b, after, rfl, earlier, lacksB⟩ := ih ⟨a, member, lacks⟩
          exact ⟨head :: before, b, after, rfl, List.forall_mem_cons.mpr ⟨holds, earlier⟩, lacksB⟩
      · exact ⟨[], head, rest, rfl, by simp, holds⟩

/-- **The parameters of the HTTP bridge.**  If the entry of the bridge is no mapping, or
one of the six parameters is not given a number it can take, the launch raises and has set
nothing; the exception names the first such parameter, or is that of an integer too large
for a double.  Otherwise it has set the six arguments of the bridge to their numbers and
nothing else, and loading again, from there, leaves everything as it is. -/
theorem http_parameters_resolved {entry : Yaml}
    (has : nodeParameters (files (conf "controllers_file")) "/**/scratch_hci_bridge" =
      .ok entry) :
    ((∀ values, entry ≠ .mapping values) →
      (opaqueFunction (loadHttpParameters str files)).run conf =
        .error (.valueError "scratch_hci_bridge.ros__parameters must be a mapping") conf) ∧
    ∀ values, entry = .mapping values →
      ((∃ before parameter after, httpParameterDefaults = before ++ parameter :: after ∧
          (∀ earlier ∈ before, ∃ x, GivesHttp values earlier x) ∧
          (¬ ∃ x, GivesHttp values parameter x) ∧
          (opaqueFunction (loadHttpParameters str files)).run conf =
            .error (parameter.exception values) conf) ∨
        ∃ after, (opaqueFunction (loadHttpParameters str files)).run conf = .ok () after ∧
          (∀ parameter ∈ httpParameterDefaults, ∃ x, GivesHttp values parameter x ∧
            after parameter.target = str x) ∧
          (∀ key ∉ httpParameterDefaults.map (·.target), after key = conf key) ∧
          (opaqueFunction (loadHttpParameters str files)).run after = .ok () after) := by
  simp only [opaqueFunction_run]
  refine ⟨?_, ?_⟩
  · intro other
    cases entry with
    | mapping values => exact absurd rfl (other values)
    | _ => simp [loadHttpParameters, has, bind, Except.bind]
  · rintro values rfl
    rw [loadHttpParameters_of_mapping has]
    by_cases usable : ∀ parameter ∈ httpParameterDefaults, ∃ x, GivesHttp values parameter x
    · obtain ⟨actions, loaded⟩ := loadHttpEach_usable str usable
      obtain ⟨inside, sets⟩ := loadHttpEach_eq_ok httpParameterDefaults_distinct loaded
      have outside (before : Configurations) (key : String)
          (absent : key ∉ httpParameterDefaults.map (·.target)) :
          setAll before actions key = before key :=
        setAll_other (fun action member same => absent (same ▸ inside action member)) before
      refine .inr ⟨setAll conf actions, by rw [loaded], ?_, outside conf, ?_⟩
      · intro parameter member
        obtain ⟨x, gives, sets⟩ := sets parameter member
        exact ⟨x, gives, sets conf⟩
      · -- The path of the file is not among the arguments that have been set.
        have path := outside conf "controllers_file" (by decide +kernel)
        rw [loadHttpParameters_of_mapping (path.symm ▸ has), loaded]
        refine congrArg (EStateM.Result.ok ()) (funext fun key => ?_)
        by_cases target : key ∈ httpParameterDefaults.map (·.target)
        · obtain ⟨parameter, member, rfl⟩ := List.mem_map.mp target
          obtain ⟨x, -, sets⟩ := sets parameter member
          rw [sets, sets]
        · exact outside _ key target
    · push Not at usable
      obtain ⟨before, parameter, after, split, earlier, lacks⟩ :=
        exists_first (P := fun parameter => ∃ x, GivesHttp values parameter x)
          (by simpa using usable)
      refine .inl ⟨before, parameter, after, split, earlier, lacks, ?_⟩
      rw [split, loadHttpEach_error earlier (not_exists.mp lacks)]

end Http

/-- The parameters of the bridge in `tunedFile`. -/
def tunedEntries : List (Yaml × Yaml) := [(.str "swing_default_speed_deg_s", .int 12)]

theorem http_parameters_resolved_tuned :
    ∃ after, (opaqueFunction (loadHttpParameters printTuned fun _ => tunedFile)).run
        autoArguments = .ok () after ∧
      after "http_swing_default_speed_deg_s" = "12.0" ∧
      after "http_trajectory_goal_tolerance_deg" = "0.75" ∧ after "swing_lever_max" = "auto" := by
  have usable : ∀ parameter ∈ httpParameterDefaults, ∃ x ∈ tunedNumbers.map (·.2),
      GivesHttp tunedEntries parameter x := by
    decide +kernel
  rcases (@http_parameters_resolved printTuned (fun _ => tunedFile) autoArguments
    (.mapping tunedEntries) rfl).2 _ rfl with
    ⟨before, parameter, after, split, -, lacks, -⟩ | ⟨after, ran, sets, kept, -⟩
  · obtain ⟨x, -, gives⟩ := usable parameter (by simp [split])
    exact absurd ⟨x, gives⟩ lacks
  · have speed : GivesHttp tunedEntries ⟨"swing_default_speed_deg_s", 0⟩ 12 := by decide +kernel
    have tolerance : GivesHttp tunedEntries ⟨"trajectory_goal_tolerance_deg", 3 / 4⟩ (3 / 4) := by
      decide +kernel
    obtain ⟨x, givesX, setX⟩ := sets ⟨"swing_default_speed_deg_s", 0⟩ (by
      simp [httpParameterDefaults])
    obtain ⟨y, givesY, setY⟩ := sets ⟨"trajectory_goal_tolerance_deg", 3 / 4⟩ (by
      simp [httpParameterDefaults])
    obtain rfl := speed.unique givesX
    obtain rfl := tolerance.unique givesY
    exact ⟨after, ran, setX.trans (by decide +kernel), setY.trans (by decide +kernel),
      kept _ (by decide +kernel)⟩

/-! ## The functions of one launch -/

section Apart

variable (parse : String → Option Double) (str : ℚ → String) (files : Files)

/-- `load_lever_parameters`, which reads the same file. -/
def leverFunction : Resolve := fun conf =>
  loadLeverParameters parse str conf (files (conf "controllers_file"))

/-- The arguments that `load_lever_parameters` looks at. -/
def leverReads : List String :=
  "controllers_file" :: leverParameterSpecs.map (·.name) ++ autoXacroArguments

theorem loadEach_congr {conf conf' : Configurations} (values : List (Yaml × Yaml))
    {specs : List LeverSpec}
    (same : ∀ spec ∈ specs, conf spec.name = conf' spec.name ∧ conf spec.target = conf' spec.target) :
    loadEach parse str conf values specs = loadEach parse str conf' values specs := by
  induction specs with
  | nil => rfl
  | cons spec rest ih =>
      obtain ⟨⟨name, target⟩, later⟩ := List.forall_mem_cons.mp same
      have first : loadLeverParameter parse str conf values spec =
          loadLeverParameter parse str conf' values spec := by
        have value : valueOf conf values spec = valueOf conf' values spec := by
          rw [valueOf, valueOf, name]
        rw [loadLeverParameter, loadLeverParameter, value, target]
      simp only [loadEach, first, ih later]

theorem leverFunction_reads : Reads (leverFunction parse str files) leverReads := by
  intro conf conf' same
  have path := same "controllers_file" List.mem_cons_self
  have args (values : List (Yaml × Yaml)) := loadEach_congr parse str values
    fun spec (member : spec ∈ leverParameterSpecs) =>
      ⟨same spec.name (by simp [leverReads, List.mem_map_of_mem member]),
        same spec.target (by simp [leverReads, autoXacroArguments, List.mem_map_of_mem member])⟩
  simp only [leverFunction, loadLeverParameters, path, args]

theorem leverFunction_writes : Writes (leverFunction parse str files) autoXacroArguments := by
  intro conf actions returned
  obtain ⟨values, -, -, loaded⟩ := loadLeverParameters_eq_ok returned
  clear returned
  unfold autoXacroArguments
  generalize leverParameterSpecs = specs at loaded ⊢
  induction specs generalizing actions with
  | nil =>
      obtain rfl : [] = actions := Except.ok.inj loaded
      simp
  | cons spec rest ih =>
      obtain ⟨text, later, -, second, rfl⟩ := loadEach_cons_eq_ok.mp loaded
      intro action member
      rcases List.mem_append.mp member with member | member
      · obtain ⟨shown, -, rfl⟩ : ∃ shown, text = some shown ∧ (spec.target, shown) = action := by
          simpa using member
        exact List.mem_cons_self
      · exact List.mem_cons_of_mem _ (ih later second action member)

theorem loadDeadzone_reads :
    Reads (loadDeadzone parse str files) ["deadzone", "controllers_file"] := by
  intro conf conf' same
  have argument := same "deadzone" (by simp)
  have path := same "controllers_file" (by simp)
  simp only [loadDeadzone, deadzoneValue, argument, path]

theorem loadDeadzone_writes : Writes (loadDeadzone parse str files) ["deadzone"] := by
  intro conf actions returned
  obtain ⟨x, -, -, rfl⟩ := loadDeadzone_eq_ok.mp returned
  simp

theorem loadHttpParameters_reads : Reads (loadHttpParameters str files) ["controllers_file"] := by
  intro conf conf' same
  have path := same "controllers_file" (by simp)
  simp only [loadHttpParameters, path]

theorem loadHttpParameters_writes :
    Writes (loadHttpParameters str files) (httpParameterDefaults.map (·.target)) := by
  intro conf actions returned
  unfold loadHttpParameters at returned
  cases has : nodeParameters (files (conf "controllers_file")) "/**/scratch_hci_bridge" with
  | error raised => simp [has, bind, Except.bind] at returned
  | ok entry =>
      cases entry with
      | mapping values =>
          rw [has] at returned
          exact (loadHttpEach_eq_ok httpParameterDefaults_distinct returned).1
      | _ => simp [has, bind, Except.bind] at returned

/-- **The functions of a launch commute.**  A launch for the gamepad resolves the deadzone
and the lever parameters, one for HTTP the lever parameters and those of the bridge.  In
either order it comes to the same configurations, or raises. -/
theorem launch_functions_commute (conf conf' : Configurations) :
    ((opaqueFunction (loadDeadzone parse str files) >>= fun _ =>
          opaqueFunction (leverFunction parse str files)).run conf = .ok () conf' ↔
        (opaqueFunction (leverFunction parse str files) >>= fun _ =>
          opaqueFunction (loadDeadzone parse str files)).run conf = .ok () conf') ∧
      ((opaqueFunction (leverFunction parse str files) >>= fun _ =>
          opaqueFunction (loadHttpParameters str files)).run conf = .ok () conf' ↔
        (opaqueFunction (loadHttpParameters str files) >>= fun _ =>
          opaqueFunction (leverFunction parse str files)).run conf = .ok () conf') := by
  constructor
  · exact opaqueFunctions_commute (loadDeadzone_reads parse str files)
      (loadDeadzone_writes parse str files) (leverFunction_reads parse str files)
      (leverFunction_writes parse str files) (by decide +kernel) (by decide +kernel)
      (by decide +kernel) conf conf'
  · exact opaqueFunctions_commute (leverFunction_reads parse str files)
      (leverFunction_writes parse str files) (loadHttpParameters_reads str files)
      (loadHttpParameters_writes str files) (by decide +kernel) (by decide +kernel)
      (by decide +kernel) conf conf'

end Apart

end Tb20e.Launch
