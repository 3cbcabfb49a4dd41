/-
# Bringup.LeverOrigin -- no lever moves but by an armed stick

`Originates` is what holds of a rig in every reachable state: the commands under way, the
commands the controller has seen and the efforts in the hardware are all commands of ticks
that have been (`Commanded`), and every nonzero lever message ever published was made from
one (`Moving`).  A command that is not zero is from an armed gate and a stick that is
pushed, by `Gamepad.JoyOrigin`; the lever has the direction of the stick.

Commands may be lost or wait for any time, and the two threads of the hardware interleave
as they like: an old command can reach a lever late, but none reaches one that no stick
has given.
-/
import Tb20e.Bringup.CommandPath
import Tb20e.Gamepad.JoyOrigin
import Tb20e.Hardware.LeverSupply

namespace Tb20e.Bringup

set_option autoImplicit false

open Tb20e.Theory Tb20e.Control
open Tb20e.Theory (Double)

/-! ## The wiring of the controller -/

/-- The interface of every joint of the controller points at the effort of its axis. -/
def Reaches (handles : List Hardware.Handle) : Prop :=
  ∀ axis, effortAxis handles (Hardware.defaultAxisConfigs axis).jointName = some axis

/-- What `on_init` exports reaches every axis, in whatever order the joints are described. -/
theorem reaches_of_onInit {stod : Hardware.Stod} {baseOk : Bool} {info : Hardware.HardwareInfo}
    {P : Hardware.Parameters} {indices : List Axis} {hw : Hardware.LeverHardware}
    (init : Hardware.onInit stod baseOk info = .ok (P, indices, hw)) :
    Reaches (Hardware.exportCommandInterfaces info.joints indices) := by
  intro axis
  obtain ⟨loaded, -, -⟩ := Hardware.onInit_eq_ok init
  have wired := Hardware.onInit_wired init
  have member : axis ∈ indices := wired.permutation.mem_iff.mpr (mem_axes axis)
  obtain ⟨position, inside, rfl⟩ := List.getElem_of_mem member
  obtain ⟨name, effort, -⟩ := wired.own.get (wired.own.length_eq ▸ inside) inside
  simp only [List.get_eq_getElem] at name effort
  rw [(Hardware.loadHardwareParameters_valid loaded).jointName_eq] at name
  rw [name]
  -- Among the interfaces of that joint there is just the one.
  have found := congrArg (List.find? fun handle => handle.interfaceName = Hardware.kEffort) effort
  rw [List.find?_filter] at found
  simp only [decide_eq_true_eq] at found
  rw [effortAxis, found]
  simp

theorem forwarded_axes (f : Axis → Double) :
    forwarded gamepadControllerJoints (some (axes.map f)) =
      axes.map fun axis => ((Hardware.defaultAxisConfigs axis).jointName, f axis) := rfl

/-! ## Where everything in the rig is from -/

section Origin

variable {κ : Type} (B : Setup κ)

/-- A tick that has been has commanded this. -/
def Commanded (past : List (Time × Event)) (command : Axis → Double) : Prop :=
  ∃ before now, before ++ [(now, .tick)] <+: nodeEvents past ∧
    command = Gamepad.referenceCommand B.node (Gamepad.joyHistory before) now

def Sent (past : List (Time × Event)) (sent : Command) : Prop :=
  ∃ command, Commanded B past command ∧ sent = axes.map command

/-- An effort that is zero or has been commanded for its axis. -/
def Given (past : List (Time × Event)) (axis : Axis) (effort : Double) : Prop :=
  effort = 0 ∨ ∃ command, Commanded B past command ∧ effort = command axis

/-- A lever message made from a command. -/
def Moving (past : List (Time × Event)) (call : Hardware.Attempt) : Prop :=
  ∃ (command : Axis → Double) (effort : ℚ) (direction : ℤ), Commanded B past command ∧
    command call.axis = effort ∧
    let config := B.hardware.axisConfigs call.axis
    call.data = Double.finite (config.lever (config.bounded effort) direction).1

structure Originates (past : List (Time × Event)) (σ : Rig κ) : Prop where
  node : Gamepad.Simulates B.node (Gamepad.joyHistory (nodeEvents past)) σ.node
  inFlight : ∀ sent ∈ σ.inFlight, Sent B past sent
  controller : ∃ history : List Command,
    σ.controller = history.foldl B.controller.receive B.controller.activated ∧
    ∀ sent ∈ history, Sent B past sent
  supplied : Hardware.Supplied B.hardware (Given B past) (Moving B past) σ.machine

variable {B} {past : List (Time × Event)}

theorem nodeEvents_append (first second : List (Time × Event)) :
    nodeEvents (first ++ second) = nodeEvents first ++ nodeEvents second :=
  List.filterMap_append

theorem nodeEvents_concat_of_none {event : Time × Event} (other : nodeEvent event = none) :
    nodeEvents (past ++ [event]) = nodeEvents past := by
  rw [nodeEvents_append]
  simp [nodeEvents, other]

theorem Commanded.concat {command : Axis → Double} (commanded : Commanded B past command)
    (event : Time × Event) : Commanded B (past ++ [event]) command := by
  obtain ⟨before, now, earlier, same⟩ := commanded
  exact ⟨before, now, earlier.trans (nodeEvents_append .. ▸ List.prefix_append ..), same⟩

theorem Sent.concat {sent : Command} (was : Sent B past sent) (event : Time × Event) :
    Sent B (past ++ [event]) sent := by
  obtain ⟨command, commanded, same⟩ := was
  exact ⟨command, commanded.concat event, same⟩

theorem Given.concat {axis : Axis} {effort : Double} (given : Given B past axis effort)
    (event : Time × Event) : Given B (past ++ [event]) axis effort := by
  rcases given with zero | ⟨command, commanded, same⟩
  · exact .inl zero
  · exact .inr ⟨command, commanded.concat event, same⟩

theorem Moving.concat {call : Hardware.Attempt} (moving : Moving B past call)
    (event : Time × Event) : Moving B (past ++ [event]) call := by
  obtain ⟨command, effort, direction, commanded, made⟩ := moving
  exact ⟨command, effort, direction, commanded.concat event, made⟩

theorem Sent.length_eq {sent : Command} (was : Sent B past sent) :
    sent.length = gamepadControllerJoints.length := by
  obtain ⟨command, -, rfl⟩ := was
  rfl

/-- The publish loop makes its nonzero calls from efforts that have been given. -/
theorem moving_of_loopCall (valid : B.hardware.Valid) {c : Hardware.Control}
    (given : ∀ axis, Given B past axis (c.hw.effortCommands axis)) {call : Hardware.Attempt}
    (member : call ∈ Hardware.loopCalls B.hardware B.throws c) (nonzero : call.data ≠ 0) :
    Moving B past call := by
  rw [Hardware.data_of_mem_loopCalls member] at nonzero
  obtain ⟨effort, isEffort, made⟩ := Hardware.effort_of_leverMessage valid nonzero
  rw [← Hardware.data_of_mem_loopCalls member] at made
  rcases given call.axis with zero | ⟨command, commanded, same⟩
  · rw [isEffort, Double.zero_eq, Double.finite.injEq] at zero
    rw [zero, Hardware.AxisConfig.lever_bounded_zero (valid.axis call.axis)] at made
    rw [← Hardware.data_of_mem_loopCalls member] at nonzero
    exact absurd made nonzero
  · exact ⟨command, effort, _, commanded, by rw [← same, isEffort], made⟩

/-! ## One step, and a run -/

/-- An update of a forwarding controller assigns what has been commanded. -/
theorem given_of_assigned (forwards : Forwards gamepadControllerJoints B.controller)
    (reaches : Reaches B.handles) {history : List Command}
    (was : ∀ sent ∈ history, Sent B past sent) {label : Hardware.Label}
    (assigned : label ∈
      assignments B (history.foldl B.controller.receive B.controller.activated)) :
    ∃ command axis, Commanded B past command ∧ label = .assignEffort axis (command axis) := by
  rw [assignments, forwards history fun sent member => (was sent member).length_eq] at assigned
  cases last : history.getLast? with
  | none => simp [last, forwarded] at assigned
  | some sent =>
      obtain ⟨command, commanded, rfl⟩ := was sent (List.mem_of_getLast? last)
      rw [last, forwarded_axes] at assigned
      obtain ⟨pair, member, isLabel⟩ := List.mem_filterMap.mp assigned
      obtain ⟨axis, -, rfl⟩ := List.mem_map.mp member
      refine ⟨command, axis, commanded, ?_⟩
      simpa [assignment, reaches axis, eq_comm] using isLabel

theorem originates_step (accepted : B.node.Accepted) (valid : B.hardware.Valid)
    (forwards : Forwards gamepadControllerJoints B.controller) (reaches : Reaches B.handles)
    {σ τ : Rig κ} {event : Time × Event} (o : Originates B past σ)
    (taken : step B σ event = some τ) : Originates B (past ++ [event]) τ := by
  have made (c : Hardware.Control)
      (given : ∀ axis, Given B (past ++ [event]) axis (c.hw.effortCommands axis)) :
      ∀ call ∈ Hardware.loopCalls B.hardware B.throws c, call.data ≠ 0 →
        Moving B (past ++ [event]) call :=
    fun call member nonzero => moving_of_loopCall valid given member nonzero
  -- What was sent, given and made before the step still was.
  have inFlight : ∀ sent ∈ σ.inFlight, Sent B (past ++ [event]) sent :=
    fun sent member => (o.inFlight sent member).concat event
  have supplied : Hardware.Supplied B.hardware (Given B (past ++ [event]))
      (Moving B (past ++ [event])) σ.machine :=
    ⟨fun axis => (o.supplied.effort axis).concat event,
      fun call member nonzero => (o.supplied.call call member nonzero).concat event⟩
  obtain ⟨history, isHistory, seen⟩ := o.controller
  have seen : ∀ sent ∈ history, Sent B (past ++ [event]) sent :=
    fun sent member => (seen sent member).concat event
  have zero (axis : Axis) : Given B (past ++ [event]) axis 0 := .inl rfl
  have silent (other : nodeEvent event = none) :
      Gamepad.Simulates B.node (Gamepad.joyHistory (nodeEvents (past ++ [event]))) σ.node := by
    rw [nodeEvents_concat_of_none other]
    exact o.node
  obtain ⟨now, event⟩ := event
  obtain ⟨-, τ', moved, rfl⟩ := moved_of_step taken
  cases moved with
  | @node event node own =>
      obtain ⟨timeout, isTimeout, -⟩ := accepted.joyTimeout
      have events : nodeEvents (past ++ [(now, .node event)]) = nodeEvents past ++ [(now, event)] := by
        rw [nodeEvents_append]
        rfl
      refine ⟨?_, ?_, ⟨history, isHistory, seen⟩, supplied⟩
      · rw [events]
        exact Gamepad.simulates_step isTimeout o.node own
      · intro sent member
        rcases List.mem_append.mp member with waiting | new
        · exact inFlight sent waiting
        · cases event with
          | joy | simFeedback => cases new
          | tick =>
              obtain rfl := List.mem_singleton.mp new
              refine ⟨_, ⟨nodeEvents past, now, events ▸ List.prefix_rfl, rfl⟩, ?_⟩
              rw [Gamepad.command_publishCommand, Gamepad.publishJoy_eq_reference isTimeout o.node
                (Gamepad.step_eq_some.mp own).1]
  | @receive command rest waiting =>
      rw [waiting] at inFlight
      refine ⟨silent rfl, fun sent member => inFlight sent (List.mem_cons_of_mem _ member),
        ⟨history ++ [command], by rw [List.foldl_concat, isHistory], ?_⟩, supplied⟩
      intro sent member
      rcases List.mem_append.mp member with old | new
      · exact seen sent old
      · rw [List.mem_singleton.mp new]
        exact inFlight command List.mem_cons_self
  | @lose command rest waiting =>
      rw [waiting] at inFlight
      exact ⟨silent rfl, fun sent member => inFlight sent (List.mem_cons_of_mem _ member),
        ⟨history, isHistory, seen⟩, supplied⟩
  | activateController => exact ⟨silent rfl, inFlight, ⟨[], rfl, by simp⟩, supplied⟩
  | @update machine assigned =>
      refine ⟨silent rfl, inFlight, ⟨history, isHistory, seen⟩, ?_⟩
      refine runs_invariant_on (fun event : Time × Hardware.Label =>
        ∀ axis value, event.2 = .assignEffort axis value → Given B _ axis value)
        (fun _ _ _ given kept own => Hardware.supplied_step zero made given kept own)
        ?_ assigned supplied
      intro timed member axis value same
      obtain ⟨label, isAssigned, rfl⟩ := List.mem_map.mp member
      rw [isHistory] at isAssigned
      obtain ⟨command, other, commanded, isLabel⟩ :=
        given_of_assigned forwards reaches seen isAssigned
      obtain ⟨rfl, rfl⟩ := Hardware.Label.assignEffort.inj (isLabel.symm.trans same)
      exact .inr ⟨command, commanded, rfl⟩
  | @hardware label machine own stepped =>
      exact ⟨silent rfl, inFlight, ⟨history, isHistory, seen⟩, Hardware.supplied_step zero made
        (fun axis value same => absurd same (own axis value)) supplied stepped⟩

theorem originates_start (B : Setup κ) (clock joyTime positionTime nodeClock : Time)
    (P : Hardware.Parameters) :
    Originates B [] (start B clock (Gamepad.start B.node joyTime positionTime nodeClock)
      (Hardware.initialHardware P)) where
  node := Gamepad.simulates_start joyTime positionTime nodeClock
  inFlight sent member := by cases member
  controller := ⟨[], rfl, by simp⟩
  supplied := ⟨fun _ => .inl rfl, fun call member => by cases member⟩

end Origin

/-! ## The main result -/

/-- The lever is in its range, on the side that its sign and the stick's scale give, and as
far as the stick says or the dead band needs. -/
structure LeverOrigin (config : Hardware.AxisConfig) (deadzone stick scale lever : ℚ) : Prop where
  between : config.leverMin ≤ lever ∧ lever ≤ config.leverMax
  forward : 0 < lever ↔ 0 < config.leverSign * scale * stick
  backward : lever < 0 ↔ config.leverSign * scale * stick < 0
  magnitude : |lever| =
    max (if 0 < lever then config.leverPositiveMin else config.leverNegativeMin)
      |config.bounded (deadzoneCurve deadzone stick * scale)|

/-- What is true of a product is true of it with a factor of the same sign. -/
theorem mul_sign_iff {a b : ℚ} (same : 0 < a * b) (c : ℚ) :
    (0 < c * a ↔ 0 < c * b) ∧ (c * a < 0 ↔ c * b < 0) := by
  rcases pos_and_pos_or_neg_and_neg_of_mul_pos same with ⟨ha, hb⟩ | ⟨ha, hb⟩
  · simp [mul_neg_iff, ha, hb, ha.not_gt, hb.not_gt]
  · simp [mul_pos_iff, mul_neg_iff, ha, hb, ha.not_gt, hb.not_gt]

theorem leverOrigin_of_command {config : Hardware.AxisConfig} (valid : config.Valid)
    {deadzone stick scale : ℚ} {direction : ℤ} (nonneg : 0 ≤ deadzone) (below : deadzone < 1)
    (pushed : deadzone < |stick|)
    (nonzero : (config.lever (config.bounded (deadzoneCurve deadzone stick * scale)) direction).1 ≠
      0) :
    LeverOrigin config deadzone stick scale
      (config.lever (config.bounded (deadzoneCurve deadzone stick * scale)) direction).1 := by
  obtain ⟨between, positive, negative, magnitude⟩ :=
    Hardware.AxisConfig.lever_meaning valid nonzero
  obtain ⟨forward, backward⟩ := mul_sign_iff
    (Gamepad.deadzoneCurve_sign nonneg below pushed) (config.leverSign * scale)
  have reorder : config.leverSign * (deadzoneCurve deadzone stick * scale) =
      config.leverSign * scale * deadzoneCurve deadzone stick := by ring
  rw [reorder] at positive negative
  exact ⟨between, positive.trans forward, negative.trans backward, magnitude⟩

/-- **No lever moves but by an armed stick.**  The node, a controller that forwards its
commands and the hardware having been started as the launch starts them, let them run in
any order, with commands delayed or lost.  Behind every lever message that is not zero
there is a tick of the node, and behind the tick a Joy message in time, at the end of a
chain that armed the gate, whose stick for that axis is out of the dead zone; the lever
goes where that stick points. -/
theorem origin_of_nonzero_lever {κ : Type} {controller : Controller κ}
    {params : Gamepad.Parameters} {stod : Hardware.Stod} {baseOk : Bool}
    {info : Hardware.HardwareInfo} {P : Hardware.Parameters} {indices : List Axis}
    {hw : Hardware.LeverHardware}
    (init : Hardware.onInit stod baseOk info = .ok (P, indices, hw))
    (passed : Gamepad.validateParameters params = .ok ())
    (forwards : Forwards gamepadControllerJoints controller) (throws : ℕ → Bool)
    {clock joyTime positionTime nodeClock : Time} {events : List (Time × Event)} {σ : Rig κ}
    (run : runs (step (gamepadSetup params controller P info indices throws))
      (start (gamepadSetup params controller P info indices throws) clock
        (Gamepad.start params joyTime positionTime nodeClock) hw) events = some σ)
    {call : Hardware.Attempt} (published : call ∈ σ.machine.hw.attempts) (nonzero : call.data ≠ 0) :
    ∃ before tick earlier received message deadzone stick scale lever,
      before ++ [(tick, .tick)] <+: nodeEvents events ∧
      Gamepad.joyHistory before = earlier ++ [(received, message)] ∧
      Gamepad.JoyOrigin params earlier received message tick call.axis deadzone stick scale ∧
      call.data = Double.finite lever ∧
      LeverOrigin (P.axisConfigs call.axis) deadzone stick scale lever := by
  obtain ⟨loaded, -, rfl⟩ := Hardware.onInit_eq_ok init
  have valid := Hardware.loadHardwareParameters_valid loaded
  have accepted := Gamepad.accepted_of_validate passed
  have originates := runs_history_invariant
    (fun past _ _ _ o taken => originates_step accepted valid forwards (reaches_of_onInit init) o taken)
    [] run (originates_start _ clock joyTime positionTime nodeClock P)
  obtain ⟨command, effort, direction, ⟨before, tick, been, rfl⟩, isEffort, made⟩ :=
    originates.supplied.call call published nonzero
  rw [made, Ne, Double.zero_eq, Double.finite.injEq] at nonzero
  change Gamepad.referenceCommand params _ _ _ = _ at isEffort
  have commanded : Gamepad.referenceCommand params (Gamepad.joyHistory before) tick call.axis ≠ 0 := by
    rw [isEffort, Ne, Double.zero_eq, Double.finite.injEq]
    rintro rfl
    exact nonzero (Hardware.AxisConfig.lever_bounded_zero (valid.axis call.axis) direction)
  obtain ⟨earlier, received, message, deadzone, stick, scale, history, origin, isCommand⟩ :=
    Gamepad.exists_joyOrigin accepted commanded
  obtain rfl : effort = deadzoneCurve deadzone stick * scale :=
    Double.finite.inj (isEffort.symm.trans isCommand)
  obtain ⟨d, isDeadzone, nonneg, below⟩ := accepted.deadzone
  obtain rfl : deadzone = d := Double.finite.inj (origin.isDeadzone.symm.trans isDeadzone)
  exact ⟨before, tick, earlier, received, message, deadzone, stick, scale, _, by simpa using been,
    history, origin, made,
    leverOrigin_of_command (valid.axis call.axis) nonneg below origin.pushed nonzero⟩

/-- The joints in the order bucket, swing, arm, boom, and no parameter. -/
def shuffledInfo : Hardware.HardwareInfo where
  hardwareParameters := fun _ => none
  joints := Hardware.shuffledJoints

/-- The hardware is activated and the gate armed; then the swing stick is pushed, and the
command goes through to the levers. -/
def armThenSwingRig : List (Time × Event) :=
  let hardware (now : Time) (labels : List Hardware.Label) : List (Time × Event) :=
    labels.map fun label => (now, .hardware label)
  let feedback (axis : Axis) (degrees : ℚ) : List Hardware.Label :=
    [.deliver (.feedback axis (some (degrees : Double))), .store]
  Hardware.activation.map (fun event => (event.1, .hardware event.2)) ++
    Gamepad.armThenSwing.map (fun event => (event.1, .node event.2)) ++
    [(21 / 20, .node .tick), (21 / 20, .lose), (21 / 20, .receive), (21 / 20, .update)] ++
    hardware (21 / 20) (feedback 0 0 ++ feedback 1 0 ++ feedback 2 90 ++ feedback 3 0) ++
    hardware (21 / 20) (.call .write :: List.replicate 3 .advance)

def shuffledSetup : Setup (Option Command) :=
  gamepadSetup {} (lastCommandController gamepadControllerJoints) Hardware.defaultParameters
    shuffledInfo [3, 0, 2, 1] Hardware.noThrow

theorem origin_of_nonzero_lever_swing :
    ∃ σ, runs (step shuffledSetup) (start shuffledSetup 0 (Gamepad.start {} 0 0 0)
        (Hardware.initialHardware Hardware.defaultParameters)) armThenSwingRig = some σ ∧
      ∃ call ∈ σ.machine.hw.attempts, call.axis = 0 ∧ call.data = Double.finite 100 ∧
        ∃ before tick earlier received message deadzone stick scale lever,
          before ++ [(tick, .tick)] <+: nodeEvents armThenSwingRig ∧
          Gamepad.joyHistory before = earlier ++ [(received, message)] ∧
          Gamepad.JoyOrigin {} earlier received message tick call.axis deadzone stick scale ∧
          call.data = Double.finite lever ∧
          LeverOrigin (Hardware.defaultParameters.axisConfigs call.axis) deadzone stick scale
            lever := by
  obtain ⟨σ, run, call, published, isSwing, isFull⟩ :
      ∃ σ ∈ runs (step shuffledSetup) (start shuffledSetup 0 (Gamepad.start {} 0 0 0)
          (Hardware.initialHardware Hardware.defaultParameters)) armThenSwingRig,
        ∃ call ∈ σ.machine.hw.attempts, call.axis = 0 ∧ call.data = Double.finite 100 := by
    decide +kernel
  have init : Hardware.onInit (fun _ => .error "") true shuffledInfo =
      .ok (Hardware.defaultParameters, [3, 0, 2, 1],
        Hardware.initialHardware Hardware.defaultParameters) :=
    Hardware.onInit_of_loaded (Hardware.loadHardwareParameters_unset fun _ => rfl) rfl
  exact ⟨σ, run, call, published, isSwing, isFull,
    origin_of_nonzero_lever init (Gamepad.validateParameters_default false)
      (forwards_lastCommandController _) Hardware.noThrow run published (by simp [isFull])⟩

end Tb20e.Bringup
