/-
# Bringup.TakingControl -- from any state, the operator moves the levers

The start sequence arms the node from any state in which it is not armed
(`Gamepad.start_toggles`), and a steady command reaches the hardware from any state of the
rig (`assigned_of_stages`).  Between the two is `sending_of_attended`: while the operator
is there and holds the sticks where they are, the node sends one and the same command,
whatever else happens in the rig.

`start_sequence_moves_levers` is the whole way, from the sticks to the levers.
-/
import Tb20e.Bringup.Steady
import Tb20e.Gamepad.StartSequence

namespace Tb20e.Bringup

set_option autoImplicit false

open Tb20e.Theory Tb20e.Control
open Tb20e.Theory (Double)
open Tb20e.Gamepad (joyHistory Joy StartSequence Attended InControl commandAfter)

/-! ## Holding the sticks -/

section Holding

variable {params : Gamepad.Parameters} {command : Axis → Double}

/-- The sticks of every message ask for the command. -/
def HoldsSticks (params : Gamepad.Parameters) (command : Axis → Double)
    (events : List (Time × Gamepad.Event)) : Prop :=
  ∀ received ∈ joyHistory events, mapAxes received.2.axes params.mapping = command

theorem HoldsSticks.cons {event : Time × Gamepad.Event} {rest : List (Time × Gamepad.Event)}
    (holds : HoldsSticks params command (event :: rest)) :
    commandAfter params command event.2 = command ∧ HoldsSticks params command rest := by
  obtain ⟨now, event⟩ := event
  cases event with
  | joy message =>
      exact ⟨holds (now, message) List.mem_cons_self,
        fun received member => holds received (List.mem_cons_of_mem _ member)⟩
  | simFeedback | tick => exact ⟨rfl, holds⟩

theorem HoldsSticks.append {first second : List (Time × Gamepad.Event)}
    (holds : HoldsSticks params command (first ++ second)) :
    HoldsSticks params command first ∧ HoldsSticks params command second := by
  have split : joyHistory (first ++ second) = joyHistory first ++ joyHistory second :=
    List.filterMap_append
  refine ⟨fun received member => holds received ?_, fun received member => holds received ?_⟩
  · exact split ▸ List.mem_append_left _ member
  · exact split ▸ List.mem_append_right _ member

/-- Once a message has come, the command is the one that the sticks ask for. -/
theorem HoldsSticks.foldl_eq {events : List (Time × Gamepad.Event)}
    (holds : HoldsSticks params command events) (moves : joyHistory events ≠ [])
    (before : Axis → Double) :
    events.foldl (fun command event => commandAfter params command event.2) before = command := by
  have kept {events : List (Time × Gamepad.Event)} (holds : HoldsSticks params command events) :
      events.foldl (fun command event => commandAfter params command event.2) command =
        command := by
    induction events with
    | nil => rfl
    | cons event rest ih => rw [List.foldl_cons, holds.cons.1, ih holds.cons.2]
  induction events generalizing before with
  | nil => exact absurd rfl moves
  | cons event rest ih =>
      obtain ⟨now, event⟩ := event
      cases event with
      | joy message =>
          have asked : commandAfter params before (.joy message) = command :=
            holds (now, message) List.mem_cons_self
          rw [List.foldl_cons, asked, kept holds.cons.2]
      | simFeedback | tick => exact ih holds moves before

end Holding

section Sending

variable {κ : Type} {B : Setup κ} {command : Axis → Double} {σ τ : Rig κ}

/-- **While the sticks are held** the node sends nothing but their command. -/
theorem sending_of_attended (accepted : B.node.Accepted) {last : Time × Joy}
    {events : List (Time × Event)} (control : InControl B.node last command σ.node)
    (attended : Attended B.node last (nodeEvents events))
    (holds : HoldsSticks B.node command (nodeEvents events))
    (run : runs (step B) σ events = some τ) : runs (stepSending B command) σ events = some τ := by
  induction events generalizing σ last with
  | nil => exact run
  | cons event rest ih =>
      obtain ⟨σ', taken, later⟩ := runs_cons_eq_some.mp run
      have own := node_step taken
      obtain ⟨now, event⟩ := event
      cases event with
      | node event =>
          have taken' : Gamepad.step B.node σ.node (now, event) = some σ'.node :=
            runs_singleton.symm.trans own
          obtain ⟨⟨last', control', attended'⟩, sends⟩ :=
            Gamepad.inControl_step accepted control attended taken'
          rw [holds.cons.1] at control'
          refine runs_cons_eq_some.mpr ⟨σ', stepSending_eq_some.mpr ⟨?_, taken⟩,
            ih control' attended' holds.cons.2 later⟩
          intro c member
          cases event with
          | joy | simFeedback => cases member
          | tick => rw [List.mem_singleton.mp member, sends rfl]
      | receive | lose | activateController | update | hardware =>
          have same : σ.node = σ'.node := Option.some.inj own
          refine runs_cons_eq_some.mpr ⟨σ', stepSending_eq_some.mpr ⟨?_, taken⟩,
            ih (same ▸ control) attended holds later⟩
          intro c member
          cases member

end Sending

/-! ## The whole way -/

section Moving

variable {κ : Type} {controller : Controller κ} {params : Gamepad.Parameters}
  {stod : Hardware.Stod} {baseOk : Bool} {info : Hardware.HardwareInfo} {P : Hardware.Parameters}
  {indices : List Axis} {hw : Hardware.LeverHardware} {throws : ℕ → Bool}
  {clock joyTime positionTime nodeClock : Time} {before : List (Time × Event)}
  {σ₀ σ' σ σ₁ τ : Rig κ} {command : Axis → Double} {earlier rest : List (Time × Joy)}
  {press : Time × Joy} {moving taking receiving updating later : List (Time × Event)}

/-- **The operator moves the levers.**  In a rig that has been started as the launch starts
it, in any state in which the gate is not armed, let the operator end a rest with Start,
move the sticks and hold them there, being there all the time.  Let the commands that were
under way be taken, the controller take one more and then update, not being started again in
between.  Then every effort in the hardware is what the sticks ask for, as long as no
lifecycle call comes; and every lever message published since is zero or the lever of that. -/
theorem start_sequence_moves_levers
    (init : Hardware.onInit stod baseOk info = .ok (P, indices, hw))
    (passed : Gamepad.validateParameters params = .ok ())
    (forwards : Forwards gamepadControllerJoints controller) {B : Setup κ}
    (setup : B = gamepadSetup params controller P info indices throws)
    (run : runs (step B)
      (start B clock (Gamepad.start params joyTime positionTime nodeClock) hw) before = some σ₀)
    (ends : joyHistory (nodeEvents before) = earlier ++ rest)
    (sequence : StartSequence params rest press)
    (unarmed : σ₀.node.node.safetyGate.armed = false)
    (pressing : step B σ₀ (press.1, .node (.joy press.2)) = some σ')
    (runMoving : runs (step B) σ' moving = some σ)
    (run₁ : runs (step B) σ (taking ++ receiving ++ updating) = some σ₁)
    (run₂ : runs (step B) σ₁ later = some τ)
    (attended : Attended params press
      (nodeEvents (moving ++ (taking ++ receiving ++ updating ++ later))))
    (moves : joyHistory (nodeEvents moving) ≠ [])
    (holds : HoldsSticks params command
      (nodeEvents (moving ++ (taking ++ receiving ++ updating ++ later))))
    (kept : ∀ event ∈ receiving ++ updating, event.2 ≠ .activateController)
    (steady : ∀ event ∈ updating ++ later, Steady command event)
    (takesOld : σ.inFlight.length ≤ takes taking)
    (receives : ∃ event ∈ receiving, event.2 = .receive)
    (updates : ∃ event ∈ updating, event.2 = .update) :
    τ.machine.hw.effortCommands = command ∧
      MadeSince P command σ₁.machine.hw.attempts τ.machine.hw.attempts := by
  have accepted := Gamepad.accepted_of_validate passed
  have isNode : B.node = params := setup ▸ rfl
  -- The press arms the node, and then the sticks give the command.
  have reached : runs (Gamepad.step params) (Gamepad.start params joyTime positionTime nodeClock)
      (nodeEvents before) = some σ₀.node := isNode ▸ node_runs run
  have pressed : Gamepad.step params σ₀.node (press.1, .joy press.2) = some σ'.node :=
    isNode ▸ runs_singleton.symm.trans (node_step pressing)
  obtain ⟨toggled, zero⟩ := Gamepad.start_toggles passed reached ends sequence pressed
  rw [unarmed] at toggled
  have armed := Gamepad.inControl_of_press (Gamepad.simulates_run accepted reached)
    (sequence.readable press (by simp)) pressed toggled zero
  rw [nodeEvents_append] at attended holds
  obtain ⟨last, control, attended⟩ := Gamepad.inControl_run accepted armed attended
    (isNode ▸ node_runs runMoving)
  obtain ⟨holdsMoving, holds⟩ := holds.append
  rw [holdsMoving.foldl_eq moves] at control
  -- So the node sends nothing else.
  rw [← isNode] at accepted control attended holds
  obtain ⟨σ₁', sending₁, sending₂⟩ := runs_append_eq_some.mp (sending_of_attended accepted control
    attended holds (runs_append_eq_some.mpr ⟨σ₁, run₁, run₂⟩))
  obtain rfl : σ₁ = σ₁' := Option.some.inj
    (run₁.symm.trans (runs_mono (fun _ _ _ => step_of_sending) sending₁))
  have reachedRig := runs_append_eq_some.mpr
    ⟨σ₀, run, runs_cons_eq_some.mpr ⟨σ', pressing, runMoving⟩⟩
  have assigned := assigned_of_stages init passed forwards setup reachedRig kept
    (fun event member => steady event (List.mem_append_left _ member)) takesOld receives updates
    sending₁
  exact kept_of_assigned init forwards setup assigned
    (fun event member => steady event (List.mem_append_right _ member)) sending₂

end Moving

/-- The hardware is activated, and the node sees a rest. -/
def activeAndResting : List (Time × Event) :=
  Hardware.activation.map (fun event => (event.1, .hardware event.2)) ++
    Gamepad.startRest.map fun received => (received.1, .node (.joy received.2))

/-- The swing stick after the press. -/
def pushSwing : List (Time × Event) := Gamepad.startFollowing.map fun event => (event.1, .node event.2)

/-- The command goes through once; fresh feedback and a write come. -/
def throughOnce : List (List (Time × Event)) :=
  let feedback (axis : Axis) (degrees : ℚ) : List (Time × Event) :=
    [(1, .hardware (.deliver (.feedback axis (some (degrees : Double))))), (1, .hardware .store)]
  [[], [(1, .node .tick), (1, .receive)], [(1, .update)],
    (1, .node .tick) :: (feedback 0 0 ++ feedback 1 0 ++ feedback 2 90 ++ feedback 3 0) ++
      (1, .hardware (.call .write)) :: List.replicate 3 (1, .hardware .advance)]

theorem start_sequence_moves_levers_swing :
    ∃ σ₁ τ, runs (step shuffledSetup) (start shuffledSetup 0 (Gamepad.start {} 0 0 0)
        (Hardware.initialHardware Hardware.defaultParameters))
          (activeAndResting ++ (Gamepad.startPress.1, .node (.joy Gamepad.startPress.2)) :: pushSwing ++
            (throughOnce[0] ++ throughOnce[1] ++ throughOnce[2])) = some σ₁ ∧
      runs (step shuffledSetup) σ₁ throughOnce[3] = some τ ∧
      Hardware.lastMessage τ.machine.hw.attempts 0 = some (Double.finite 100) ∧
      τ.machine.hw.effortCommands = fullSwing ∧
      MadeSince Hardware.defaultParameters fullSwing σ₁.machine.hw.attempts τ.machine.hw.attempts := by
  obtain ⟨σ₀, run, unarmed, σ', pressing, σ, runMoving, few, σ₁, run₁, τ, run₂, pushed⟩ :
      ∃ σ₀ ∈ runs (step shuffledSetup) (start shuffledSetup 0 (Gamepad.start {} 0 0 0)
          (Hardware.initialHardware Hardware.defaultParameters)) activeAndResting,
        σ₀.node.node.safetyGate.armed = false ∧
        ∃ σ' ∈ step shuffledSetup σ₀ (Gamepad.startPress.1, .node (.joy Gamepad.startPress.2)),
        ∃ σ ∈ runs (step shuffledSetup) σ' pushSwing, σ.inFlight.length ≤ takes throughOnce[0] ∧
        ∃ σ₁ ∈ runs (step shuffledSetup) σ (throughOnce[0] ++ throughOnce[1] ++ throughOnce[2]),
        ∃ τ ∈ runs (step shuffledSetup) σ₁ throughOnce[3],
          Hardware.lastMessage τ.machine.hw.attempts 0 = some (Double.finite 100) := by
    decide +kernel
  have init : Hardware.onInit (fun _ => .error "") true shuffledInfo =
      .ok (Hardware.defaultParameters, [3, 0, 2, 1],
        Hardware.initialHardware Hardware.defaultParameters) :=
    Hardware.onInit_of_loaded (Hardware.loadHardwareParameters_unset fun _ => rfl) rfl
  have ends : joyHistory (nodeEvents activeAndResting) = [] ++ Gamepad.startRest := by decide +kernel
  have own : nodeEvents (pushSwing ++ (throughOnce[0] ++ throughOnce[1] ++ throughOnce[2] ++
      throughOnce[3])) = Gamepad.startFollowing ++ [(1, .tick), (1, .tick)] := by
    decide +kernel
  have attended : Attended {} Gamepad.startPress (nodeEvents (pushSwing ++
      (throughOnce[0] ++ throughOnce[1] ++ throughOnce[2] ++ throughOnce[3]))) := by
    rw [own]
    simp only [Gamepad.startFollowing, List.cons_append, List.nil_append, Attended]
    decide +kernel
  have holds : HoldsSticks {} fullSwing (nodeEvents (pushSwing ++
      (throughOnce[0] ++ throughOnce[1] ++ throughOnce[2] ++ throughOnce[3]))) := by
    rw [own]
    intro received member
    obtain rfl := List.mem_singleton.mp member
    funext axis
    fin_cases axis <;> decide +kernel
  have kept : ∀ event ∈ throughOnce[1] ++ throughOnce[2], event.2 ≠ .activateController := by
    simp [throughOnce]
  have steady : ∀ event ∈ throughOnce[2] ++ throughOnce[3], Steady fullSwing event := by
    simp [throughOnce, Steady]
  exact ⟨σ₁, τ, runs_append_eq_some.mpr ⟨σ, runs_append_eq_some.mpr ⟨σ₀, run,
      runs_cons_eq_some.mpr ⟨σ', pressing, runMoving⟩⟩, run₁⟩, run₂, pushed,
    start_sequence_moves_levers init (Gamepad.validateParameters_default false)
      (forwards_lastCommandController _) (B := shuffledSetup) rfl run ends
      Gamepad.startSequence_startRest unarmed pressing runMoving run₁ run₂ attended (by decide +kernel)
      holds kept steady few ⟨(1, .receive), by simp [throughOnce], rfl⟩
      ⟨(1, .update), by simp [throughOnce], rfl⟩⟩

end Tb20e.Bringup
