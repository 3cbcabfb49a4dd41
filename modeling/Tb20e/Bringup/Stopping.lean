/-
# Bringup.Stopping -- a stop reaches every lever

A node that has stopped sends zeros until Start is pressed, so what `Bringup.Steady` says of
a steady command holds for zero: from the update on every effort is zero, whatever lifecycle
calls come and however the controller is started again.  A write that goes on during the stop
may still publish what it has read, and a publish may throw; but a write that starts after the
update calls every topic, and from its end every topic that has taken a message since the
update carries zero (`stop_reaches_every_lever`).
-/
import Tb20e.Bringup.Steady
import Tb20e.Gamepad.Disarming

namespace Tb20e.Bringup

set_option autoImplicit false

open Tb20e.Theory Tb20e.Control
open Tb20e.Theory (Double)

/-- An event that does not press Start. -/
def Untouched (event : Time × Event) : Prop :=
  match event.2 with
  | .node event => Gamepad.Released event
  | _ => True

/-- A call does not disturb a command of zeros. -/
theorem steady_zero (event : Time × Event) : Steady (fun _ => 0) event := by
  obtain ⟨now, event⟩ := event
  cases event with
  | hardware label =>
      cases label with
      | call => exact .inr (.inr rfl)
      | advance | assignEffort | deliver | store => trivial
  | node | receive | lose | activateController | update => trivial

section Stages

variable {κ : Type} {B : Setup κ} {σ τ : Rig κ} {event : Time × Event}

/-! ## A disarmed node -/

theorem disarmed_rig_step (disarmed : Gamepad.Disarmed σ.node.node) (untouched : Untouched event)
    (taken : step B σ event = some τ) : Gamepad.Disarmed τ.node.node := by
  obtain ⟨now, event⟩ := event
  obtain ⟨-, τ', moved, rfl⟩ := moved_of_step taken
  cases moved with
  | @node event node own =>
      have released : Gamepad.Released (now, event).2 := untouched
      exact Gamepad.disarmed_step disarmed released own
  | receive | lose | activateController | update | hardware => exact disarmed

/-- A disarmed node sends zeros. -/
theorem sending_of_disarmed (disarmed : Gamepad.Disarmed σ.node.node)
    (taken : step B σ event = some τ) : stepSending B (fun _ => 0) σ event = some τ := by
  refine stepSending_eq_some.mpr ⟨?_, taken⟩
  obtain ⟨now, event⟩ := event
  cases event with
  | node event =>
      cases event with
      | joy | simFeedback => simp [sentBy, sent]
      | tick =>
          intro command member
          rw [List.mem_singleton.mp member, Gamepad.command_of_disarmed disarmed]
  | receive | lose | activateController | update | hardware => simp [sentBy]

theorem sending_run_of_disarmed {events : List (Time × Event)}
    (untouched : ∀ event ∈ events, Untouched event) (run : runs (step B) σ events = some τ)
    (disarmed : Gamepad.Disarmed σ.node.node) :
    runs (stepSending B fun _ => 0) σ events = some τ ∧ Gamepad.Disarmed τ.node.node := by
  induction events generalizing σ with
  | nil => cases run; exact ⟨rfl, disarmed⟩
  | cons event rest ih =>
      obtain ⟨σ', first, later⟩ := runs_cons_eq_some.mp run
      obtain ⟨sending, stays⟩ := ih (fun e member => untouched e (List.mem_cons_of_mem _ member)) later
        (disarmed_rig_step disarmed (untouched event List.mem_cons_self) first)
      exact ⟨runs_cons_eq_some.mpr ⟨σ', sending_of_disarmed disarmed first, sending⟩, stays⟩

/-! ## The levers -/

/-- The rig at rest: zero has been assigned. -/
abbrev Resting (B : Setup κ) (σ : Rig κ) : Prop := Assigned B (fun _ => 0) σ

/-- **A rig at rest stays at rest** and publishes only zeros. -/
theorem resting_step (valid : B.hardware.Valid)
    (forwards : Forwards gamepadControllerJoints B.controller) (reaches : Reaches B.handles)
    (resting : Resting B σ) (taken : stepSending B (fun _ => 0) σ event = some τ) :
    Resting B τ ∧ ∃ calls, τ.machine.hw.attempts = calls ++ σ.machine.hw.attempts ∧
      Hardware.AllZero B.throws calls := by
  refine ⟨(assigned_step valid forwards reaches resting (steady_zero event) taken).1, ?_⟩
  have silent {attempts : List Hardware.Attempt} (same : attempts = σ.machine.hw.attempts) :
      ∃ calls, attempts = calls ++ σ.machine.hw.attempts ∧ Hardware.AllZero B.throws calls :=
    ⟨[], same, by simp [Hardware.AllZero]⟩
  have still (axis : Axis) : σ.machine.hw.effortCommands axis = 0 := congrFun resting.efforts axis
  obtain ⟨now, event⟩ := event
  obtain ⟨-, τ', moved, rfl⟩ := moved_of_step (step_of_sending taken)
  cases moved with
  | node | receive | lose | activateController => exact silent rfl
  | update assigned =>
      exact silent (update_of_holding forwards reaches resting.holding resting.efforts assigned).1
  | hardware own stepped => exact Hardware.zeros_step_of_still valid still stepped

/-- Only zeros are published in a run at rest. -/
theorem zeros_of_resting (valid : B.hardware.Valid)
    (forwards : Forwards gamepadControllerJoints B.controller) (reaches : Reaches B.handles)
    {events : List (Time × Event)} (run : runs (stepSending B fun _ => 0) σ events = some τ)
    (resting : Resting B σ) :
    ∃ calls, τ.machine.hw.attempts = calls ++ σ.machine.hw.attempts ∧
      Hardware.AllZero B.throws calls := by
  refine (runs_invariant (I := fun ρ : Rig κ => Resting B ρ ∧
    ∃ calls, ρ.machine.hw.attempts = calls ++ σ.machine.hw.attempts ∧
      Hardware.AllZero B.throws calls) ?_ run ⟨resting, [], rfl, by simp [Hardware.AllZero]⟩).2
  rintro ρ event ρ' ⟨resting, earlier⟩ taken
  obtain ⟨next, calls, attempts, zero⟩ := resting_step valid forwards reaches resting taken
  exact ⟨next, attempts ▸ Hardware.zeros_append zero earlier⟩

/-- **A write that has ended** has called every topic. -/
theorem called_of_write {writing : List (Time × Event)}
    (writes : ∃ event ∈ writing, event.2 = .hardware (.call .write))
    (run : runs (step B) σ writing = some τ) (finished : τ.machine.pending = []) :
    Hardware.Called σ.machine.hw.attempts τ.machine := by
  obtain ⟨⟨now, event⟩, member, rfl⟩ := writes
  obtain ⟨first, second, rfl⟩ := List.append_of_mem member
  obtain ⟨σ', run₁, rest⟩ := runs_append_eq_some.mp run
  obtain ⟨σ'', taken, run₂⟩ := runs_cons_eq_some.mp rest
  have suffix : σ.machine.hw.attempts <:+ σ'.machine.hw.attempts :=
    runs_invariant (I := fun ρ : Hardware.Machine => σ.machine.hw.attempts <:+ ρ.hw.attempts)
      (fun _ _ _ suffix stepped => Hardware.suffix_step suffix stepped) (machine_runs run₁)
      (List.suffix_refl _)
  have starts : Hardware.Calling σ.machine.hw.attempts σ''.machine := by
    obtain ⟨-, τ', moved, rfl⟩ := moved_of_step taken
    cases moved with
    | hardware own stepped =>
        obtain ⟨-, machine, moved, rfl⟩ := Hardware.moved_of_step stepped
        cases moved with
        | call idle => exact .inr ⟨suffix, by simp [Hardware.ControlOp.sections]⟩
  have calling : Hardware.Calling σ.machine.hw.attempts τ.machine :=
    runs_invariant (fun _ _ _ => Hardware.calling_step) (machine_runs run₂) starts
  exact calling.resolve_right fun owed => by simp [finished] at owed

end Stages

/-! ## The main result -/

/-- **A stop reaches every lever.**  In a rig that has been started as the launch starts
it, let the gate of the node not be armed, and from then on let Start not be pressed,
however the sticks are moved.  Let the commands that were under way be taken, the controller
take another one and then update, not being started again in between, and a write start after
that and end.  Then, as long as Start is not pressed, nothing but zeros has been published
since the update, on every topic, and every topic that has taken one of them carries zero. -/
theorem stop_reaches_every_lever {κ : Type} {controller : Controller κ}
    {params : Gamepad.Parameters} {stod : Hardware.Stod} {baseOk : Bool}
    {info : Hardware.HardwareInfo} {P : Hardware.Parameters} {indices : List Axis}
    {hw : Hardware.LeverHardware} {throws : ℕ → Bool}
    (init : Hardware.onInit stod baseOk info = .ok (P, indices, hw))
    (passed : Gamepad.validateParameters params = .ok ())
    (forwards : Forwards gamepadControllerJoints controller) (B : Setup κ)
    (setup : B = gamepadSetup params controller P info indices throws)
    {clock joyTime positionTime nodeClock : Time} {before : List (Time × Event)} {σ : Rig κ}
    (run : runs (step B)
      (start B clock (Gamepad.start params joyTime positionTime nodeClock) hw) before = some σ)
    (unarmed : σ.node.node.safetyGate.armed = false)
    {taking receiving updating writing later : List (Time × Event)} {σ₁ σ₂ σ₃ : Rig κ}
    (untouched : ∀ event ∈ taking ++ receiving ++ updating ++ (writing ++ later), Untouched event)
    (takesOld : σ.inFlight.length ≤ takes taking)
    (receives : ∃ event ∈ receiving, event.2 = .receive)
    (updates : ∃ event ∈ updating, event.2 = .update)
    (kept : ∀ event ∈ receiving ++ updating, event.2 ≠ .activateController)
    (writes : ∃ event ∈ writing, event.2 = .hardware (.call .write))
    (run₁ : runs (step B) σ (taking ++ receiving ++ updating) = some σ₁)
    (run₂ : runs (step B) σ₁ writing = some σ₂) (finished : σ₂.machine.pending = [])
    (run₃ : runs (step B) σ₂ later = some σ₃) :
    ∃ calls, σ₃.machine.hw.attempts = calls ++ σ₁.machine.hw.attempts ∧
      Hardware.AllZero throws calls ∧ ∀ axis, (∃ call ∈ calls, call.axis = axis) ∧
        ((∃ call ∈ calls, call.axis = axis ∧ call.threw = false) →
          Hardware.lastMessage σ₃.machine.hw.attempts axis = some 0) := by
  have valid : B.hardware.Valid :=
    setup ▸ Hardware.loadHardwareParameters_valid (Hardware.onInit_eq_ok init).1
  have forwards' : Forwards gamepadControllerJoints B.controller := setup ▸ forwards
  have reaches : Reaches B.handles := setup ▸ reaches_of_onInit init
  have sameThrows : B.throws = throws := setup ▸ rfl
  -- From the stop on the node sends zeros.
  have disarmed : Gamepad.Disarmed σ.node.node := by
    have atStart : params = B.node := setup ▸ rfl
    subst atStart
    exact Gamepad.disarmed_of_unarmed (node_runs run) unarmed
  obtain ⟨sending₁, disarmed⟩ := sending_run_of_disarmed
    (fun event member => untouched event (List.mem_append_left _ member)) run₁ disarmed
  obtain ⟨sending₂, -⟩ := sending_run_of_disarmed
    (fun event member => untouched event (List.mem_append_right _ member))
    (runs_append_eq_some.mpr ⟨σ₂, run₂, run₃⟩) disarmed
  have resting : Resting B σ₁ := assigned_of_stages init passed forwards setup run kept
    (fun event _ => steady_zero event) takesOld receives updates sending₁
  obtain ⟨calls, attempts, zero⟩ := zeros_of_resting valid forwards' reaches sending₂ resting
  -- Among what has been published since are the calls of the write.
  obtain ⟨calls', attempts', each⟩ : Hardware.Called σ₁.machine.hw.attempts σ₃.machine :=
    runs_invariant (fun _ _ _ => Hardware.called_step) (machine_runs run₃)
      (called_of_write writes run₂ finished)
  obtain rfl := List.append_cancel_right (attempts'.symm.trans attempts)
  refine ⟨calls', attempts, sameThrows ▸ zero, fun axis => ⟨each axis, fun sent => ?_⟩⟩
  exact attempts ▸ Hardware.lastMessage_of_sent zero sent

/-- The swing lever is at its end and another such command is under way; then Start is
pressed, and the stick stays where it is. -/
def stopSwing : List (List (Time × Event)) :=
  let message (start : ℤ) : Event :=
    .node (.joy { axes := [1, 0, 0, 0], buttons := List.replicate 9 0 ++ [start] })
  let write : List Event := .hardware (.call .write) :: List.replicate 3 (.hardware .advance)
  [armThenSwingRig ++ [(43 / 40, .node .tick), (11 / 10, message 1)],
    [(11 / 10, .receive), (11 / 10, message 0)],
    [(23 / 20, .node .tick), (23 / 20, .receive)],
    [(23 / 20, .update)],
    write.map fun event => (23 / 20, event),
    (6 / 5, message 0) :: (6 / 5, .node .tick) :: write.map fun event => (6 / 5, event)]

theorem stop_reaches_every_lever_swing :
    ∃ σ σ₁ σ₃, runs (step shuffledSetup) (start shuffledSetup 0 (Gamepad.start {} 0 0 0)
        (Hardware.initialHardware Hardware.defaultParameters)) stopSwing[0] = some σ ∧
      Hardware.lastMessage σ.machine.hw.attempts 0 = some (Double.finite 100) ∧
      runs (step shuffledSetup) σ (stopSwing[1] ++ stopSwing[2] ++ stopSwing[3]) = some σ₁ ∧
      runs (step shuffledSetup) σ₁ (stopSwing[4] ++ stopSwing[5]) = some σ₃ ∧
      ∀ axis, Hardware.lastMessage σ₃.machine.hw.attempts axis = some 0 := by
  obtain ⟨σ, run, moving, unarmed, few, σ₁, run₁, σ₂, run₂, finished, σ₃, run₃, -⟩ :
      ∃ σ ∈ runs (step shuffledSetup) (start shuffledSetup 0 (Gamepad.start {} 0 0 0)
          (Hardware.initialHardware Hardware.defaultParameters)) stopSwing[0],
        Hardware.lastMessage σ.machine.hw.attempts 0 = some (Double.finite 100) ∧
        σ.node.node.safetyGate.armed = false ∧ σ.inFlight.length ≤ takes stopSwing[1] ∧
        ∃ σ₁ ∈ runs (step shuffledSetup) σ (stopSwing[1] ++ stopSwing[2] ++ stopSwing[3]),
          ∃ σ₂ ∈ runs (step shuffledSetup) σ₁ stopSwing[4], σ₂.machine.pending = [] ∧
            ∃ σ₃ ∈ runs (step shuffledSetup) σ₂ stopSwing[5], σ₃.machine.pending = [] := by
    decide +kernel
  have init : Hardware.onInit (fun _ => .error "") true shuffledInfo =
      .ok (Hardware.defaultParameters, [3, 0, 2, 1],
        Hardware.initialHardware Hardware.defaultParameters) :=
    Hardware.onInit_of_loaded (Hardware.loadHardwareParameters_unset fun _ => rfl) rfl
  have untouched : ∀ event ∈ stopSwing[1] ++ stopSwing[2] ++ stopSwing[3] ++ (stopSwing[4] ++
      stopSwing[5]), Untouched event := by
    simp only [stopSwing, List.map, List.replicate, List.cons_append, List.nil_append,
      List.getElem_cons_zero, List.getElem_cons_succ, List.forall_mem_cons, Untouched,
      Gamepad.Released, true_and]
    exact ⟨rfl, rfl, by simp⟩
  have kept : ∀ event ∈ stopSwing[2] ++ stopSwing[3], event.2 ≠ .activateController := by
    simp [stopSwing]
  obtain ⟨calls, -, zero, carries⟩ :=
    stop_reaches_every_lever init (Gamepad.validateParameters_default false)
      (forwards_lastCommandController _) shuffledSetup rfl run unarmed untouched few
      ⟨(23 / 20, .receive), by simp [stopSwing], rfl⟩ ⟨(23 / 20, .update), by simp [stopSwing], rfl⟩
      kept ⟨(23 / 20, .hardware (.call .write)), by simp [stopSwing], rfl⟩ run₁ run₂ finished run₃
  refine ⟨σ, σ₁, σ₃, run, moving, run₁, runs_append_eq_some.mpr ⟨σ₂, run₂, run₃⟩, fun axis => ?_⟩
  obtain ⟨⟨call, member, same⟩, carries⟩ := carries axis
  exact carries ⟨call, member, same, (zero call member).2 Hardware.noThrow_quiet⟩

end Tb20e.Bringup
