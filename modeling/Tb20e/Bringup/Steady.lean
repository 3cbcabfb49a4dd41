/-
# Bringup.Steady -- a command that the node keeps sending reaches the hardware

Between the node and the levers there is what was sent before: commands under way, the
command that the controller holds, and the efforts in the hardware.  While the node sends
one and the same command, that goes away in stages.  In each stage a step that has to
happen is marked, and leads to the next (`runs_reaches`): the old commands are taken, the
controller takes a new one, and updates.  From then on every effort is the command, and
what is published is made from it (`steady_command_reaches_levers`).

`stepSending` is the rig as long as its node sends nothing else.  Each stage forbids no more
than it has to: the controller must not forget the command before it has assigned it, and
after that no lifecycle call may clear the efforts.  The stages are the same for a command of
zeros, which a call does not disturb.
-/
import Tb20e.Bringup.LeverOrigin

namespace Tb20e.Bringup

set_option autoImplicit false

open Tb20e.Theory Tb20e.Control
open Tb20e.Theory (Double)

/-- No lifecycle call, unless the command is zero. -/
def Steady (command : Axis → Double) (event : Time × Event) : Prop :=
  match event.2 with
  | .hardware (.call op) => op = .read ∨ op = .write ∨ command = fun _ => 0
  | _ => True

def Event.takes : Event → Bool
  | .receive | .lose => true
  | _ => false

/-- How many commands are taken from those under way. -/
def takes (events : List (Time × Event)) : ℕ := events.countP fun event => event.2.takes

section Sending

variable {κ : Type} (B : Setup κ) (command : Axis → Double)

/-- The commands that a step sends. -/
def sentBy (σ : Rig κ) (event : Time × Event) : List Command :=
  match event.2 with
  | .node nodeEvent => sent B event.1 σ.node.node nodeEvent
  | _ => []

/-- A step of a rig whose node sends nothing but the command. -/
def stepSending (σ : Rig κ) (event : Time × Event) : Option (Rig κ) :=
  if ∀ sent ∈ sentBy B σ event, sent = axes.map command then step B σ event else none

end Sending

section Stages

variable {κ : Type} {B : Setup κ} {command : Axis → Double} {σ τ : Rig κ} {event : Time × Event}

theorem stepSending_eq_some :
    stepSending B command σ event = some τ ↔
      (∀ sent ∈ sentBy B σ event, sent = axes.map command) ∧ step B σ event = some τ := by
  simp [stepSending]

theorem step_of_sending (taken : stepSending B command σ event = some τ) :
    step B σ event = some τ :=
  (stepSending_eq_some.mp taken).2

/-! ## Taking the old commands -/

/-- Among the commands under way, at most so many are older than the steady ones. -/
def Flushing (command : Axis → Double) (older : ℕ) (σ : Rig κ) : Prop :=
  ∃ old new, σ.inFlight = old ++ new ∧ (∀ sent ∈ new, sent = axes.map command) ∧
    old.length ≤ older

theorem flushing_step {older : ℕ} (f : Flushing command older σ)
    (taken : stepSending B command σ event = some τ) :
    Flushing command (older - if event.2.takes then 1 else 0) τ := by
  obtain ⟨sends, taken⟩ := stepSending_eq_some.mp taken
  obtain ⟨old, new, split, steady, few⟩ := f
  obtain ⟨now, event⟩ := event
  obtain ⟨-, τ', moved, rfl⟩ := moved_of_step taken
  -- Taking the oldest command takes one of the old ones, if there is one.
  have shorter {first : Command} {rest : List Command} (waiting : σ.inFlight = first :: rest) :
      ∃ old new, rest = old ++ new ∧ (∀ sent ∈ new, sent = axes.map command) ∧
        old.length ≤ older - 1 := by
    cases old with
    | nil =>
        obtain rfl : new = first :: rest := split.symm.trans waiting
        exact ⟨[], rest, rfl, fun c member => steady c (List.mem_cons_of_mem _ member), Nat.zero_le _⟩
    | cons head old =>
        obtain ⟨-, rfl⟩ := List.cons.inj (waiting.symm.trans split)
        exact ⟨old, new, rfl, steady, by simpa using Nat.sub_le_sub_right few 1⟩
  cases moved with
  | node =>
      refine ⟨old, new ++ _, by rw [← List.append_assoc, ← split], ?_, few⟩
      intro c member
      rcases List.mem_append.mp member with waiting | fresh
      · exact steady c waiting
      · exact sends c fresh
  | receive waiting => exact shorter waiting
  | lose waiting => exact shorter waiting
  | activateController | update | hardware => exact ⟨old, new, split, steady, few⟩

theorem flushing_run {older : ℕ} {events : List (Time × Event)}
    (run : runs (stepSending B command) σ events = some τ) (f : Flushing command older σ) :
    Flushing command (older - takes events) τ := by
  induction events generalizing σ older with
  | nil => cases run; simpa [takes] using f
  | cons event rest ih =>
      obtain ⟨σ', first, later⟩ := runs_cons_eq_some.mp run
      rw [takes, List.countP_cons, Nat.add_comm, ← Nat.sub_sub]
      exact ih later (flushing_step f first)

/-! ## The controller -/

/-- Only the command is under way, and the last command that the controller has seen is as
`last` says. -/
structure Drained (B : Setup κ) (command : Axis → Double) (last : Option Command → Prop)
    (σ : Rig κ) : Prop where
  inFlight : ∀ sent ∈ σ.inFlight, sent = axes.map command
  controller : ∃ history : List Command,
    σ.controller = history.foldl B.controller.receive B.controller.activated ∧
      (∀ sent ∈ history, sent.length = gamepadControllerJoints.length) ∧ last history.getLast?

/-- The controller holds the command. -/
abbrev Told (B : Setup κ) (command : Axis → Double) (σ : Rig κ) : Prop :=
  Drained B command (· = some (axes.map command)) σ

/-- Whatever the controller has seen before, it takes the command. -/
theorem told_receive {last : Option Command → Prop} (d : Drained B command last σ)
    (receives : event.2 = .receive) (taken : stepSending B command σ event = some τ) :
    Told B command τ := by
  obtain ⟨history, isHistory, sized, -⟩ := d.controller
  obtain ⟨now, event⟩ := event
  obtain rfl : event = .receive := receives
  obtain ⟨-, τ', moved, rfl⟩ := moved_of_step (step_of_sending taken)
  cases moved with
  | @receive first rest waiting =>
      have steady := d.inFlight
      rw [waiting] at steady
      obtain rfl := steady first List.mem_cons_self
      refine ⟨fun c member => steady c (List.mem_cons_of_mem _ member),
        history ++ [axes.map command], by rw [List.foldl_concat, isHistory], ?_, by simp⟩
      intro c member
      rcases List.mem_append.mp member with old | new
      · exact sized c old
      · rw [List.mem_singleton.mp new]
        rfl

/-- The controller holds the command or, being started again, nothing. -/
abbrev Holding (B : Setup κ) (command : Axis → Double) (σ : Rig κ) : Prop :=
  Drained B command (fun last => last = none ∨ last = some (axes.map command)) σ

theorem drained_step {last : Option Command → Prop} (fits : last (some (axes.map command)))
    (forgets : event.2 = .activateController → last none) (d : Drained B command last σ)
    (taken : stepSending B command σ event = some τ) : Drained B command last τ := by
  by_cases receives : event.2 = .receive
  · obtain ⟨inFlight, history, isHistory, sized, isLast⟩ := told_receive d receives taken
    exact ⟨inFlight, history, isHistory, sized, isLast ▸ fits⟩
  · obtain ⟨sends, taken⟩ := stepSending_eq_some.mp taken
    obtain ⟨now, event⟩ := event
    obtain ⟨-, τ', moved, rfl⟩ := moved_of_step taken
    cases moved with
    | node =>
        refine ⟨?_, d.controller⟩
        intro c member
        rcases List.mem_append.mp member with waiting | fresh
        · exact d.inFlight c waiting
        · exact sends c fresh
    | receive => exact absurd rfl receives
    | lose waiting =>
        exact ⟨fun c member => d.inFlight c (waiting ▸ List.mem_cons_of_mem _ member), d.controller⟩
    | activateController => exact ⟨d.inFlight, [], rfl, by simp, forgets rfl⟩
    | update | hardware => exact ⟨d.inFlight, d.controller⟩

theorem told_step (told : Told B command σ) (kept : event.2 ≠ .activateController)
    (taken : stepSending B command σ event = some τ) : Told B command τ :=
  have fits : (fun last => last = some (axes.map command)) (some (axes.map command)) := rfl
  drained_step fits (fun restarts => absurd restarts kept) told taken

theorem holding_of_told (told : Told B command σ) : Holding B command σ := by
  obtain ⟨history, isHistory, sized, isLast⟩ := told.controller
  exact ⟨told.inFlight, history, isHistory, sized, .inr isLast⟩

/-! ## The hardware -/

/-- The command has been assigned, the controller holds no other, and no call under way
clears it. -/
structure Assigned (B : Setup κ) (command : Axis → Double) (σ : Rig κ) : Prop where
  holding : Holding B command σ
  efforts : σ.machine.hw.effortCommands = command
  keeps : .clearCommands ∈ σ.machine.pending → command = fun _ => 0

/-- What an update assigns when the controller holds the command. -/
theorem assignments_of_told (forwards : Forwards gamepadControllerJoints B.controller)
    (reaches : Reaches B.handles) (told : Told B command σ) :
    assignments B σ.controller = axes.map fun axis => .assignEffort axis (command axis) := by
  obtain ⟨history, isHistory, sized, isLast⟩ := told.controller
  rw [assignments, isHistory, forwards history sized, isLast, forwarded_axes, List.filterMap_map,
    ← List.filterMap_eq_map]
  congr 1
  funext axis
  simp [assignment, reaches axis]

/-- An update that assigns the command. -/
theorem update_of_assignments
    (assigns : assignments B σ.controller = axes.map fun axis => .assignEffort axis (command axis))
    {now : Time} {machine : Hardware.Machine}
    (assigned : runs (Hardware.step B.hardware B.throws) σ.machine
      (machineEvents B σ (now, .update)) = some machine) :
    machine.hw.attempts = σ.machine.hw.attempts ∧ machine.pending = σ.machine.pending ∧
      σ.machine.pending = [] ∧ machine.hw.effortCommands = command := by
  have labels : machineEvents B σ (now, .update) =
      axes.map fun axis => (now, .assignEffort axis (command axis)) := by
    simp only [machineEvents, assigns, List.map_map, Function.comp_def]
  rw [labels] at assigned
  obtain ⟨attempts, pending, idle, efforts⟩ := Hardware.runs_assignEffort assigned
  exact ⟨attempts, pending, idle (by simp [axes]),
    funext fun axis => (efforts axis).trans (if_pos (mem_axes axis))⟩

/-- An update of a controller that holds no other command leaves the command where it is. -/
theorem update_of_holding (forwards : Forwards gamepadControllerJoints B.controller)
    (reaches : Reaches B.handles) (holding : Holding B command σ)
    (efforts : σ.machine.hw.effortCommands = command) {now : Time} {machine : Hardware.Machine}
    (assigned : runs (Hardware.step B.hardware B.throws) σ.machine
      (machineEvents B σ (now, .update)) = some machine) :
    machine.hw.attempts = σ.machine.hw.attempts ∧ machine.pending = σ.machine.pending ∧
      machine.hw.effortCommands = command := by
  obtain ⟨history, isHistory, sized, nothing | isLast⟩ := holding.controller
  · have silent : assignments B σ.controller = [] := by
      rw [assignments, isHistory, forwards history sized, nothing]
      rfl
    simp only [machineEvents, silent, List.map_nil, runs_nil, Option.some.injEq] at assigned
    exact assigned ▸ ⟨rfl, rfl, efforts⟩
  · have told : Told B command σ := ⟨holding.inFlight, history, isHistory, sized, isLast⟩
    obtain ⟨attempts, pending, -, efforts⟩ :=
      update_of_assignments (assignments_of_told forwards reaches told) assigned
    exact ⟨attempts, pending, efforts⟩

/-- An update gives the hardware the command. -/
theorem assigned_update (forwards : Forwards gamepadControllerJoints B.controller)
    (reaches : Reaches B.handles) (told : Told B command σ) (updates : event.2 = .update)
    (taken : stepSending B command σ event = some τ) : Assigned B command τ := by
  obtain ⟨now, event⟩ := event
  obtain rfl : event = .update := updates
  have told' := told_step told (by simp) taken
  obtain ⟨-, τ', moved, rfl⟩ := moved_of_step (step_of_sending taken)
  cases moved with
  | update assigned =>
      obtain ⟨-, pending, idle, efforts⟩ :=
        update_of_assignments (assignments_of_told forwards reaches told) assigned
      refine ⟨holding_of_told told', efforts, fun clears => ?_⟩
      rw [pending, idle] at clears
      cases clears

/-- A lever message made from the command. -/
def MadeFrom (P : Hardware.Parameters) (command : Axis → Double) (call : Hardware.Attempt) : Prop :=
  ∃ (effort : ℚ) (direction : ℤ), command call.axis = effort ∧
    let config := P.axisConfigs call.axis
    call.data = Double.finite (config.lever (config.bounded effort) direction).1

/-- What has been published since some calls is zero or made from the command. -/
def MadeSince (P : Hardware.Parameters) (command : Axis → Double) (before after : List Hardware.Attempt) :
    Prop :=
  ∃ calls, after = calls ++ before ∧ ∀ call ∈ calls, call.data ≠ 0 → MadeFrom P command call

/-- **The hardware keeps a command it has**, and publishes nothing else. -/
theorem assigned_step (valid : B.hardware.Valid)
    (forwards : Forwards gamepadControllerJoints B.controller) (reaches : Reaches B.handles)
    (a : Assigned B command σ) (steady : Steady command event)
    (taken : stepSending B command σ event = some τ) :
    Assigned B command τ ∧ MadeSince B.hardware command σ.machine.hw.attempts τ.machine.hw.attempts := by
  have holding := drained_step (.inr rfl) (fun _ => .inl rfl) a.holding taken
  have silent {attempts : List Hardware.Attempt} (same : attempts = σ.machine.hw.attempts) :
      MadeSince B.hardware command σ.machine.hw.attempts attempts := ⟨[], same, by simp⟩
  obtain ⟨now, event⟩ := event
  obtain ⟨-, τ', moved, rfl⟩ := moved_of_step (step_of_sending taken)
  cases moved with
  | node | receive | lose | activateController => exact ⟨⟨holding, a.efforts, a.keeps⟩, silent rfl⟩
  | update assigned =>
      obtain ⟨attempts, pending, efforts⟩ :=
        update_of_holding forwards reaches a.holding a.efforts assigned
      exact ⟨⟨holding, efforts, fun clears => a.keeps (pending ▸ clears)⟩, silent attempts⟩
  | @hardware label machine own stepped =>
      have published : MadeSince B.hardware command σ.machine.hw.attempts machine.hw.attempts := by
        obtain ⟨calls, attempts, made⟩ := Hardware.step_calls stepped
        refine ⟨calls, attempts, fun call member nonzero => ?_⟩
        have inLoop := ((made call member).2 nonzero).2
        rw [Hardware.data_of_mem_loopCalls inLoop] at nonzero
        obtain ⟨effort, isEffort, data⟩ := Hardware.effort_of_leverMessage valid nonzero
        refine ⟨effort, _, ?_, (Hardware.data_of_mem_loopCalls inLoop).trans data⟩
        rw [← isEffort, ← a.efforts]
      refine ⟨⟨holding, ?_, ?_⟩, published⟩
      · rcases Hardware.step_effortCommands stepped with same | ⟨clears, zero⟩ | ⟨axis, value, label, -⟩
        · exact same.trans a.efforts
        · exact zero.trans (a.keeps clears).symm
        · exact absurd label (own axis value)
      · intro clears
        rcases Hardware.mem_pending_step stepped clears with before | ⟨op, rfl, inside⟩
        · exact a.keeps before
        · rcases steady with rfl | rfl | zero
          · simp [Hardware.ControlOp.sections] at inside
          · simp [Hardware.ControlOp.sections] at inside
          · exact zero

theorem assigned_run (valid : B.hardware.Valid)
    (forwards : Forwards gamepadControllerJoints B.controller) (reaches : Reaches B.handles)
    {events : List (Time × Event)} (steady : ∀ event ∈ events, Steady command event)
    (run : runs (stepSending B command) σ events = some τ) (a : Assigned B command σ) :
    Assigned B command τ ∧ MadeSince B.hardware command σ.machine.hw.attempts τ.machine.hw.attempts := by
  refine runs_invariant_on (I := fun ρ : Rig κ => Assigned B command ρ ∧
    MadeSince B.hardware command σ.machine.hw.attempts ρ.machine.hw.attempts) (Steady command) ?_
    steady run ⟨a, [], rfl, by simp⟩
  rintro ρ event ρ' free ⟨assigned, earlier, before, made⟩ taken
  obtain ⟨next, calls, attempts, new⟩ := assigned_step valid forwards reaches assigned free taken
  refine ⟨next, calls ++ earlier, by rw [attempts, before, List.append_assoc], ?_⟩
  intro call member
  rcases List.mem_append.mp member with fresh | old
  · exact new call fresh
  · exact made call old

end Stages

/-! ## The stages together -/

section Reaching

variable {κ : Type} {controller : Controller κ} {params : Gamepad.Parameters}
  {stod : Hardware.Stod} {baseOk : Bool} {info : Hardware.HardwareInfo} {P : Hardware.Parameters}
  {indices : List Axis} {hw : Hardware.LeverHardware} {throws : ℕ → Bool}
  {clock joyTime positionTime nodeClock : Time} {before : List (Time × Event)} {σ σ₁ τ : Rig κ}
  {command : Axis → Double} {taking receiving updating later : List (Time × Event)}

/-- **Through the stages**: commands that were under way are taken, the controller takes
another one, and it updates without having been started again. -/
theorem assigned_of_stages
    (init : Hardware.onInit stod baseOk info = .ok (P, indices, hw))
    (passed : Gamepad.validateParameters params = .ok ())
    (forwards : Forwards gamepadControllerJoints controller) {B : Setup κ}
    (setup : B = gamepadSetup params controller P info indices throws)
    (run : runs (step B)
      (start B clock (Gamepad.start params joyTime positionTime nodeClock) hw) before = some σ)
    (kept : ∀ event ∈ receiving ++ updating, event.2 ≠ .activateController)
    (steady : ∀ event ∈ updating, Steady command event)
    (takesOld : σ.inFlight.length ≤ takes taking)
    (receives : ∃ event ∈ receiving, event.2 = .receive)
    (updates : ∃ event ∈ updating, event.2 = .update)
    (run₁ : runs (stepSending B command) σ (taking ++ receiving ++ updating) = some σ₁) :
    Assigned B command σ₁ := by
  obtain ⟨loaded, -, rfl⟩ := Hardware.onInit_eq_ok init
  have valid : B.hardware.Valid := setup ▸ Hardware.loadHardwareParameters_valid loaded
  have accepted : B.node.Accepted := setup ▸ Gamepad.accepted_of_validate passed
  have forwards : Forwards gamepadControllerJoints B.controller := setup ▸ forwards
  have reaches : Reaches B.handles := setup ▸ reaches_of_onInit init
  obtain rfl : params = B.node := setup ▸ rfl
  obtain ⟨σ', run', updated⟩ := runs_append_eq_some.mp run₁
  obtain ⟨σ'', taken, received⟩ := runs_append_eq_some.mp run'
  have flushed := flushing_run taken
    (⟨σ.inFlight, [], by simp, by simp, le_rfl⟩ : Flushing command σ.inFlight.length σ)
  have originates := runs_history_invariant
    (fun past _ _ _ o taken => originates_step accepted valid forwards reaches o taken)
    [] (runs_append_eq_some.mpr ⟨σ, run, runs_mono (fun _ _ _ => step_of_sending) taken⟩)
    (originates_start B clock joyTime positionTime nodeClock P)
  have drained : Drained B command (fun _ => True) σ'' := by
    obtain ⟨old, new, split, onlyNew, few⟩ := flushed
    obtain rfl : old = [] := List.eq_nil_of_length_eq_zero (by omega)
    obtain ⟨history, isHistory, seen⟩ := originates.controller
    exact ⟨by simpa [split] using onlyNew, history, isHistory,
      fun command member => (seen command member).length_eq, trivial⟩
  have told : Told B command σ' :=
    runs_reaches (fun event => event.2 ≠ .activateController) (fun event => event.2 = .receive)
      (fun _ _ _ _ d taken => drained_step trivial (fun _ => trivial) d taken)
      (fun _ _ _ receives d taken => told_receive d receives taken)
      (fun _ _ _ kept told taken => told_step told kept taken)
      (fun event member => kept event (List.mem_append_left _ member)) receives received drained
  exact runs_reaches (fun event => event.2 ≠ .activateController ∧ Steady command event)
    (fun event => event.2 = .update)
    (fun _ _ _ free told taken => told_step told free.1 taken)
    (fun _ _ _ updates told taken => assigned_update forwards reaches told updates taken)
    (fun _ _ _ free assigned taken => (assigned_step valid forwards reaches assigned free.2 taken).1)
    (fun event member => ⟨kept event (List.mem_append_right _ member), steady event member⟩)
    updates updated told

/-- From there on the hardware keeps the command. -/
theorem kept_of_assigned (init : Hardware.onInit stod baseOk info = .ok (P, indices, hw))
    (forwards : Forwards gamepadControllerJoints controller) {B : Setup κ}
    (setup : B = gamepadSetup params controller P info indices throws)
    (assigned : Assigned B command σ₁) (steady : ∀ event ∈ later, Steady command event)
    (run₂ : runs (stepSending B command) σ₁ later = some τ) :
    τ.machine.hw.effortCommands = command ∧
      MadeSince P command σ₁.machine.hw.attempts τ.machine.hw.attempts := by
  have valid : B.hardware.Valid :=
    setup ▸ Hardware.loadHardwareParameters_valid (Hardware.onInit_eq_ok init).1
  have forwards : Forwards gamepadControllerJoints B.controller := setup ▸ forwards
  have reaches : Reaches B.handles := setup ▸ reaches_of_onInit init
  obtain ⟨kept, since⟩ := assigned_run valid forwards reaches steady run₂ assigned
  have same : P = B.hardware := setup ▸ rfl
  exact ⟨kept.efforts, same ▸ since⟩

/-- **A steady command reaches the levers.**  In a rig that has been started as the launch
starts it, let the node send one and the same command from some state on.  Let the commands
that were under way be taken, the controller take another one and then update, not being
started again in between.  Then every effort in the hardware is that command's, as long as
no lifecycle call comes; and every lever message published since the update is zero or the
lever of that command. -/
theorem steady_command_reaches_levers
    (init : Hardware.onInit stod baseOk info = .ok (P, indices, hw))
    (passed : Gamepad.validateParameters params = .ok ())
    (forwards : Forwards gamepadControllerJoints controller) {B : Setup κ}
    (setup : B = gamepadSetup params controller P info indices throws)
    (run : runs (step B)
      (start B clock (Gamepad.start params joyTime positionTime nodeClock) hw) before = some σ)
    (kept : ∀ event ∈ receiving ++ updating, event.2 ≠ .activateController)
    (steady : ∀ event ∈ updating ++ later, Steady command event)
    (takesOld : σ.inFlight.length ≤ takes taking)
    (receives : ∃ event ∈ receiving, event.2 = .receive)
    (updates : ∃ event ∈ updating, event.2 = .update)
    (run₁ : runs (stepSending B command) σ (taking ++ receiving ++ updating) = some σ₁)
    (run₂ : runs (stepSending B command) σ₁ later = some τ) :
    τ.machine.hw.effortCommands = command ∧
      MadeSince P command σ₁.machine.hw.attempts τ.machine.hw.attempts := by
  have assigned := assigned_of_stages init passed forwards setup run kept
    (fun event member => steady event (List.mem_append_left _ member)) takesOld receives updates run₁
  exact kept_of_assigned init forwards setup assigned
    (fun event member => steady event (List.mem_append_right _ member)) run₂

end Reaching

/-- Full swing. -/
def fullSwing : Axis → Double
  | 0 => (100 : ℚ)
  | _ => 0

/-- The stick stays where it is while the command goes through once more, and then a write
comes. -/
def holdSwing : List (List (Time × Event)) :=
  [[], [(11 / 10, .node .tick), (11 / 10, .receive)], [(11 / 10, .update)],
    (11 / 10, .node .tick) :: (11 / 10, .hardware (.call .write)) ::
      List.replicate 3 (11 / 10, .hardware .advance)]

theorem steady_command_reaches_levers_swing :
    ∃ σ σ₁ τ, runs (step shuffledSetup) (start shuffledSetup 0 (Gamepad.start {} 0 0 0)
        (Hardware.initialHardware Hardware.defaultParameters)) armThenSwingRig = some σ ∧
      runs (stepSending shuffledSetup fullSwing) σ (holdSwing[0] ++ holdSwing[1] ++ holdSwing[2]) =
        some σ₁ ∧
      runs (stepSending shuffledSetup fullSwing) σ₁ holdSwing[3] = some τ ∧
      Hardware.lastMessage τ.machine.hw.attempts 0 = some (Double.finite 100) ∧
      τ.machine.hw.effortCommands = fullSwing ∧
      MadeSince Hardware.defaultParameters fullSwing σ₁.machine.hw.attempts τ.machine.hw.attempts := by
  obtain ⟨σ, run, few, σ₁, run₁, τ, run₂, pushed⟩ :
      ∃ σ ∈ runs (step shuffledSetup) (start shuffledSetup 0 (Gamepad.start {} 0 0 0)
          (Hardware.initialHardware Hardware.defaultParameters)) armThenSwingRig,
        σ.inFlight.length ≤ takes holdSwing[0] ∧
        ∃ σ₁ ∈ runs (stepSending shuffledSetup fullSwing) σ
            (holdSwing[0] ++ holdSwing[1] ++ holdSwing[2]),
          ∃ τ ∈ runs (stepSending shuffledSetup fullSwing) σ₁ holdSwing[3],
            Hardware.lastMessage τ.machine.hw.attempts 0 = some (Double.finite 100) := by
    decide +kernel
  have init : Hardware.onInit (fun _ => .error "") true shuffledInfo =
      .ok (Hardware.defaultParameters, [3, 0, 2, 1],
        Hardware.initialHardware Hardware.defaultParameters) :=
    Hardware.onInit_of_loaded (Hardware.loadHardwareParameters_unset fun _ => rfl) rfl
  have kept : ∀ event ∈ holdSwing[1] ++ holdSwing[2], event.2 ≠ .activateController := by
    simp [holdSwing]
  have steady : ∀ event ∈ holdSwing[2] ++ holdSwing[3], Steady fullSwing event := by
    simp [holdSwing, Steady]
  exact ⟨σ, σ₁, τ, run, run₁, run₂, pushed,
    steady_command_reaches_levers init (Gamepad.validateParameters_default false)
      (forwards_lastCommandController _) (B := shuffledSetup) rfl run kept steady few
      ⟨(11 / 10, .receive), by simp [holdSwing], rfl⟩
      ⟨(11 / 10, .update), by simp [holdSwing], rfl⟩ run₁ run₂⟩

end Tb20e.Bringup
