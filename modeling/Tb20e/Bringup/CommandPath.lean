/-
# Bringup.CommandPath -- from a stick to a lever, through every component

The gamepad launch file puts three components in a line: the gamepad node, a controller
of the controller manager that takes the node's commands and assigns efforts to joints,
and the lever hardware.  A `Rig` is the three of them, with the commands that are under
way between the first two; a step is a step of one of them.  A command that is under way
may be lost, and the controller may be started again.

The controller is not part of this repository.  It is a parameter, and `Forwards` is what
the launch relies on: an update assigns the elements of the last command to the joints of
its configuration, in order.  The joints are found by name among the interfaces that the
hardware has exported, in whatever order the robot description has them.

Each component runs in the rig as it runs alone (`node_runs`, `machine_runs`).
-/
import Tb20e.Gamepad.JoyWatchdog
import Tb20e.Hardware.JointWiring
import Tb20e.Hardware.Threads

namespace Tb20e.Bringup

set_option autoImplicit false

open Tb20e.Theory Tb20e.Control
open Tb20e.Theory (Double)

/-- The `data` of a message on the command topic. -/
abbrev Command := List Double

/-- A controller between the command topic and the effort interfaces. -/
structure Controller (κ : Type) where
  /-- Its state when it has been activated. -/
  activated : κ
  receive : κ → Command → κ
  /-- The efforts that an update assigns, by joint. -/
  update : κ → List (String × Double)

/-- `joints` of `tb20e_gamepad_controller`, in the controllers files. -/
def gamepadControllerJoints : List String :=
  ["swing_joint", "boom_joint", "arm_joint", "bucket_joint"]

/-- An update assigns the elements of the last command, if there has been one. -/
def forwarded (joints : List String) (last : Option Command) : List (String × Double) :=
  match last with
  | none => []
  | some command => joints.zip command

/-- What a forwarding controller does, given commands with an element for each joint. -/
def Forwards {κ : Type} (joints : List String) (controller : Controller κ) : Prop :=
  ∀ history : List Command, (∀ command ∈ history, command.length = joints.length) →
    controller.update (history.foldl controller.receive controller.activated) =
      forwarded joints history.getLast?

/-- A controller that keeps the last command. -/
def lastCommandController (joints : List String) : Controller (Option Command) where
  activated := none
  receive _ command := some command
  update last := forwarded joints last

theorem forwards_lastCommandController (joints : List String) :
    Forwards joints (lastCommandController joints) := by
  intro history _
  have last : history.foldl (lastCommandController joints).receive
      (lastCommandController joints).activated = history.getLast? := by
    induction history using List.reverseRecOn with
    | nil => rfl
    | append_singleton history command ih => simp [lastCommandController]
  rw [last]
  rfl

/-- The components as they have been started. -/
structure Setup (κ : Type) where
  node : Gamepad.Parameters
  controller : Controller κ
  /-- The command interfaces that the hardware exports. -/
  handles : List Hardware.Handle
  hardware : Hardware.Parameters
  throws : ℕ → Bool

/-- What the gamepad launch file starts, the hardware having taken a robot description. -/
def gamepadSetup {κ : Type} (params : Gamepad.Parameters) (controller : Controller κ)
    (P : Hardware.Parameters) (info : Hardware.HardwareInfo) (indices : List Axis)
    (throws : ℕ → Bool) : Setup κ where
  node := params
  controller := controller
  handles := Hardware.exportCommandInterfaces info.joints indices
  hardware := P
  throws := throws

structure Rig (κ : Type) where
  clock : Time
  node : Gamepad.ClockedNode
  /-- The commands between the node and the controller, oldest first. -/
  inFlight : List Command
  controller : κ
  machine : Hardware.Machine

inductive Event where
  /-- A callback of the gamepad node. -/
  | node (event : Gamepad.Event)
  /-- The controller takes the oldest command under way. -/
  | receive
  /-- The oldest command under way is lost. -/
  | lose
  | activateController
  /-- The controller assigns its efforts, between two calls of the hardware. -/
  | update
  | hardware (label : Hardware.Label)

/-- The axis whose effort a joint's interface points at. -/
def effortAxis (handles : List Hardware.Handle) (joint : String) : Option Axis :=
  (handles.find? fun handle =>
    handle.prefixName = joint ∧ handle.interfaceName = Hardware.kEffort).bind fun handle =>
      match handle.slot with
      | .effortCommands axis => some axis
      | _ => none

def assignment (handles : List Hardware.Handle) (assigned : String × Double) :
    Option Hardware.Label :=
  (effortAxis handles assigned.1).map fun axis => .assignEffort axis assigned.2

section Step

variable {κ : Type} (B : Setup κ)

/-- What an update of the controller is for the hardware. -/
def assignments (state : κ) : List Hardware.Label :=
  (B.controller.update state).filterMap (assignment B.handles)

/-- The command that the node sends on an event. -/
def sent (now : Time) (s : Gamepad.Node) : Gamepad.Event → List Command
  | .tick => [axes.map (Gamepad.publishCommand B.node now s).2.command]
  | _ => []

/-- What an event is for the node. -/
def nodeEvent (event : Time × Event) : Option (Time × Gamepad.Event) :=
  match event.2 with
  | .node nodeEvent => some (event.1, nodeEvent)
  | _ => none

/-- What an event is for the hardware. -/
def machineEvents (σ : Rig κ) (event : Time × Event) : List (Time × Hardware.Label) :=
  match event.2 with
  | .update => (assignments B σ.controller).map fun label => (event.1, label)
  | .hardware label => [(event.1, label)]
  | _ => []

/-- A step that is not yet timed. -/
def move (now : Time) (σ : Rig κ) : Event → Option (Rig κ)
  | .node event =>
      (Gamepad.step B.node σ.node (now, event)).map fun node =>
        { σ with node, inFlight := σ.inFlight ++ sent B now σ.node.node event }
  | .receive =>
      match σ.inFlight with
      | [] => none
      | command :: rest =>
          some { σ with inFlight := rest, controller := B.controller.receive σ.controller command }
  | .lose =>
      match σ.inFlight with
      | [] => none
      | _ :: rest => some { σ with inFlight := rest }
  | .activateController => some { σ with controller := B.controller.activated }
  | .update =>
      (runs (Hardware.step B.hardware B.throws) σ.machine
        (machineEvents B σ (now, .update))).map fun machine => { σ with machine }
  -- Only the controller assigns efforts.
  | .hardware (.assignEffort _ _) => none
  | .hardware label =>
      (Hardware.step B.hardware B.throws σ.machine (now, label)).map fun machine =>
        { σ with machine }

/-- One step of a component, at a clock reading that is not in the past. -/
def step (σ : Rig κ) (event : Time × Event) : Option (Rig κ) :=
  if event.1 < σ.clock then none
  else (move B event.1 σ event.2).map fun τ => { τ with clock := event.1 }

/-- The rig when its components have been started. -/
def start (clock : Time) (node : Gamepad.ClockedNode) (hw : Hardware.LeverHardware) : Rig κ where
  clock := clock
  node := node
  inFlight := []
  controller := B.controller.activated
  machine := Hardware.Machine.start clock hw

end Step

/-! ## What one step can do -/

section Moved

variable {κ : Type} {B : Setup κ} {now : Time} {σ τ : Rig κ}

/-- The steps, one constructor for each thing a component can do. -/
inductive Moved (B : Setup κ) (now : Time) (σ : Rig κ) : Event → Rig κ → Prop
  | node {event : Gamepad.Event} {node : Gamepad.ClockedNode}
      (taken : Gamepad.step B.node σ.node (now, event) = some node) :
      Moved B now σ (.node event)
        { σ with node, inFlight := σ.inFlight ++ sent B now σ.node.node event }
  | receive {command : Command} {rest : List Command} (waiting : σ.inFlight = command :: rest) :
      Moved B now σ .receive
        { σ with inFlight := rest, controller := B.controller.receive σ.controller command }
  | lose {command : Command} {rest : List Command} (waiting : σ.inFlight = command :: rest) :
      Moved B now σ .lose { σ with inFlight := rest }
  | activateController :
      Moved B now σ .activateController { σ with controller := B.controller.activated }
  | update {machine : Hardware.Machine}
      (taken : runs (Hardware.step B.hardware B.throws) σ.machine
        (machineEvents B σ (now, .update)) = some machine) :
      Moved B now σ .update { σ with machine }
  | hardware {label : Hardware.Label} {machine : Hardware.Machine}
      (own : ∀ axis value, label ≠ .assignEffort axis value)
      (taken : Hardware.step B.hardware B.throws σ.machine (now, label) = some machine) :
      Moved B now σ (.hardware label) { σ with machine }

theorem moved_of_move {event : Event} (moved : move B now σ event = some τ) :
    Moved B now σ event τ := by
  cases event with
  | node event =>
      obtain ⟨node, taken, rfl⟩ := Option.map_eq_some_iff.mp moved
      exact .node taken
  | receive =>
      cases waiting : σ.inFlight with
      | nil => simp [move, waiting] at moved
      | cons command rest =>
          simp only [move, waiting, Option.some.injEq] at moved
          subst moved
          exact .receive waiting
  | lose =>
      cases waiting : σ.inFlight with
      | nil => simp [move, waiting] at moved
      | cons command rest =>
          simp only [move, waiting, Option.some.injEq] at moved
          subst moved
          exact .lose waiting
  | activateController =>
      cases moved
      exact .activateController
  | update =>
      obtain ⟨machine, taken, rfl⟩ := Option.map_eq_some_iff.mp moved
      exact .update taken
  | hardware label =>
      cases label with
      | assignEffort axis value => cases moved
      | call | advance | deliver | store =>
          obtain ⟨machine, taken, rfl⟩ := Option.map_eq_some_iff.mp moved
          exact .hardware (by simp) taken

/-- **Inversion of a step**: the clock does not go back, and one component moved. -/
theorem moved_of_step {event : Time × Event} (taken : step B σ event = some τ) :
    σ.clock ≤ event.1 ∧ ∃ τ', Moved B event.1 σ event.2 τ' ∧ τ = { τ' with clock := event.1 } := by
  unfold step at taken
  split at taken
  · cases taken
  · next forward =>
      obtain ⟨τ', moved, same⟩ := Option.map_eq_some_iff.mp taken
      exact ⟨not_lt.mp forward, τ', moved_of_move moved, same.symm⟩

/-! ## Each component runs as it runs alone -/

theorem node_step {event : Time × Event} (taken : step B σ event = some τ) :
    runs (Gamepad.step B.node) σ.node (nodeEvent event).toList = some τ.node := by
  obtain ⟨now, event⟩ := event
  obtain ⟨-, τ', moved, rfl⟩ := moved_of_step taken
  cases moved with
  | node own => exact runs_singleton.trans own
  | receive | lose | activateController | update | hardware => rfl

theorem machine_step {event : Time × Event} (taken : step B σ event = some τ) :
    runs (Hardware.step B.hardware B.throws) σ.machine (machineEvents B σ event) =
      some τ.machine := by
  obtain ⟨now, event⟩ := event
  obtain ⟨-, τ', moved, rfl⟩ := moved_of_step taken
  cases moved with
  | update assigned => exact assigned
  | hardware _ own => exact runs_singleton.trans own
  | node | receive | lose | activateController => rfl

/-- The node's events in a run. -/
def nodeEvents (events : List (Time × Event)) : List (Time × Gamepad.Event) :=
  events.filterMap nodeEvent

/-- **The node in the rig** is the node alone, on the events that are its own. -/
theorem node_runs {events : List (Time × Event)} (run : runs (step B) σ events = some τ) :
    runs (Gamepad.step B.node) σ.node (nodeEvents events) = some τ.node := by
  induction events generalizing σ with
  | nil => cases run; rfl
  | cons event rest ih =>
      obtain ⟨σ', first, later⟩ := runs_cons_eq_some.mp run
      have split : nodeEvents (event :: rest) = (nodeEvent event).toList ++ nodeEvents rest := by
        cases own : nodeEvent event <;> simp [nodeEvents, own]
      rw [split]
      exact runs_append_eq_some.mpr ⟨σ'.node, node_step first, ih later⟩

/-- **The hardware in the rig** is the hardware alone, its efforts being assigned by the
controller. -/
theorem machine_runs {events : List (Time × Event)} (run : runs (step B) σ events = some τ) :
    runs (Hardware.step B.hardware B.throws) σ.machine
      (partLabels (step B) (machineEvents B) σ events) = some τ.machine :=
  runs_part (fun _ _ _ => machine_step) run

end Moved

end Tb20e.Bringup
