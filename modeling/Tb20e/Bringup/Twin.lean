/-
# Bringup.Twin -- the machine, its simulator, and the node that moves both

With the Unity output enabled two nodes send commands to the simulator: the relay of the
machine's angles (`ImuToSim`), and the gamepad node, which starts from the angles that the
simulator reports.  A `Twin` is the two nodes, the simulator, and what is under way between
them; commands and reports may come late or be lost.  The launch file gives both nodes the
same command topics and the same signs (`Launched`).

The simulator is not part of this repository, and it is a parameter: any state, any answer to
a command or to the passing of time, any report.  `node_takes_over` asks nothing of it.  When
feedback comes back while the sticks rest, what the gamepad node tells the simulator is what
the simulator has told it last, in radians: the swing wrapped, and the other axes brought into
their joint ranges if the Joy is live.  `Bringup.TwinRange` asks the simulator to follow.
-/
import Tb20e.ImuToSim.Node
import Tb20e.Gamepad.UnityRange

namespace Tb20e.Bringup

set_option autoImplicit false

open Tb20e.Theory Tb20e.Control Tb20e.Control.PositionCommand
open Tb20e.Theory (Double)

/-- What reaches the simulator. -/
inductive SimulatorInput where
  /-- A position command of an axis. -/
  | command (axis : Axis) (data : Double)
  /-- Time passes. -/
  | time (now : Time)

/-- A simulator between the command topics and the topics of its angles. -/
structure Simulator (υ : Type) where
  started : υ
  next : υ → SimulatorInput → υ
  /-- The angle of an axis that it would report, in degrees. -/
  report : υ → Axis → Double

structure TwinSetup (υ : Type) where
  relay : ImuToSim.Parameters
  node : Gamepad.Parameters
  simulator : Simulator υ

/-- The two nodes as the launch starts them: their constructors return, the Unity output is
enabled, and both are given the same signs. -/
structure TwinSetup.Launched {υ : Type} (B : TwinSetup υ) : Prop where
  constructed : ImuToSim.construct B.relay = .ok ()
  passed : Gamepad.validateParameters B.node = .ok ()
  enabled : B.node.unityPositionOutputEnabled = true
  signs : ∀ axis, B.relay.positionSigns axis = B.node.unityPositionSigns axis

namespace TwinSetup.Launched

variable {υ : Type} {B : TwinSetup υ}

theorem accepted (launched : B.Launched) : B.node.Accepted :=
  Gamepad.accepted_of_validate launched.passed

/-- The sign that the relay and the node have in common. -/
theorem sign (launched : B.Launched) (axis : Axis) :
    ∃ sign : ℚ, B.relay.positionSigns axis = sign ∧ B.node.unityPositionSigns axis = sign ∧
      sign * sign = 1 := by
  obtain ⟨sign, isSign, unit⟩ := (ImuToSim.construct_eq_ok.mp launched.constructed axis).2
  refine ⟨sign, isSign, launched.signs axis ▸ isSign, ?_⟩
  rw [← abs_mul_abs_self, unit, one_mul]

end TwinSetup.Launched

structure Twin (υ : Type) where
  node : Gamepad.ClockedNode
  /-- The commands under way to the simulator, oldest first. -/
  commands : Axis → List Double
  simulator : υ
  /-- The reports under way to the gamepad node, oldest first. -/
  reports : Axis → List Double
  /-- The last report that the gamepad node has taken. -/
  heard : Axis → Option Double
  /-- What the gamepad node has published so far. -/
  published : List (Axis → Double)

inductive TwinEvent where
  /-- A message of the machine, taken by the relay. -/
  | imu (axis : Axis) (data : Double)
  /-- The simulator takes the oldest command of an axis. -/
  | take (axis : Axis)
  | loseCommand (axis : Axis)
  /-- The simulator moves on by itself. -/
  | simulate
  | report (axis : Axis)
  /-- The gamepad node takes the oldest report of an axis. -/
  | deliver (axis : Axis)
  | loseReport (axis : Axis)
  | joy (message : Gamepad.Joy)
  | tick

namespace Twin

/-- The rest of a queue, if there is something in it. -/
def pop (queues : Axis → List Double) (axis : Axis) : Option (Double × (Axis → List Double)) :=
  match queues axis with
  | [] => none
  | first :: rest => some (first, Function.update queues axis rest)

def push (queues : Axis → List Double) (axis : Axis) (data : Double) : Axis → List Double :=
  Function.update queues axis (queues axis ++ [data])

section Step

variable {υ : Type} (B : TwinSetup υ)

def step (σ : Twin υ) (event : Time × TwinEvent) : Option (Twin υ) :=
  match event.2 with
  | .imu axis data =>
      match ImuToSim.publishSimCommand B.relay axis data with
      | none => some σ
      | some command => some { σ with commands := push σ.commands axis command }
  | .take axis => (pop σ.commands axis).map fun (command, commands) =>
      { σ with commands, simulator := B.simulator.next σ.simulator (.command axis command) }
  | .loseCommand axis => (pop σ.commands axis).map fun (_, commands) => { σ with commands }
  | .simulate => some { σ with simulator := B.simulator.next σ.simulator (.time event.1) }
  | .report axis =>
      some { σ with reports := push σ.reports axis (B.simulator.report σ.simulator axis) }
  | .deliver axis => do
      let (report, reports) ← pop σ.reports axis
      let node ← Gamepad.step B.node σ.node (event.1, .simFeedback axis report)
      return { σ with node, reports, heard := Function.update σ.heard axis (some report) }
  | .loseReport axis => (pop σ.reports axis).map fun (_, reports) => { σ with reports }
  | .joy message =>
      (Gamepad.step B.node σ.node (event.1, .joy message)).map fun node => { σ with node }
  | .tick =>
      (Gamepad.step B.node σ.node (event.1, .tick)).map fun node =>
        match (Gamepad.publishCommand B.node event.1 σ.node.node).2.unity with
        | none => { σ with node }
        | some targets =>
            { σ with
              node
              commands := fun axis => σ.commands axis ++ [targets axis]
              published := targets :: σ.published }

def start (node : Gamepad.ClockedNode) : Twin υ where
  node := node
  commands := fun _ => []
  simulator := B.simulator.started
  reports := fun _ => []
  heard := fun _ => none
  published := []

end Step

section Queues

variable {queues rest : Axis → List Double} {axis other : Axis} {first data entry : Double}

theorem pop_eq_some (popped : pop queues axis = some (first, rest)) :
    first ∈ queues axis ∧ ∀ other, rest other ⊆ queues other := by
  unfold pop at popped
  cases queue : queues axis with
  | nil => simp [queue] at popped
  | cons head tail =>
      obtain ⟨rfl, rfl⟩ : head = first ∧ Function.update queues axis tail = rest := by
        simpa [queue] using popped
      refine ⟨List.mem_cons_self, fun other => ?_⟩
      by_cases same : other = axis
      · subst same
        simp [queue]
      · simp [Function.update_of_ne same]

theorem mem_push (member : entry ∈ push queues axis data other) :
    entry ∈ queues other ∨ (other = axis ∧ entry = data) := by
  unfold push at member
  by_cases same : other = axis
  · subst same
    simpa using member
  · exact .inl (by simpa [Function.update_of_ne same] using member)

end Queues

/-! ## What one step can do -/

section Moved

variable {υ : Type} {B : TwinSetup υ} {now : Time} {σ τ : Twin υ}

/-- The steps, one constructor for each thing that can happen. -/
inductive Moved (B : TwinSetup υ) (now : Time) (σ : Twin υ) : TwinEvent → Twin υ → Prop
  | ignored {axis : Axis} {data : Double}
      (silent : ImuToSim.publishSimCommand B.relay axis data = none) :
      Moved B now σ (.imu axis data) σ
  | relayed {axis : Axis} {data command : Double}
      (answered : ImuToSim.publishSimCommand B.relay axis data = some command) :
      Moved B now σ (.imu axis data) { σ with commands := push σ.commands axis command }
  | take {axis : Axis} {command : Double} {commands : Axis → List Double}
      (waiting : command ∈ σ.commands axis) (rest : ∀ other, commands other ⊆ σ.commands other) :
      Moved B now σ (.take axis)
        { σ with commands, simulator := B.simulator.next σ.simulator (.command axis command) }
  | loseCommand {axis : Axis} {commands : Axis → List Double}
      (rest : ∀ other, commands other ⊆ σ.commands other) :
      Moved B now σ (.loseCommand axis) { σ with commands }
  | simulate :
      Moved B now σ .simulate { σ with simulator := B.simulator.next σ.simulator (.time now) }
  | report {axis : Axis} :
      Moved B now σ (.report axis)
        { σ with reports := push σ.reports axis (B.simulator.report σ.simulator axis) }
  | deliver {axis : Axis} {report : Double} {reports : Axis → List Double}
      (waiting : report ∈ σ.reports axis) (rest : ∀ other, reports other ⊆ σ.reports other) :
      Moved B now σ (.deliver axis)
        { σ with
          node := { clock := now
                    node := Gamepad.simFeedbackCallback B.node axis report now σ.node.node }
          reports
          heard := Function.update σ.heard axis (some report) }
  | loseReport {axis : Axis} {reports : Axis → List Double}
      (rest : ∀ other, reports other ⊆ σ.reports other) :
      Moved B now σ (.loseReport axis) { σ with reports }
  | joy {message : Gamepad.Joy} :
      Moved B now σ (.joy message)
        { σ with node := { clock := now
                           node := Gamepad.joyCallback B.node message now σ.node.node } }
  | silentTick (silent : (Gamepad.publishCommand B.node now σ.node.node).2.unity = none) :
      Moved B now σ .tick
        { σ with node := { clock := now
                           node := (Gamepad.publishCommand B.node now σ.node.node).1 } }
  | tick {targets : Axis → Double}
      (unity : (Gamepad.publishCommand B.node now σ.node.node).2.unity = some targets) :
      Moved B now σ .tick
        { σ with
          node := { clock := now, node := (Gamepad.publishCommand B.node now σ.node.node).1 }
          commands := fun axis => σ.commands axis ++ [targets axis]
          published := targets :: σ.published }

/-- **Inversion of a step.** -/
theorem moved_of_step {event : Time × TwinEvent} (taken : step B σ event = some τ) :
    Moved B event.1 σ event.2 τ := by
  obtain ⟨now, event⟩ := event
  cases event with
  | imu axis data =>
      cases answered : ImuToSim.publishSimCommand B.relay axis data with
      | none =>
          obtain rfl : σ = τ := by simpa [step, answered] using taken
          exact .ignored answered
      | some command =>
          obtain rfl : { σ with commands := push σ.commands axis command } = τ := by
            simpa [step, answered] using taken
          exact .relayed answered
  | take axis =>
      obtain ⟨⟨command, commands⟩, popped, rfl⟩ := Option.map_eq_some_iff.mp taken
      exact .take (pop_eq_some popped).1 (pop_eq_some popped).2
  | loseCommand axis =>
      obtain ⟨⟨command, commands⟩, popped, rfl⟩ := Option.map_eq_some_iff.mp taken
      exact .loseCommand (pop_eq_some popped).2
  | simulate =>
      obtain rfl := Option.some.inj taken
      exact .simulate
  | report axis =>
      obtain rfl := Option.some.inj taken
      exact .report
  | deliver axis =>
      obtain ⟨⟨report, reports⟩, popped, taken⟩ := Option.bind_eq_some_iff.mp taken
      obtain ⟨node, called, same⟩ := Option.bind_eq_some_iff.mp taken
      obtain rfl := Option.some.inj same
      obtain ⟨-, -, rfl⟩ := Gamepad.step_eq_some.mp called
      exact .deliver (pop_eq_some popped).1 (pop_eq_some popped).2
  | loseReport axis =>
      obtain ⟨⟨report, reports⟩, popped, rfl⟩ := Option.map_eq_some_iff.mp taken
      exact .loseReport (pop_eq_some popped).2
  | joy message =>
      obtain ⟨node, called, rfl⟩ := Option.map_eq_some_iff.mp taken
      obtain ⟨-, -, rfl⟩ := Gamepad.step_eq_some.mp called
      exact .joy
  | tick =>
      obtain ⟨node, called, rfl⟩ := Option.map_eq_some_iff.mp taken
      obtain ⟨-, -, rfl⟩ := Gamepad.step_eq_some.mp called
      cases unity : (Gamepad.publishCommand B.node now σ.node.node).2.unity with
      | none => exact .silentTick unity
      | some targets => exact .tick unity

end Moved

/-! ## What the node has heard -/

section Traced

variable {υ : Type}

/-- In the course of a run the simulator has reported this of the axis. -/
def Reported (B : TwinSetup υ) (node : Gamepad.ClockedNode) (past : List (Time × TwinEvent))
    (axis : Axis) (report : Double) : Prop :=
  ∃ earlier now ρ, earlier ++ [(now, .report axis)] <+: past ∧
    runs (step B) (start B node) earlier = some ρ ∧ B.simulator.report ρ.simulator axis = report

/-- What is under way to the node is what the simulator has reported, and what the node holds
is the last of it that it has taken. -/
structure Traced (B : TwinSetup υ) (node : Gamepad.ClockedNode) (past : List (Time × TwinEvent))
    (σ : Twin υ) : Prop where
  reports : ∀ axis, ∀ report ∈ σ.reports axis, Reported B node past axis report
  heard : ∀ {axis report}, σ.heard axis = some report → Reported B node past axis report
  held : ∀ axis, σ.node.node.simFeedbackReceived axis = true → ∃ degrees : ℚ,
    σ.heard axis = some (Double.finite degrees) ∧ σ.node.node.simFeedbackPositions axis =
      B.node.unityPositionSigns axis * degreesToRadians (Double.finite degrees)
  sound : Gamepad.Sound σ.node.node

variable {B : TwinSetup υ} {node : Gamepad.ClockedNode} {past : List (Time × TwinEvent)}
  {σ τ : Twin υ}

theorem Reported.mono {axis : Axis} {report : Double} (reported : Reported B node past axis report)
    (event : Time × TwinEvent) : Reported B node (past ++ [event]) axis report := by
  obtain ⟨earlier, now, ρ, upTo, run, same⟩ := reported
  exact ⟨earlier, now, ρ, upTo.trans (List.prefix_append ..), run, same⟩

/-- A report that the node takes. -/
theorem held_deliver {axis other : Axis} {report : Double} {now : Time}
    (held : ∀ axis, σ.node.node.simFeedbackReceived axis = true → ∃ degrees : ℚ,
      σ.heard axis = some (Double.finite degrees) ∧ σ.node.node.simFeedbackPositions axis =
        B.node.unityPositionSigns axis * degreesToRadians (Double.finite degrees))
    (received : (Gamepad.simFeedbackCallback B.node axis report now
      σ.node.node).simFeedbackReceived other = true) :
    ∃ degrees : ℚ, Function.update σ.heard axis (some report) other = some (Double.finite degrees) ∧
      (Gamepad.simFeedbackCallback B.node axis report now σ.node.node).simFeedbackPositions other =
        B.node.unityPositionSigns other * degreesToRadians (Double.finite degrees) := by
  simp only [Gamepad.simFeedbackCallback] at received ⊢
  cases report with
  | inf | nan =>
      by_cases same : other = axis
      · subst same
        simp at received
      · simpa [same] using held other (by simpa [same] using received)
  | finite degrees =>
      by_cases same : other = axis
      · subst same
        exact ⟨degrees, by simp⟩
      · simpa [same] using held other (by simpa [same] using received)

/-- **Every step keeps track** of what the node has heard. -/
theorem traced_step {event : Time × TwinEvent} (launched : B.Launched)
    (upTo : runs (step B) (start B node) past = some σ) (t : Traced B node past σ)
    (taken : step B σ event = some τ) : Traced B node (past ++ [event]) τ := by
  have sound := Gamepad.sound_exec launched.accepted launched.enabled t.sound
  have reports (axis : Axis) (report : Double) (member : report ∈ σ.reports axis) :
      Reported B node (past ++ [event]) axis report :=
    (t.reports axis report member).mono event
  have heard {axis : Axis} {report : Double} (last : σ.heard axis = some report) :
      Reported B node (past ++ [event]) axis report :=
    (t.heard last).mono event
  have moved := moved_of_step taken
  obtain ⟨now, event⟩ := event
  cases moved with
  | ignored | relayed | take | loseCommand | simulate => exact ⟨reports, heard, t.held, t.sound⟩
  | @report axis =>
      refine ⟨fun other report member => ?_, heard, t.held, t.sound⟩
      rcases mem_push member with old | ⟨rfl, rfl⟩
      · exact reports other report old
      · exact ⟨past, now, σ, List.prefix_rfl, upTo, rfl⟩
  | @deliver axis report rest waiting fewer =>
      refine ⟨fun other entry member => reports other entry (fewer other member),
        fun {other entry} last => ?_, fun other received => held_deliver t.held received,
        sound now (.simFeedback axis report)⟩
      by_cases same : other = axis
      · subst same
        obtain rfl : report = entry := by simpa using last
        exact reports other report waiting
      · exact heard (by simpa [same] using last)
  | loseReport fewer =>
      exact ⟨fun other entry member => reports other entry (fewer other member), heard, t.held,
        t.sound⟩
  | @joy message =>
      refine ⟨reports, heard, ?_, sound now (.joy message)⟩
      simp only [Gamepad.joyCallback]
      split <;> exact t.held
  | silentTick | tick =>
      have ticked := Gamepad.ticked_publishCommand B.node launched.enabled now σ.node.node
      refine ⟨reports, heard, ?_, sound now .tick⟩
      simpa only [ticked.received, ticked.positions] using t.held

theorem traced_start (B : TwinSetup υ) (joyTime positionTime clock : Time) :
    Traced B (Gamepad.start B.node joyTime positionTime clock) []
      (start B (Gamepad.start B.node joyTime positionTime clock)) where
  reports axis report member := by cases member
  heard last := by cases last
  held axis received := by cases received
  sound := Gamepad.sound_start joyTime positionTime

end Traced

/-! ## Taking over -/

/-- What the node makes of a position that it takes its target from: the swing is wrapped, and
an axis that is integrated at once is brought into its joint range. -/
def takenOver (moves : Bool) (axis : Axis) (position : ℚ) : ℚ :=
  if axis = 0 then remainder position kTwoPi
  else if moves then clamp position (jointLower axis) (jointUpper axis)
  else position

/-- The targets of a tick that takes them from the feedback while the sticks rest. -/
theorem nextTargets_at_rest {params : Gamepad.Parameters} {now : Time} {s : Gamepad.Node}
    (accepted : params.Accepted) (starts : Gamepad.reinitializes s = true) {position : Axis → ℚ}
    (held : ∀ axis, s.simFeedbackPositions axis = Double.finite (position axis))
    (rest : (Gamepad.publishCommand params now s).2.command = fun _ => 0) (axis : Axis) :
    Gamepad.nextTargets params now s axis =
      Double.finite (takenOver (Gamepad.moves params now s) axis (position axis)) := by
  have base : Gamepad.baseTargets s axis = Double.finite
      (if axis = 0 then remainder (position 0) kTwoPi else position axis) := by
    rw [Gamepad.baseTargets, if_pos starts]
    by_cases swing : axis = 0
    · subst swing
      simp [Gamepad.heldTargets, held]
    · simp [Gamepad.heldTargets, held, swing]
  cases moving : Gamepad.moves params now s with
  | false =>
      rw [Gamepad.nextTargets_of_still _ moving, base]
      by_cases swing : axis = 0
      · subst swing
        simp [takenOver]
      · simp [takenOver, swing]
  | true =>
      -- The Joy is live, so the command is the one that the node holds.
      have live : Gamepad.timedOut params now s = false := by
        simp only [Gamepad.moves, Bool.and_eq_true, Bool.not_eq_true'] at moving
        exact moving.1
      have still : s.latestCommand axis = Double.finite 0 := by
        rw [Gamepad.command_publishCommand, Gamepad.publishJoy, live, if_neg Bool.false_ne_true] at rest
        exact congrFun rest axis
      obtain ⟨speed, isSpeed, -⟩ := accepted.speed axis
      rw [Gamepad.nextTargets_of_moves _ moving, base, still]
      by_cases swing : axis = 0
      · subst swing
        rw [if_pos rfl, advanceAxis_swing isSpeed]
        simp [takenOver, remainder_remainder kTwoPi_pos]
      · rw [if_neg swing, advanceAxis_clamped isSpeed swing (params.lowerRad_eq axis)
          (params.upperRad_eq axis)]
        simp [takenOver, swing]

/-- **The gamepad node takes over where the simulator is.**  In any run of the two nodes and
any simulator, let feedback be fresh at a tick after it was not, and let the sticks rest.
Then on every axis the node publishes the angle that the simulator has told it last, in
radians: the swing wrapped, and the other axes brought into their joint ranges if the Joy is
live and time has passed.  Where that angle is what the relay made of an angle of the
machine, the node's target is the angle itself. -/
theorem node_takes_over {υ : Type} {B : TwinSetup υ} {joyTime positionTime clock now : Time}
    {events : List (Time × TwinEvent)} {σ : Twin υ} (launched : B.Launched)
    (run : runs (step B) (start B (Gamepad.start B.node joyTime positionTime clock)) events = some σ)
    (fresh : Gamepad.simFeedbackFresh B.node now σ.node.node = true)
    (starts : Gamepad.reinitializes σ.node.node = true)
    (rest : (Gamepad.publishCommand B.node now σ.node.node).2.command = fun _ => 0) :
    ∃ targets, (Gamepad.publishCommand B.node now σ.node.node).2.unity = some targets ∧
      ∀ axis, ∃ sign degrees : ℚ, B.node.unityPositionSigns axis = Double.finite sign ∧
        σ.heard axis = some (Double.finite degrees) ∧
        Reported B (Gamepad.start B.node joyTime positionTime clock) events axis
          (Double.finite degrees) ∧
        let target (angle : ℚ) := takenOver (Gamepad.moves B.node now σ.node.node) axis
          (angle * kDegreesToRadians)
        targets axis = Double.finite (sign * target (sign * degrees)) ∧
        ∀ angle : ℚ, ImuToSim.publishSimCommand B.relay axis (Double.finite angle) =
            some (Double.finite (degrees * kDegreesToRadians)) →
          (Gamepad.publishCommand B.node now σ.node.node).1.positionTargets axis =
            Double.finite (target angle) := by
  have t : Traced B (Gamepad.start B.node joyTime positionTime clock) events σ :=
    runs_prefix_invariant (fun _ _ _ _ _ _ upTo t taken => traced_step launched upTo t taken)
      run (traced_start B joyTime positionTime clock)
  have received (axis : Axis) : σ.node.node.simFeedbackReceived axis = true := by
    have onAxis := all_axes_iff.mp fresh axis
    simp only [Bool.and_eq_true] at onAxis
    exact onAxis.1
  choose sign relaySign isSign square using launched.sign
  choose degrees heard position using fun axis => t.held axis (received axis)
  have held (axis : Axis) : σ.node.node.simFeedbackPositions axis =
      Double.finite (sign axis * degrees axis * kDegreesToRadians) := by
    rw [position, isSign, degreesToRadians, Double.mul_finite, Double.mul_finite, mul_assoc]
  have next := nextTargets_at_rest launched.accepted starts held rest
  have ticked := Gamepad.ticked_publishCommand B.node launched.enabled now σ.node.node
  refine ⟨_, ticked.unity.trans (if_pos fresh), fun axis =>
    ⟨sign axis, degrees axis, isSign axis, heard axis, t.heard (heard axis), ?_, ?_⟩⟩
  · rw [isSign, next, Double.mul_finite]
  · intro angle relayed
    have command : sign axis * (angle * kDegreesToRadians) = degrees axis * kDegreesToRadians := by
      simpa [ImuToSim.publishSimCommand, relaySign, degreesToRadians] using relayed
    -- The sign, applied by the relay and by the node, is none.
    have same : sign axis * degrees axis * kDegreesToRadians = angle * kDegreesToRadians := by
      rw [mul_assoc, ← command, ← mul_assoc, square, one_mul]
    rw [ticked.targets, if_pos fresh, next, same]

/-- A simulator that goes at once where it is sent, and reports it in degrees. -/
def followingSimulator (home : Axis → ℚ) : Simulator (Axis → Double) where
  started := fun axis => Double.finite (home axis)
  next pose
    | .command axis data => Function.update pose axis data
    | .time _ => pose
  report pose axis := pose axis / kDegreesToRadians

/-- Both nodes as they are by default, with the Unity output, and a simulator that starts at
these angles in degrees. -/
def defaultTwin (home : Axis → ℚ) : TwinSetup (Axis → Double) where
  relay := {}
  node := { unityPositionOutputEnabled := true }
  simulator := followingSimulator fun axis => home axis * kDegreesToRadians

theorem launched_defaultTwin (home : Axis → ℚ) : (defaultTwin home).Launched where
  constructed := ImuToSim.construct_default
  passed := Gamepad.validateParameters_default true
  enabled := rfl
  signs _ := rfl

/-- The arm at a right angle, and the other axes at zero. -/
def armUp (axis : Axis) : ℚ := if axis = 2 then 90 else 0

abbrev armUpTwin : TwinSetup (Axis → Double) := defaultTwin armUp

/-- The machine shows its boom at 60 degrees and its arm at a right angle, and the simulator
follows; then the Joy comes, with its sticks at rest. -/
def showMachine : List (Time × TwinEvent) :=
  (axes.flatMap fun axis =>
    [(0, .imu axis (Double.finite (if axis = 1 then 60 else armUp axis))),
      (0, .take axis), (0, .report axis), (0, .deliver axis)]) ++
    [(1 / 20, .joy { axes := [0, 0, 0, 0], buttons := List.replicate 10 0 })]

/-- The node moves the boom to the end of its range, and the arm stays. -/
theorem node_takes_over_showMachine :
    ∃ σ, runs (step armUpTwin) (start armUpTwin (Gamepad.start armUpTwin.node 0 0 0))
        showMachine = some σ ∧
      ∃ targets, (Gamepad.publishCommand armUpTwin.node (1 / 20) σ.node.node).2.unity =
          some targets ∧
        targets 1 = Double.finite (48 * kDegreesToRadians) ∧
        targets 2 = Double.finite (90 * kDegreesToRadians) := by
  obtain ⟨σ, run, fresh, starts, rest, moving, boom, arm⟩ : ∃ σ ∈ runs (step armUpTwin)
      (start armUpTwin (Gamepad.start armUpTwin.node 0 0 0)) showMachine,
        Gamepad.simFeedbackFresh armUpTwin.node (1 / 20) σ.node.node = true ∧
        Gamepad.reinitializes σ.node.node = true ∧
        (Gamepad.publishCommand armUpTwin.node (1 / 20) σ.node.node).2.command = (fun _ => 0) ∧
        Gamepad.moves armUpTwin.node (1 / 20) σ.node.node = true ∧
        σ.heard 1 = some (Double.finite 60) ∧ σ.heard 2 = some (Double.finite 90) := by
    decide +kernel
  obtain ⟨targets, unity, takes⟩ :=
    node_takes_over (launched_defaultTwin armUp) run fresh starts rest
  refine ⟨σ, run, targets, unity, ?_, ?_⟩
  · obtain ⟨sign, degrees, isSign, heard, -, target, -⟩ := takes 1
    obtain rfl : 60 = degrees := Double.finite.inj (Option.some.inj (boom.symm.trans heard))
    obtain rfl : 1 = sign := Double.finite.inj isSign
    rw [target, moving]
    decide +kernel
  · obtain ⟨sign, degrees, isSign, heard, -, target, -⟩ := takes 2
    obtain rfl : 90 = degrees := Double.finite.inj (Option.some.inj (arm.symm.trans heard))
    obtain rfl : 1 = sign := Double.finite.inj isSign
    rw [target, moving]
    decide +kernel

end Twin

end Tb20e.Bringup
