/-
# Bringup.TwinRange -- nothing drives the simulator out of the joint ranges

The gamepad node publishes the angles that it takes its targets from as they are, while the
Joy is silent, so what it publishes is in the joint ranges only if what it is told is
(`Gamepad.unity_in_range_iff`).  Who tells it is the simulator, which goes where the relay and
the node itself have sent it.  Around this circle the ranges hold, if they hold where it is
entered: at the angles of the machine and where the simulator starts
(`twin_stays_in_range`).

Of the simulator that takes one thing, `Follows`: it takes positions and reports degrees, and
what it reports of boom, arm and bucket lies between where they started and where they have
been sent.  How fast it moves is not said.
-/
import Mathlib.Order.Interval.Set.OrdConnected
import Tb20e.Bringup.Twin

namespace Tb20e.Bringup

set_option autoImplicit false

open Tb20e.Theory Tb20e.Control Tb20e.Control.PositionCommand
open Tb20e.Theory (Double)
open Tb20e.Gamepad (InJointRange UnityInRange)

namespace Twin

variable {υ : Type}

/-- What the simulator reports of an axis, but for the swing, is in degrees a position between
the one where it started and those that it has been sent to. -/
def Follows (home : Axis → ℚ) (simulator : Simulator υ) : Prop :=
  ∀ (history : List SimulatorInput) (axis : Axis) (between : Set ℚ), axis ≠ 0 →
    between.OrdConnected → home axis ∈ between →
    (∀ data, .command axis data ∈ history → ∃ position ∈ between, data = Double.finite position) →
    ∃ position ∈ between,
      simulator.report (history.foldl simulator.next simulator.started) axis =
        Double.finite (position / kDegreesToRadians)

theorem follows_followingSimulator (home : Axis → ℚ) : Follows home (followingSimulator home) := by
  intro history axis between _ _ starts sent
  suffices stands : ∃ position ∈ between, history.foldl (followingSimulator home).next
      (followingSimulator home).started axis = Double.finite position by
    obtain ⟨position, inside, stands⟩ := stands
    refine ⟨position, inside, ?_⟩
    rw [← Double.div_finite position kDegreesToRadians_pos.ne', ← stands]
    rfl
  induction history using List.reverseRecOn with
  | nil => exact ⟨home axis, starts, rfl⟩
  | append_singleton history input ih =>
      have before := ih fun data member => sent data (List.mem_append_left _ member)
      rw [List.foldl_concat]
      cases input with
      | time now => exact before
      | command other data =>
          by_cases same : axis = other
          · subst same
            obtain ⟨position, inside, rfl⟩ := sent data (by simp)
            exact ⟨position, inside, Function.update_self ..⟩
          · obtain ⟨position, inside, stands⟩ := before
            exact ⟨position, inside, (Function.update_of_ne same ..).trans stands⟩

/-! ## The ranges of the simulator -/

/-- The positions of an axis of the simulator that are in the joint range. -/
def unityRange (params : Gamepad.Parameters) (axis : Axis) : Set ℚ :=
  {position | InJointRange params axis (params.unityPositionSigns axis * Double.finite position)}

section UnityRange

variable {params : Gamepad.Parameters} {axis : Axis}

theorem mem_unityRange {position : ℚ} : position ∈ unityRange params axis ↔
    InJointRange params axis (params.unityPositionSigns axis * Double.finite position) :=
  Iff.rfl

theorem mem_unityRange_of_sign {sign position : ℚ}
    (isSign : params.unityPositionSigns axis = Double.finite sign) :
    position ∈ unityRange params axis ↔
      jointLower axis ≤ sign * position ∧ sign * position ≤ jointUpper axis := by
  rw [mem_unityRange, isSign, Double.mul_finite, Gamepad.inJointRange_finite]

/-- Whichever the sign is, the range is an interval. -/
theorem ordConnected_unityRange (accepted : params.Accepted) (axis : Axis) :
    (unityRange params axis).OrdConnected := by
  obtain ⟨sign, isSign, unit⟩ := accepted.sign axis
  refine ⟨fun first inFirst second inSecond position between => ?_⟩
  rw [mem_unityRange_of_sign isSign] at inFirst inSecond ⊢
  rcases eq_or_eq_neg_of_abs_eq unit with rfl | rfl
  · constructor <;> linarith [between.1, between.2, inFirst.1, inSecond.2]
  · constructor <;> linarith [between.1, between.2, inFirst.2, inSecond.1]

end UnityRange

/-! ## Around the circle -/

/-- Everything that is told to the simulator or by it is in the joint ranges. -/
structure Ranged (B : TwinSetup υ) (σ : Twin υ) : Prop where
  commands : ∀ axis ≠ 0, ∀ command ∈ σ.commands axis,
    ∃ position ∈ unityRange B.node axis, command = Double.finite position
  simulator : ∃ history : List SimulatorInput,
    σ.simulator = history.foldl B.simulator.next B.simulator.started ∧
      ∀ axis ≠ 0, ∀ data, .command axis data ∈ history →
        ∃ position ∈ unityRange B.node axis, data = Double.finite position
  reports : ∀ axis ≠ 0, ∀ report ∈ σ.reports axis,
    ∃ position ∈ unityRange B.node axis, report = Double.finite (position / kDegreesToRadians)
  held : ∀ axis ≠ 0, σ.node.node.simFeedbackReceived axis = true →
    InJointRange B.node axis (σ.node.node.simFeedbackPositions axis)
  kept : σ.node.node.simFeedbackWasFresh = true → ∀ axis, axis ≠ 0 →
    InJointRange B.node axis (σ.node.node.positionTargets axis)
  published : ∀ targets ∈ σ.published, UnityInRange B.node targets
  sound : Gamepad.Sound σ.node.node

section Ranged

variable {B : TwinSetup υ} {home : Axis → ℚ} {σ τ : Twin υ} {now : Time}

/-- **A tick** publishes in range: it starts from what it has been told, or goes on from its
own targets. -/
theorem Ranged.publishesInRange (launched : B.Launched) (r : Ranged B σ) :
    Gamepad.PublishesInRange B.node (now, σ.node.node) := by
  have enabled := launched.enabled
  cases fresh : Gamepad.simFeedbackFresh B.node now σ.node.node with
  | false =>
      have unity := (Gamepad.ticked_publishCommand B.node enabled now σ.node.node).unity
      simp [Gamepad.PublishesInRange, unity, fresh]
  | true =>
      refine (Gamepad.publishesInRange_iff_startsInRange launched.accepted enabled r.sound fresh
        r.kept).mpr ?_
      intro _ _
      refine .inr fun axis notSwing => r.held axis notSwing ?_
      have onAxis := all_axes_iff.mp fresh axis
      simp only [Bool.and_eq_true] at onAxis
      exact onAxis.1

theorem Ranged.kept_tick (launched : B.Launched) (r : Ranged B σ) :
    (Gamepad.publishCommand B.node now σ.node.node).1.simFeedbackWasFresh = true →
      ∀ axis, axis ≠ 0 → InJointRange B.node axis
        ((Gamepad.publishCommand B.node now σ.node.node).1.positionTargets axis) :=
  Gamepad.kept_of_publishesInRange launched.accepted launched.enabled r.sound
    (r.publishesInRange launched)

/-- What the relay makes of an angle in the joint range is in the range of the simulator. -/
theorem relayed_mem_unityRange (launched : B.Launched) {axis : Axis} {data command : Double}
    (answered : ImuToSim.publishSimCommand B.relay axis data = some command)
    (machine : ∀ degrees : ℚ, data = Double.finite degrees →
      InJointRange B.node axis (Double.finite (degrees * kDegreesToRadians))) :
    ∃ position ∈ unityRange B.node axis, command = Double.finite position := by
  obtain ⟨sign, relaySign, isSign, square⟩ := launched.sign axis
  cases data with
  | inf negative => cases answered
  | nan => cases answered
  | finite degrees =>
      have same : command = Double.finite (sign * (degrees * kDegreesToRadians)) := by
        simpa [ImuToSim.publishSimCommand, relaySign, degreesToRadians, eq_comm] using answered
      have inRange := machine degrees rfl
      rw [Gamepad.inJointRange_finite] at inRange
      refine ⟨_, ?_, same⟩
      rwa [mem_unityRange_of_sign isSign, ← mul_assoc, square, one_mul]

/-- What a tick publishes in range is in the range of the simulator. -/
theorem published_mem_unityRange (launched : B.Launched) (r : Ranged B σ) {targets : Axis → Double}
    (unity : (Gamepad.publishCommand B.node now σ.node.node).2.unity = some targets) {axis : Axis}
    (notSwing : axis ≠ 0) :
    ∃ position ∈ unityRange B.node axis, targets axis = Double.finite position := by
  have inRange := (r.publishesInRange launched targets unity).1 axis notSwing
  have published := (Gamepad.ticked_publishCommand B.node launched.enabled now σ.node.node).unity
  rw [unity] at published
  split at published
  · next fresh =>
      obtain ⟨base, next, integrates⟩ := r.sound.exists_integrates launched.accepted fresh
      obtain ⟨sign, -, isSign, -⟩ := launched.sign axis
      obtain rfl := Option.some.inj published
      have same : B.node.unityPositionSigns axis *
          Gamepad.nextTargets B.node now σ.node.node axis = Double.finite (sign * next axis) := by
        rw [isSign, integrates.next_eq, Double.mul_finite]
      refine ⟨sign * next axis, ?_, same⟩
      rw [mem_unityRange, ← same]
      exact inRange
  · cases published

/-- What is not a tick leaves the targets alone. -/
theorem Ranged.kept_exec {event : Gamepad.Event} (r : Ranged B σ) (notTick : event ≠ .tick)
    (now : Time) (fresh : (event.exec B.node now σ.node.node).simFeedbackWasFresh = true) (axis : Axis)
    (notSwing : axis ≠ 0) :
    InJointRange B.node axis ((event.exec B.node now σ.node.node).positionTargets axis) := by
  obtain ⟨targets, -, wasFresh, -⟩ := Gamepad.targets_exec_of_ne B.node notTick now σ.node.node
  rw [targets]
  exact r.kept (wasFresh ▸ fresh) axis notSwing

/-- A report that the node takes. -/
theorem held_of_report {axis other : Axis} {report : Double} (notSwing : other ≠ 0)
    (reported : axis ≠ 0 → ∃ position ∈ unityRange B.node axis,
      report = Double.finite (position / kDegreesToRadians))
    (held : σ.node.node.simFeedbackReceived other = true →
      InJointRange B.node other (σ.node.node.simFeedbackPositions other))
    (received : (Gamepad.simFeedbackCallback B.node axis report now
      σ.node.node).simFeedbackReceived other = true) :
    InJointRange B.node other ((Gamepad.simFeedbackCallback B.node axis report now
      σ.node.node).simFeedbackPositions other) := by
  by_cases same : other = axis
  · subst same
    obtain ⟨position, inside, rfl⟩ := reported notSwing
    rw [mem_unityRange] at inside
    simpa [Gamepad.simFeedbackCallback, degreesToRadians, kDegreesToRadians_pos.ne'] using inside
  · cases finite : report.isFinite <;>
      simp only [Gamepad.simFeedbackCallback, finite, Bool.not_true, Bool.not_false, if_true,
        Bool.false_eq_true, if_false, Function.update_of_ne same] at received ⊢ <;>
      exact held received

/-- **Every step keeps the ranges.** -/
theorem ranged_step {event : Time × TwinEvent} (launched : B.Launched)
    (follows : Follows home B.simulator) (homes : ∀ axis ≠ 0, home axis ∈ unityRange B.node axis)
    (machine : ∀ axis ≠ 0, ∀ degrees : ℚ, event.2 = .imu axis (Double.finite degrees) →
      InJointRange B.node axis (Double.finite (degrees * kDegreesToRadians)))
    (r : Ranged B σ) (taken : step B σ event = some τ) : Ranged B τ := by
  have sound := Gamepad.sound_exec launched.accepted launched.enabled r.sound
  have moved := moved_of_step taken
  obtain ⟨now, event⟩ := event
  cases moved with
  | ignored => exact r
  | @relayed axis data command answered =>
      refine { r with commands := fun other notSwing entry member => ?_ }
      rcases mem_push member with old | ⟨rfl, rfl⟩
      · exact r.commands other notSwing entry old
      · exact relayed_mem_unityRange launched answered
          fun degrees same => machine other notSwing degrees (by rw [same])
  | @take axis command rest waiting fewer =>
      refine { r with
        commands := fun other notSwing entry member =>
          r.commands other notSwing entry (fewer other member)
        simulator := ?_ }
      obtain ⟨history, isHistory, sent⟩ := r.simulator
      refine ⟨history ++ [.command axis command], by rw [List.foldl_concat, isHistory], ?_⟩
      intro other notSwing data member
      rcases List.mem_append.mp member with old | new
      · exact sent other notSwing data old
      · obtain ⟨rfl, rfl⟩ : other = axis ∧ data = command := by simpa using new
        exact r.commands other notSwing data waiting
  | loseCommand fewer =>
      exact { r with
        commands := fun other notSwing entry member =>
          r.commands other notSwing entry (fewer other member) }
  | simulate =>
      refine { r with simulator := ?_ }
      obtain ⟨history, isHistory, sent⟩ := r.simulator
      refine ⟨history ++ [.time now], by rw [List.foldl_concat, isHistory], ?_⟩
      intro other notSwing data member
      exact sent other notSwing data (by simpa using member)
  | @report axis =>
      refine { r with reports := fun other notSwing report member => ?_ }
      rcases mem_push member with old | ⟨rfl, rfl⟩
      · exact r.reports other notSwing report old
      · obtain ⟨history, isHistory, sent⟩ := r.simulator
        rw [isHistory]
        exact follows history other _ notSwing (ordConnected_unityRange launched.accepted other)
          (homes other notSwing) (sent other notSwing)
  | @deliver axis report rest waiting fewer =>
      have notTick : Gamepad.Event.simFeedback axis report ≠ .tick := by simp
      exact { r with
        reports := fun other notSwing entry member =>
          r.reports other notSwing entry (fewer other member)
        held := fun other notSwing received =>
          held_of_report notSwing (fun notSwing => r.reports axis notSwing report waiting)
            (r.held other notSwing) received
        kept := r.kept_exec notTick now
        sound := sound now (.simFeedback axis report) }
  | loseReport fewer =>
      exact { r with
        reports := fun other notSwing entry member =>
          r.reports other notSwing entry (fewer other member) }
  | @joy message =>
      have notTick : Gamepad.Event.joy message ≠ .tick := by simp
      refine { r with
        held := ?_
        kept := r.kept_exec notTick now
        sound := sound now (.joy message) }
      simp only [Gamepad.joyCallback]
      split <;> exact r.held
  | silentTick =>
      have ticked := Gamepad.ticked_publishCommand B.node launched.enabled now σ.node.node
      exact { r with
        held := by simpa only [ticked.received, ticked.positions] using r.held
        kept := r.kept_tick launched
        sound := sound now .tick }
  | @tick targets unity =>
      have ticked := Gamepad.ticked_publishCommand B.node launched.enabled now σ.node.node
      refine { r with
        commands := fun axis notSwing command member => ?_
        held := by simpa only [ticked.received, ticked.positions] using r.held
        kept := r.kept_tick launched
        published := fun published member => ?_
        sound := sound now .tick }
      · rcases List.mem_append.mp member with old | new
        · exact r.commands axis notSwing command old
        · rw [List.mem_singleton.mp new]
          exact published_mem_unityRange launched r unity notSwing
      · rcases List.mem_cons.mp member with rfl | old
        · exact r.publishesInRange launched _ unity
        · exact r.published published old

theorem ranged_start (B : TwinSetup υ) (joyTime positionTime clock : Time) :
    Ranged B (start B (Gamepad.start B.node joyTime positionTime clock)) where
  commands axis notSwing command member := by cases member
  simulator := ⟨[], rfl, by simp⟩
  reports axis notSwing report member := by cases member
  held axis notSwing received := by cases received
  kept fresh := by cases fresh
  published targets member := by cases member
  sound := Gamepad.sound_start joyTime positionTime

end Ranged

/-- **The simulator stays in the joint ranges.**  Let it start in them and follow, and let the
machine be in them.  Then in every run of the two nodes and the simulator, with commands and
reports late or lost and the sticks moved at will, every target that the gamepad node has
published is in range, and so is what the simulator reports. -/
theorem twin_stays_in_range {B : TwinSetup υ} {home : Axis → ℚ}
    {joyTime positionTime clock : Time} {events : List (Time × TwinEvent)} {σ : Twin υ}
    (launched : B.Launched) (follows : Follows home B.simulator)
    (homes : ∀ axis ≠ 0, home axis ∈ unityRange B.node axis)
    (machine : ∀ axis ≠ 0, ∀ (now : Time) (degrees : ℚ),
      (now, .imu axis (Double.finite degrees)) ∈ events →
        InJointRange B.node axis (Double.finite (degrees * kDegreesToRadians)))
    (run : runs (step B) (start B (Gamepad.start B.node joyTime positionTime clock)) events = some σ) :
    (∀ targets ∈ σ.published, UnityInRange B.node targets) ∧
      ∀ axis ≠ 0, ∃ position ∈ unityRange B.node axis,
        B.simulator.report σ.simulator axis = Double.finite (position / kDegreesToRadians) := by
  have r : Ranged B σ := runs_invariant_on
    (fun event => ∀ axis ≠ 0, ∀ degrees : ℚ, event.2 = .imu axis (Double.finite degrees) →
      InJointRange B.node axis (Double.finite (degrees * kDegreesToRadians)))
    (fun _ _ _ machine r taken => ranged_step launched follows homes machine r taken)
    (fun event member axis notSwing degrees same =>
      machine axis notSwing event.1 degrees (by rw [← same]; exact member))
    run (ranged_start B joyTime positionTime clock)
  refine ⟨r.published, fun axis notSwing => ?_⟩
  obtain ⟨history, isHistory, sent⟩ := r.simulator
  rw [isHistory]
  exact follows history axis _ notSwing (ordConnected_unityRange launched.accepted axis)
    (homes axis notSwing) (sent axis notSwing)

/-- The machine raises its boom to 30 degrees and the simulator follows; there is no Joy. -/
def raiseBoom : List (Time × TwinEvent) :=
  (axes.flatMap fun axis =>
    [(0, .imu axis (Double.finite (if axis = 1 then 30 else armUp axis))), (0, .take axis),
      (0, .report axis), (0, .deliver axis)]) ++ [(1 / 20, .tick)]

/-- The angle of the machine that an event shows. -/
def shownAngle (event : Time × TwinEvent) : Option (Axis × ℚ) :=
  match event.2 with
  | .imu axis (.finite degrees) => some (axis, degrees)
  | _ => none

theorem twin_stays_in_range_raiseBoom :
    ∃ σ, runs (step armUpTwin) (start armUpTwin (Gamepad.start armUpTwin.node 0 0 0)) raiseBoom =
        some σ ∧
      ∃ targets ∈ σ.published, targets 1 = Double.finite (30 * kDegreesToRadians) ∧
        UnityInRange armUpTwin.node targets := by
  obtain ⟨σ, run, targets, published, boom⟩ : ∃ σ ∈ runs (step armUpTwin)
      (start armUpTwin (Gamepad.start armUpTwin.node 0 0 0)) raiseBoom,
        ∃ targets ∈ σ.published, targets 1 = Double.finite (30 * kDegreesToRadians) := by
    decide +kernel
  have homes : ∀ axis ≠ 0,
      armUp axis * kDegreesToRadians ∈ unityRange armUpTwin.node axis := by
    simp only [mem_unityRange]
    decide +kernel
  have shown : ∀ angle ∈ raiseBoom.filterMap shownAngle, angle.1 ≠ 0 →
      InJointRange armUpTwin.node angle.1 (Double.finite (angle.2 * kDegreesToRadians)) := by
    decide +kernel
  have machine : ∀ axis ≠ 0, ∀ (now : Time) (degrees : ℚ),
      (now, .imu axis (Double.finite degrees)) ∈ raiseBoom →
        InJointRange armUpTwin.node axis (Double.finite (degrees * kDegreesToRadians)) :=
    fun axis notSwing now degrees member =>
      shown (axis, degrees) (List.mem_filterMap.mpr ⟨_, member, rfl⟩) notSwing
  obtain ⟨inRange, -⟩ := twin_stays_in_range (launched_defaultTwin armUp)
    (follows_followingSimulator _) homes machine run
  exact ⟨σ, run, targets, published, boom, inRange targets published⟩

end Twin

end Tb20e.Bringup
