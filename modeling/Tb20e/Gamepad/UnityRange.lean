/-
# Gamepad.UnityRange -- which Unity targets leave the joint range, and which jump

`advance` clamps boom, arm and bucket to their joint range, but a tick that takes
its targets from the feedback publishes them without `advance` while the Joy is
timed out.  So a held angle outside the range is published as it is, and the
first tick that integrates afterwards clamps it in one step.

`unity_in_range_iff` and `unity_move_bounded_iff` say exactly which runs are free
of this: each compares, tick by tick, what is published with a condition on the
node before the tick.
-/
import Tb20e.Gamepad.UnityTargets

namespace Tb20e.Gamepad

set_option autoImplicit false

open Tb20e.Theory Tb20e.Control Tb20e.Control.PositionCommand
open Tb20e.Theory (Double)

/-! ## The ticks of a run -/

section Ticks

variable (params : Parameters)

/-- The ticks of a run: when each came, and the node before it. -/
def tickStates : ClockedNode → List (Time × Event) → List (Time × Node)
  | _, [] => []
  | g, event :: rest =>
      match step params g event with
      | none => []
      | some g' =>
          (if event.2 = .tick then [(event.1, g.node)] else []) ++ tickStates g' rest

/-- They are the ticks that the run takes, each from the state the events before
it lead to. -/
theorem mem_tickStates_iff {g : ClockedNode} {events : List (Time × Event)} {now : Time}
    {s : Node} :
    (now, s) ∈ tickStates params g events ↔
      ∃ past rest g', events = past ++ (now, .tick) :: rest ∧
        runs (step params) g past = some g' ∧ g'.clock ≤ now ∧ g'.node = s := by
  induction events generalizing g with
  | nil => simp [tickStates]
  | cons event rest ih =>
      simp only [tickStates]
      constructor
      · intro member
        cases taken : step params g event with
        | none => simp [taken] at member
        | some g' =>
            rw [taken] at member
            rcases List.mem_append.mp member with here | later
            · split at here
              · rename_i isTick
                simp only [List.mem_singleton, Prod.mk.injEq] at here
                obtain ⟨rfl, rfl⟩ := here
                exact ⟨[], rest, g, by simp [← isTick], rfl, (step_eq_some.mp taken).1, rfl⟩
              · cases here
            · obtain ⟨past, rest', g'', rfl, reached, forward, same⟩ := ih.mp later
              exact ⟨event :: past, rest', g'', rfl, runs_cons_eq_some.mpr ⟨g', taken, reached⟩,
                forward, same⟩
      · rintro ⟨past, rest', g'', split, reached, forward, rfl⟩
        cases past with
        | nil =>
            obtain ⟨rfl, rfl⟩ := List.cons.inj split
            cases reached
            simp [step, forward, Event.subscribed]
        | cons head past =>
            obtain ⟨rfl, rfl⟩ := List.cons.inj split
            obtain ⟨g', taken, reached'⟩ := runs_cons_eq_some.mp reached
            rw [taken]
            exact List.mem_append_right _ (ih.mpr ⟨past, rest', g'', rfl, reached', forward, rfl⟩)

/-- Whether a tick integrates: the Joy is live and time has passed. -/
def moves (now : Time) (s : Node) : Bool := !timedOut params now s && s.lastPositionUpdate < now

theorem nextTargets_of_still {now : Time} {s : Node} (still : moves params now s = false) :
    nextTargets params now s = baseTargets s := by
  unfold nextTargets
  split
  · rfl
  · rename_i live
    have notLater : now - s.lastPositionUpdate ≤ 0 := by
      simp only [moves, live, Bool.not_false, Bool.true_and, decide_eq_false_iff_not,
        not_lt] at still
      exact sub_nonpos.mpr still
    exact advance_of_not_pos _ _ notLater

theorem nextTargets_of_moves {now : Time} {s : Node} (moving : moves params now s = true)
    (axis : Axis) :
    nextTargets params now s axis =
      advanceAxis params.positionConfig ((now - s.lastPositionUpdate : ℚ) : Double) axis
        (baseTargets s axis) (s.latestCommand axis) := by
  simp only [moves, Bool.and_eq_true, Bool.not_eq_true', decide_eq_true_eq] at moving
  simp only [nextTargets, moving.1, Bool.false_eq_true, if_false]
  exact advance_of_pos _ _ (sub_pos.mpr moving.2) axis

end Ticks

/-! ## What holds of every node -/

section Sound

variable {params : Parameters}

/-- The commands are finite, and so is the feedback held and the targets in use. -/
structure Sound (s : Node) : Prop where
  command : ∀ axis, ∃ q : ℚ, s.latestCommand axis = Double.finite q ∧ |q| ≤ 100
  feedback : ∀ axis, s.simFeedbackReceived axis = true →
    ∃ q : ℚ, s.simFeedbackPositions axis = Double.finite q
  targets : s.simFeedbackWasFresh = true → ∃ target : Axis → ℚ,
    (∀ axis, s.positionTargets axis = Double.finite (target axis)) ∧ |target 0| ≤ kPi

/-- A fresh tick starts from finite targets. -/
theorem Sound.exists_base {s : Node} {now : Time} (sound : Sound s)
    (fresh : simFeedbackFresh params now s = true) :
    ∃ base : Axis → ℚ, (∀ axis, baseTargets s axis = Double.finite (base axis)) ∧
      |base 0| ≤ kPi := by
  unfold baseTargets
  cases reinit : reinitializes s with
  | false =>
      exact sound.targets (initialized_of_not_reinitializes reinit).2
  | true =>
      have received (axis : Axis) : s.simFeedbackReceived axis = true := by
        have onAxis := all_axes_iff.mp fresh axis
        simp only [Bool.and_eq_true] at onAxis
        exact onAxis.1
      choose position isPosition using fun axis => sound.feedback axis (received axis)
      refine ⟨Function.update position 0 (remainder (position 0) kTwoPi), ?_, ?_⟩
      · intro axis
        by_cases swing : axis = 0
        · subst swing
          simp [heldTargets, isPosition]
        · simp [heldTargets, Function.update_of_ne swing, isPosition]
      · have half := abs_remainder_le kTwoPi_pos (position 0)
        rw [kTwoPi, mul_div_cancel_left₀ _ two_ne_zero] at half
        simpa [kTwoPi] using half

/-- How far the stick asks an axis to move. -/
def reach (params : Parameters) (since now : Time) (command : Axis → Double) (axis : Axis) :
    Double :=
  (command axis).abs / ((100 : ℚ) : Double) * params.positionConfig.fullSpeedRadS axis *
    ((now - since : ℚ) : Double)

/-- A fresh tick, on rationals. -/
structure Integrates (params : Parameters) (now : Time) (s : Node) (base next : Axis → ℚ) :
    Prop where
  base_eq : ∀ axis, baseTargets s axis = Double.finite (base axis)
  next_eq : ∀ axis, nextTargets params now s axis = Double.finite (next axis)
  base_swing : |base 0| ≤ kPi
  next_swing : |next 0| ≤ kPi
  still : moves params now s = false → next = base
  moving : moves params now s = true → ∃ move : Axis → ℚ,
    (∀ axis, reach params s.lastPositionUpdate now s.latestCommand axis =
      Double.finite |move axis|) ∧
    next 0 = remainder (base 0 + move 0) kTwoPi ∧
    ∀ axis, axis ≠ 0 → next axis = clamp (base axis + move axis) (jointLower axis) (jointUpper axis)

theorem Sound.exists_integrates {s : Node} {now : Time} (accepted : params.Accepted)
    (sound : Sound s) (fresh : simFeedbackFresh params now s = true) :
    ∃ base next, Integrates params now s base next := by
  obtain ⟨base, isBase, swing⟩ := sound.exists_base fresh
  cases moving : moves params now s with
  | false =>
      refine ⟨base, base, isBase, ?_, swing, swing, fun _ => rfl, ?_⟩
      · intro axis
        rw [nextTargets_of_still params moving, isBase]
      · intro impossible
        rw [moving] at impossible; cases impossible
  | true =>
      have later : 0 < now - s.lastPositionUpdate := by
        simp only [moves, Bool.and_eq_true, decide_eq_true_eq] at moving
        exact sub_pos.mpr moving.2
      choose speed isSpeed speedPos using accepted.speed
      choose command isCommand small using sound.command
      let step (axis : Axis) := move (speed axis) (command axis) (now - s.lastPositionUpdate)
      have next (axis : Axis) : nextTargets params now s axis = Double.finite
          (if axis = 0 then remainder (base 0 + step 0) kTwoPi
            else clamp (base axis + step axis) (jointLower axis) (jointUpper axis)) := by
        rw [nextTargets_of_moves params moving, isBase, isCommand]
        by_cases isSwing : axis = 0
        · subst isSwing
          rw [if_pos rfl]
          exact advanceAxis_swing (isSpeed 0) _ _
        · rw [if_neg isSwing]
          exact advanceAxis_clamped (isSpeed axis) isSwing (params.lowerRad_eq axis)
            (params.upperRad_eq axis) _ _
      refine ⟨base, _, isBase, next, swing, ?_, fun impossible => ?_, fun _ => ⟨step, ?_, ?_, ?_⟩⟩
      · have half := abs_remainder_le kTwoPi_pos (base 0 + step 0)
        rwa [if_pos rfl, ← mul_div_cancel_left₀ kPi (two_ne_zero (α := ℚ))]
      · rw [moving] at impossible; cases impossible
      · intro axis
        have hundred : (100 : ℚ) ≠ 0 := by norm_num
        simp [reach, isCommand, isSpeed, Double.div_finite _ hundred, step,
          abs_move (speedPos axis).le later.le (small axis)]
      · rw [if_pos rfl]
      · intro axis notSwing
        rw [if_neg notSwing]

theorem sound_start (joyTime positionTime : Time) : Sound (initialNode params joyTime positionTime) where
  command _ := ⟨0, rfl, by norm_num⟩
  feedback axis impossible := by cases impossible
  targets impossible := by cases impossible

theorem sound_exec (accepted : params.Accepted)
    (enabled : params.unityPositionOutputEnabled = true) {s : Node} (sound : Sound s) (now : Time)
    (event : Event) : Sound (event.exec params now s) := by
  cases event with
  | joy message =>
      simp only [Event.exec, joyCallback]
      split
      · exact ⟨fun _ => ⟨0, rfl, by norm_num⟩, sound.feedback, sound.targets⟩
      · refine ⟨?_, sound.feedback, sound.targets⟩
        intro axis
        dsimp only
        split
        · rename_i allowed
          exact exists_mapAxes_eq_of_allowed accepted _ message now allowed axis
        · exact ⟨0, rfl, by norm_num⟩
  | simFeedback source data =>
      simp only [Event.exec, simFeedbackCallback]
      split
      · refine ⟨sound.command, ?_, sound.targets⟩
        intro axis received
        by_cases same : axis = source
        · subst same; simp at received
        · exact sound.feedback axis (by simpa [same] using received)
      · rename_i finite
        refine ⟨sound.command, ?_, sound.targets⟩
        intro axis received
        by_cases same : axis = source
        · subst same
          obtain ⟨degrees, rfl⟩ := Double.isFinite_iff.mp (by simpa using finite)
          obtain ⟨sign, isSign, -⟩ := accepted.sign axis
          exact ⟨sign * (degrees * kDegreesToRadians), by simp [isSign]⟩
        · simpa [same] using sound.feedback axis (by simpa [same] using received)
  | tick =>
      have ticked := ticked_publishCommand params enabled now s
      have joy := sameJoy_publishCommand params now s
      refine ⟨?_, ?_, ?_⟩
      · intro axis
        simp only [Event.exec, joy.latestCommand, publishJoy]
        split
        · exact ⟨0, rfl, by norm_num⟩
        · exact sound.command axis
      · simp only [Event.exec, ticked.received, ticked.positions]
        exact sound.feedback
      · intro wasFresh
        simp only [Event.exec, ticked.wasFresh] at wasFresh
        obtain ⟨base, next, tick⟩ := sound.exists_integrates accepted wasFresh
        refine ⟨next, ?_, tick.next_swing⟩
        intro axis
        simp only [Event.exec, ticked.targets, wasFresh, if_true, tick.next_eq]

end Sound

/-! ## Staying in the joint range -/

section Range

variable (params : Parameters)

/-- Within the joint range of an axis. -/
def InJointRange (axis : Axis) (position : Double) : Prop :=
  params.positionConfig.lowerRad axis ≤ position ∧ position ≤ params.positionConfig.upperRad axis

instance (axis : Axis) (position : Double) : Decidable (InJointRange params axis position) :=
  inferInstanceAs (Decidable (_ ∧ _))

/-- The documented range of published values: the signed value of boom, arm and
bucket is in the joint range, and swing is in a half turn either way. -/
def UnityInRange (u : Axis → Double) : Prop :=
  (∀ axis, axis ≠ 0 → InJointRange params axis (params.unityPositionSigns axis * u axis)) ∧
    ((-kPi : ℚ) : Double) ≤ u 0 ∧ u 0 ≤ ((kPi : ℚ) : Double)

/-- Every value that a tick publishes is in range. -/
def PublishesInRange (tick : Time × Node) : Prop :=
  ∀ u, (publishCommand params tick.1 tick.2).2.unity = some u → UnityInRange params u

/-- A tick that takes its targets from the feedback integrates them at once, or
finds the feedback in range. -/
def StartsInRange (tick : Time × Node) : Prop :=
  simFeedbackFresh params tick.1 tick.2 = true → reinitializes tick.2 = true →
    moves params tick.1 tick.2 = true ∨
      ∀ axis, axis ≠ 0 → InJointRange params axis (tick.2.simFeedbackPositions axis)

variable {params}

theorem inJointRange_finite {axis : Axis} {position : ℚ} :
    InJointRange params axis position ↔ jointLower axis ≤ position ∧ position ≤ jointUpper axis := by
  rw [InJointRange, params.lowerRad_eq, params.upperRad_eq]
  simp

/-- The signs cancel: a tick publishes in range exactly when its targets are. -/
theorem publishesInRange_iff {now : Time} {s : Node} {base next : Axis → ℚ}
    (accepted : params.Accepted) (enabled : params.unityPositionOutputEnabled = true)
    (fresh : simFeedbackFresh params now s = true) (tick : Integrates params now s base next) :
    PublishesInRange params (now, s) ↔
      ∀ axis, axis ≠ 0 → jointLower axis ≤ next axis ∧ next axis ≤ jointUpper axis := by
  have unity := (ticked_publishCommand params enabled now s).unity
  rw [fresh, if_pos rfl] at unity
  choose sign isSign unit using accepted.sign
  have square (axis : Axis) : sign axis * (sign axis * next axis) = next axis := by
    rw [← mul_assoc, ← abs_mul_abs_self (sign axis), unit, one_mul, one_mul]
  have swing : ((-kPi : ℚ) : Double) ≤ Double.finite (sign 0 * next 0) ∧
      Double.finite (sign 0 * next 0) ≤ ((kPi : ℚ) : Double) := by
    have bound : |sign 0 * next 0| ≤ kPi := by rw [abs_mul, unit, one_mul]; exact tick.next_swing
    simpa using abs_le.mp bound
  simp only [PublishesInRange, unity, Option.some.injEq, forall_eq', UnityInRange, isSign,
    tick.next_eq, Double.mul_finite, square, inJointRange_finite]
  exact and_iff_left swing

/-- **One fresh tick**, from targets that are in range unless it takes them from
the feedback. -/
theorem publishesInRange_iff_startsInRange {now : Time} {s : Node} (accepted : params.Accepted)
    (enabled : params.unityPositionOutputEnabled = true) (sound : Sound s)
    (fresh : simFeedbackFresh params now s = true)
    (kept : s.simFeedbackWasFresh = true → ∀ axis, axis ≠ 0 →
      InJointRange params axis (s.positionTargets axis)) :
    PublishesInRange params (now, s) ↔ StartsInRange params (now, s) := by
  obtain ⟨base, next, tick⟩ := sound.exists_integrates accepted fresh
  rw [publishesInRange_iff accepted enabled fresh tick]
  have isBase := tick.base_eq
  simp only [StartsInRange, fresh, forall_true_left]
  cases moving : moves params now s with
  | true =>
      obtain ⟨move, -, -, clamped⟩ := tick.moving moving
      simp only [true_or, implies_true, iff_true]
      intro axis notSwing
      rw [clamped axis notSwing]
      exact ⟨le_clamp (jointLower_le_jointUpper axis) _, clamp_le (jointLower_le_jointUpper axis) _⟩
  | false =>
      rw [tick.still moving]
      cases reinit : reinitializes s with
      | true =>
          simp only [baseTargets, reinit, if_true, heldTargets] at isBase
          refine ⟨fun inRange _ => .inr ?_, ?_⟩
          · intro axis notSwing
            have held := isBase axis
            rw [Function.update_of_ne notSwing] at held
            rw [held, inJointRange_finite]
            exact inRange axis notSwing
          · intro starts axis notSwing
            have held := isBase axis
            rw [Function.update_of_ne notSwing] at held
            have inRange := (starts rfl).resolve_left Bool.false_ne_true axis notSwing
            rwa [held, inJointRange_finite] at inRange
      | false =>
          simp only [baseTargets, reinit, Bool.false_eq_true, if_false] at isBase
          simp only [Bool.false_eq_true, false_implies, iff_true]
          intro axis notSwing
          have inRange := kept (initialized_of_not_reinitializes reinit).2 axis notSwing
          rwa [isBase, inJointRange_finite] at inRange

/-- After a tick that publishes in range, the targets in use are in range. -/
theorem kept_of_publishesInRange {now : Time} {s : Node} (accepted : params.Accepted)
    (enabled : params.unityPositionOutputEnabled = true) (sound : Sound s)
    (inRange : PublishesInRange params (now, s)) :
    (publishCommand params now s).1.simFeedbackWasFresh = true → ∀ axis, axis ≠ 0 →
      InJointRange params axis ((publishCommand params now s).1.positionTargets axis) := by
  have ticked := ticked_publishCommand params enabled now s
  rw [ticked.wasFresh, ticked.targets]
  intro fresh axis notSwing
  obtain ⟨base, next, tick⟩ := sound.exists_integrates accepted fresh
  rw [fresh, if_pos rfl, tick.next_eq, inJointRange_finite]
  exact (publishesInRange_iff accepted enabled fresh tick).mp inRange axis notSwing

/-- Events between ticks leave the targets alone. -/
theorem targets_exec_of_ne (params : Parameters) {event : Event} (notTick : event ≠ .tick)
    (now : Time) (s : Node) :
    (event.exec params now s).positionTargets = s.positionTargets ∧
      (event.exec params now s).positionTargetsInitialized = s.positionTargetsInitialized ∧
      (event.exec params now s).simFeedbackWasFresh = s.simFeedbackWasFresh ∧
      (event.exec params now s).lastPositionUpdate = s.lastPositionUpdate := by
  cases event with
  | tick => exact absurd rfl notTick
  | joy message =>
      simp only [Event.exec, joyCallback]
      split <;> exact ⟨rfl, rfl, rfl, rfl⟩
  | simFeedback axis data =>
      simp only [Event.exec, simFeedbackCallback]
      split <;> exact ⟨rfl, rfl, rfl, rfl⟩

/-- The two conditions are equivalent along a run, each tick handing the next one
targets that are in range. -/
theorem forall_publishesInRange_iff (accepted : params.Accepted)
    (enabled : params.unityPositionOutputEnabled = true) (events : List (Time × Event))
    {g : ClockedNode} (sound : Sound g.node)
    (kept : g.node.simFeedbackWasFresh = true → ∀ axis, axis ≠ 0 →
      InJointRange params axis (g.node.positionTargets axis)) :
    (∀ tick ∈ tickStates params g events, PublishesInRange params tick) ↔
      ∀ tick ∈ tickStates params g events, StartsInRange params tick := by
  induction events generalizing g with
  | nil => simp [tickStates]
  | cons event rest ih =>
      simp only [tickStates]
      cases taken : step params g event with
      | none => simp
      | some g' =>
          obtain ⟨-, -, rfl⟩ := step_eq_some.mp taken
          obtain ⟨now, event⟩ := event
          have sound' := sound_exec accepted enabled sound now event
          by_cases isTick : event = .tick
          · subst isTick
            simp only [if_true, List.forall_mem_append, List.forall_mem_singleton]
            have head : PublishesInRange params (now, g.node) ↔ StartsInRange params (now, g.node) := by
              cases fresh : simFeedbackFresh params now g.node with
              | true => exact publishesInRange_iff_startsInRange accepted enabled sound fresh kept
              | false =>
                  have unity := (ticked_publishCommand params enabled now g.node).unity
                  simp [PublishesInRange, StartsInRange, unity, fresh]
            constructor
            · rintro ⟨first, later⟩
              exact ⟨head.mp first,
                (ih sound' (kept_of_publishesInRange accepted enabled sound first)).mp later⟩
            · rintro ⟨first, later⟩
              exact ⟨head.mpr first, (ih sound' (kept_of_publishesInRange accepted enabled sound
                (head.mpr first))).mpr later⟩
          · obtain ⟨targets, -, wasFresh, -⟩ := targets_exec_of_ne params isTick now g.node
            simp only [isTick, if_false, List.nil_append]
            exact ih sound' (by rw [targets, wasFresh]; exact kept)

/-- **Which runs publish Unity targets in range.**  Every published value of a run
is in range exactly when each of its ticks that takes its targets from the
feedback either integrates at once or finds that feedback in range. -/
theorem unity_in_range_iff (passed : validateParameters params = .ok ())
    (enabled : params.unityPositionOutputEnabled = true) (joyTime positionTime clock : Time)
    (events : List (Time × Event)) :
    (∀ tick ∈ tickStates params (start params joyTime positionTime clock) events,
        PublishesInRange params tick) ↔
      ∀ tick ∈ tickStates params (start params joyTime positionTime clock) events,
        StartsInRange params tick :=
  forall_publishesInRange_iff (accepted_of_validate passed) enabled events
    (sound_start joyTime positionTime) fun impossible => by cases impossible

instance (tick : Time × Node) : Decidable (StartsInRange params tick) :=
  inferInstanceAs (Decidable (_ → _ → _))

/-- A boom angle inside the range starts a block inside it. -/
theorem unity_in_range_feedbackThenTick :
    validateParameters { unityPositionOutputEnabled := true } = .ok () ∧
      ∀ tick ∈ tickStates { unityPositionOutputEnabled := true }
          (start { unityPositionOutputEnabled := true } 0 0 0) (feedbackThenTick 20),
        PublishesInRange { unityPositionOutputEnabled := true } tick :=
  ⟨validateParameters_default true,
    (unity_in_range_iff (validateParameters_default true) rfl 0 0 0 (feedbackThenTick 20)).mpr
      (by decide +kernel)⟩

/-- A boom angle of sixty degrees is published as it is, twelve above the range. -/
theorem unity_out_of_range_feedbackThenTick :
    ¬ ∀ tick ∈ tickStates { unityPositionOutputEnabled := true }
        (start { unityPositionOutputEnabled := true } 0 0 0) (feedbackThenTick 60),
      PublishesInRange { unityPositionOutputEnabled := true } tick := by
  intro all
  obtain ⟨tick, member, u, published, outside⟩ :
      ∃ tick ∈ tickStates { unityPositionOutputEnabled := true }
          (start { unityPositionOutputEnabled := true } 0 0 0) (feedbackThenTick 60),
        ∃ u ∈ (publishCommand { unityPositionOutputEnabled := true } tick.1 tick.2).2.unity,
          ¬ InJointRange { unityPositionOutputEnabled := true } 1 (((1 : ℚ) : Double) * u 1) := by
    decide +kernel
  exact outside ((all tick member u published).1 1 (by decide))

end Range

/-! ## Moving no faster than the stick asks -/

section Reach

variable (params : Parameters)

/-- How far an axis's target moved: the shorter way round for swing. -/
def targetMove (axis : Axis) (after before : Double) : Double :=
  (if axis = 0 then shortestAngularDelta after before else after - before).abs

/-- Between two ticks with fresh feedback no target moves further than the second
tick's command asks for. -/
def MoveBounded (first second : Time × Node) : Prop :=
  simFeedbackFresh params first.1 first.2 = true →
    simFeedbackFresh params second.1 second.2 = true → ∀ axis,
      targetMove axis ((publishCommand params second.1 second.2).1.positionTargets axis)
          ((publishCommand params first.1 first.2).1.positionTargets axis) ≤
        reach params first.1 second.1 (publishCommand params second.1 second.2).2.command axis

/-- If the second tick integrates, the targets it starts from are no further
outside the joint range than its command reaches. -/
def StartsWithinReach (first second : Time × Node) : Prop :=
  simFeedbackFresh params first.1 first.2 = true →
    simFeedbackFresh params second.1 second.2 = true → moves params second.1 second.2 = true →
      ∀ axis, axis ≠ 0 →
        params.positionConfig.lowerRad axis -
            reach params first.1 second.1 second.2.latestCommand axis ≤
          second.2.positionTargets axis ∧
        second.2.positionTargets axis ≤ params.positionConfig.upperRad axis +
          reach params first.1 second.1 second.2.latestCommand axis

/-- The node some time after a tick, before the next one. -/
structure After (first : Time × Node) (g : ClockedNode) : Prop where
  targets : g.node.positionTargets = (publishCommand params first.1 first.2).1.positionTargets
  initialized : simFeedbackFresh params first.1 first.2 = true →
    g.node.positionTargetsInitialized = true
  wasFresh : g.node.simFeedbackWasFresh = simFeedbackFresh params first.1 first.2
  lastUpdate : g.node.lastPositionUpdate = first.1
  forward : first.1 ≤ g.clock
  sound : Sound g.node

/-- Two ticks that follow each other. -/
def Consecutive (first second : Time × Node) : Prop :=
  ∃ g : ClockedNode, After params first g ∧ g.clock ≤ second.1 ∧ g.node = second.2

variable {params}

theorem targetMove_self (axis : Axis) (target : ℚ) :
    targetMove axis (Double.finite target) (Double.finite target) = Double.finite 0 := by
  unfold targetMove
  split
  · simp [remainder, roundTiesEven]
  · simp

/-- No command reaches less than nowhere. -/
theorem reach_nonneg {s : Node} (accepted : params.Accepted) (sound : Sound s)
    {before now : Time} (elapsed : 0 ≤ now - before) (axis : Axis) :
    Double.finite 0 ≤ reach params before now (publishJoy params now s).2 axis := by
  obtain ⟨speed, isSpeed, speedPos⟩ := accepted.speed axis
  obtain ⟨command, isCommand⟩ : ∃ q : ℚ, (publishJoy params now s).2 axis = Double.finite q := by
    unfold publishJoy
    split
    · exact ⟨0, rfl⟩
    · exact (sound.command axis).imp fun _ finite => finite.1
  have hundred : (100 : ℚ) ≠ 0 := by norm_num
  simp only [reach, isCommand, isSpeed, Double.abs_finite, Double.div_finite _ hundred,
    Double.mul_finite, Double.finite_le_finite]
  exact mul_nonneg (mul_nonneg (by positivity) speedPos.le) elapsed

/-- **Two consecutive ticks**: the bound holds exactly when the second starts
within reach of the range. -/
theorem moveBounded_iff {first second : Time × Node} (accepted : params.Accepted)
    (enabled : params.unityPositionOutputEnabled = true)
    (consecutive : Consecutive params first second) :
    MoveBounded params first second ↔ StartsWithinReach params first second := by
  obtain ⟨g, after, forward, same⟩ := consecutive
  obtain ⟨now, s⟩ := second
  dsimp only at forward same
  subst same
  refine forall_congr' fun firstFresh => forall_congr' ?_
  intro fresh
  have ticked := ticked_publishCommand params enabled now g.node
  obtain ⟨base, next, tick⟩ := after.sound.exists_integrates accepted fresh
  -- The second tick goes on from the targets of the first.
  have keeps : reinitializes g.node = false := by
    simp [reinitializes, after.initialized firstFresh, after.wasFresh, firstFresh]
  have isBase (axis : Axis) : g.node.positionTargets axis = Double.finite (base axis) := by
    have start := tick.base_eq axis
    rwa [baseTargets, keeps, if_neg Bool.false_ne_true] at start
  have isNext (axis : Axis) : (publishCommand params now g.node).1.positionTargets axis =
      Double.finite (next axis) := by
    rw [ticked.targets, fresh, if_pos rfl, tick.next_eq]
  have elapsed : 0 ≤ now - first.1 := sub_nonneg.mpr (after.forward.trans forward)
  simp only [← after.targets, isBase, isNext, command_publishCommand]
  cases moving : moves params now g.node with
  | false =>
      simp only [Bool.false_eq_true, false_implies, iff_true]
      intro axis
      rw [tick.still moving, targetMove_self]
      exact reach_nonneg accepted after.sound elapsed axis
  | true =>
      obtain ⟨move, isReach, swing, clamped⟩ := tick.moving moving
      rw [after.lastUpdate] at isReach
      have command : (publishJoy params now g.node).2 = g.node.latestCommand := by
        simp only [moves, Bool.and_eq_true, Bool.not_eq_true'] at moving
        simp [publishJoy, moving.1]
      simp only [forall_true_left, command, isReach, params.lowerRad_eq, params.upperRad_eq,
        Double.sub_finite, Double.add_finite, Double.finite_le_finite]
      constructor
      · intro bounded axis notSwing
        have onAxis := bounded axis
        simp only [targetMove, notSwing, if_false, Double.sub_finite, Double.abs_finite,
          Double.finite_le_finite, clamped axis notSwing] at onAxis
        exact (abs_clamp_add_sub_le_iff (jointLower_le_jointUpper axis) _ _).mp onAxis
      · intro within axis
        by_cases isSwing : axis = 0
        · subst isSwing
          simp only [targetMove, if_true, shortestAngularDelta_finite, Double.abs_finite,
            Double.finite_le_finite, swing]
          exact abs_remainder_remainder_add_sub_le kTwoPi_pos _ _
        · simp only [targetMove, isSwing, if_false, Double.sub_finite, Double.abs_finite,
            Double.finite_le_finite, clamped axis isSwing]
          exact (abs_clamp_add_sub_le_iff (jointLower_le_jointUpper axis) _ _).mpr
            (within axis isSwing)

theorem After.exec {first : Time × Node} {g : ClockedNode} (accepted : params.Accepted)
    (enabled : params.unityPositionOutputEnabled = true) (after : After params first g) {now : Time}
    {event : Event} (forward : g.clock ≤ now) (notTick : event ≠ .tick) :
    After params first { clock := now, node := event.exec params now g.node } := by
  obtain ⟨targets, initialized, wasFresh, lastUpdate⟩ :=
    targets_exec_of_ne params notTick now g.node
  exact ⟨targets.trans after.targets, fun fresh => initialized.trans (after.initialized fresh),
    wasFresh.trans after.wasFresh, lastUpdate.trans after.lastUpdate, after.forward.trans forward,
    sound_exec accepted enabled after.sound now event⟩

theorem After.tick {now : Time} {s : Node} (accepted : params.Accepted)
    (enabled : params.unityPositionOutputEnabled = true) (sound : Sound s) :
    After params (now, s) { clock := now, node := (publishCommand params now s).1 } := by
  have ticked := ticked_publishCommand params enabled now s
  exact ⟨rfl, fun fresh => by rw [ticked.initialized, fresh, Bool.or_true], ticked.wasFresh,
    ticked.lastUpdate, le_rfl, sound_exec accepted enabled sound now .tick⟩

/-- The ticks that follow a tick in a run come one after another. -/
theorem isChain_after (accepted : params.Accepted)
    (enabled : params.unityPositionOutputEnabled = true) (events : List (Time × Event))
    {first : Time × Node} {g : ClockedNode} (after : After params first g) :
    (first :: tickStates params g events).IsChain (Consecutive params) := by
  induction events generalizing first g with
  | nil => exact .singleton _
  | cons event rest ih =>
      simp only [tickStates]
      cases taken : step params g event with
      | none => exact .singleton _
      | some g' =>
          obtain ⟨forward, -, rfl⟩ := step_eq_some.mp taken
          obtain ⟨now, event⟩ := event
          by_cases isTick : event = .tick
          · subst isTick
            exact .cons_cons ⟨g, after, forward, rfl⟩ (ih (.tick accepted enabled after.sound))
          · simpa [isTick] using ih (after.exec accepted enabled forward isTick)

theorem isChain_tickStates (accepted : params.Accepted)
    (enabled : params.unityPositionOutputEnabled = true) (events : List (Time × Event))
    {g : ClockedNode} (sound : Sound g.node) :
    (tickStates params g events).IsChain (Consecutive params) := by
  induction events generalizing g with
  | nil => exact .nil
  | cons event rest ih =>
      simp only [tickStates]
      cases taken : step params g event with
      | none => exact .nil
      | some g' =>
          obtain ⟨-, -, rfl⟩ := step_eq_some.mp taken
          obtain ⟨now, event⟩ := event
          by_cases isTick : event = .tick
          · subst isTick
            exact isChain_after accepted enabled rest (.tick accepted enabled sound)
          · simpa [isTick] using ih (sound_exec accepted enabled sound now event)

/-- Along a chain of linked elements two relations that agree on links chain alike. -/
theorem isChain_congr {α : Type} {link r r' : α → α → Prop} {l : List α} (linked : l.IsChain link)
    (same : ∀ x y, link x y → (r x y ↔ r' x y)) : l.IsChain r ↔ l.IsChain r' := by
  induction linked with
  | nil => exact iff_of_true .nil .nil
  | singleton x => exact iff_of_true (.singleton x) (.singleton x)
  | cons_cons first _ ih =>
      rw [List.isChain_cons_cons, List.isChain_cons_cons, same _ _ first, ih]

/-- **Which runs move no faster than the stick asks.**  In a run, every two
consecutive ticks with fresh feedback obey the bound exactly when the second of
each such pair, if it integrates, starts within reach of the joint range. -/
theorem unity_move_bounded_iff (passed : validateParameters params = .ok ())
    (enabled : params.unityPositionOutputEnabled = true) (joyTime positionTime clock : Time)
    (events : List (Time × Event)) :
    (tickStates params (start params joyTime positionTime clock) events).IsChain
        (MoveBounded params) ↔
      (tickStates params (start params joyTime positionTime clock) events).IsChain
        (StartsWithinReach params) := by
  have accepted := accepted_of_validate passed
  exact isChain_congr
    (isChain_tickStates accepted enabled events (sound_start joyTime positionTime))
    fun _ _ consecutive => moveBounded_iff accepted enabled consecutive

instance (first second : Time × Node) : Decidable (StartsWithinReach params first second) :=
  inferInstanceAs (Decidable (_ → _ → _ → _))

instance (first second : Time × Node) : Decidable (MoveBounded params first second) :=
  inferInstanceAs (Decidable (_ → _ → _))

/-- Sticks at rest after a first tick, and a second tick that integrates them. -/
def restThenTick : List (Time × Event) :=
  [(3 / 50, .joy { axes := [0, 0, 0, 0], buttons := List.replicate 10 0 }), (1 / 10, .tick)]

/-- A boom angle inside the range stays where it is. -/
theorem unity_move_bounded_restThenTick :
    (tickStates { unityPositionOutputEnabled := true }
      (start { unityPositionOutputEnabled := true } 0 0 0)
        (feedbackThenTick 20 ++ restThenTick)).IsChain
      (MoveBounded { unityPositionOutputEnabled := true }) :=
  (unity_move_bounded_iff (validateParameters_default true) rfl 0 0 0
    (feedbackThenTick 20 ++ restThenTick)).mpr (by decide +kernel)

/-- A boom angle of sixty degrees jumps to the range on a stick at rest. -/
theorem unity_jumps_restThenTick :
    ¬ (tickStates { unityPositionOutputEnabled := true }
      (start { unityPositionOutputEnabled := true } 0 0 0)
        (feedbackThenTick 60 ++ restThenTick)).IsChain
      (MoveBounded { unityPositionOutputEnabled := true }) := by
  decide +kernel

end Reach

end Tb20e.Gamepad
