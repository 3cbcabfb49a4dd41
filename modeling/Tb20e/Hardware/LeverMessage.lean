/-
# Hardware.LeverMessage -- what a nonzero lever message means

`leverCommand_open` is the lever command of an axis whose gates are open, in
rationals: the effort with the lever's sign, bounded, and moved out of the dead
band.  `GatesOpen` is what the gates say of the state a `write` starts in, and
`Heard` ties the mask and the stored samples to the messages received so far.
Together they are **`nonzero_message_meaning`**.

The end stop is checked against the stored position, which is clamped to the
joint range; `withinEndStop_of_stored` is the same check on the angle that was
received.
-/
import Tb20e.Hardware.Sequential

namespace Tb20e.Hardware

set_option autoImplicit false

open Tb20e.Theory Tb20e.Control
open Tb20e.Theory (Double)

/-! ## The lever command of an open axis -/

namespace AxisConfig

/-- The effort with the lever's sign, bounded to the lever's range. -/
def bounded (config : AxisConfig) (effort : ℚ) : ℚ :=
  clamp (config.leverSign * effort) config.leverMin config.leverMax

/-- The compensation minimum that a bounded command is subject to. -/
def minimumFor (config : AxisConfig) (command : ℚ) : ℚ :=
  if 0 < command then config.leverPositiveMin else config.leverNegativeMin

/-- The lever for a bounded command, and the direction it leaves. -/
def lever (config : AxisConfig) (command : ℚ) (activeDirection : ℤ) : ℚ × ℤ :=
  if config.minimumFor command = 0 then (command, 0)
  else if |command| ≤ config.leverStop ∨
      (activeDirection ≠ directionOf command ∧ |command| < config.leverStart) then (0, 0)
  else (directionOf command * max (config.minimumFor command) |command|, directionOf command)

variable {config : AxisConfig}

/-- A nonzero lever is its command, raised to the minimum in its direction. -/
theorem lever_of_ne_zero {command : ℚ} {activeDirection : ℤ}
    (nonzero : (config.lever command activeDirection).1 ≠ 0) :
    command ≠ 0 ∧ (config.lever command activeDirection).1 =
      directionOf command * max (config.minimumFor command) |command| := by
  revert nonzero
  unfold lever
  split_ifs with free held
  · intro nonzero
    refine ⟨nonzero, ?_⟩
    rw [free, max_eq_right (abs_nonneg command), directionOf_mul_abs]
  · exact fun nonzero => absurd rfl nonzero
  · intro nonzero
    refine ⟨fun zero => nonzero ?_, rfl⟩
    simp [zero]

section Valid

variable (valid : config.Valid)
include valid

/-- A bounded command has the sign of what was bounded, or is zero. -/
theorem bounded_sign {effort : ℚ} (nonzero : config.bounded effort ≠ 0) :
    (0 < config.bounded effort ↔ 0 < config.leverSign * effort) ∧
      (config.bounded effort < 0 ↔ config.leverSign * effort < 0) := by
  have low := valid.min_nonpos
  have high := valid.max_nonneg
  revert nonzero
  unfold bounded clamp
  generalize config.leverSign * effort = signed
  split_ifs with below above
  · intro nonzero
    have : config.leverMin < 0 := lt_of_le_of_ne low nonzero
    exact ⟨by constructor <;> intro <;> linarith, by constructor <;> intro <;> linarith⟩
  · intro nonzero
    have : 0 < config.leverMax := lt_of_le_of_ne high nonzero.symm
    exact ⟨by constructor <;> intro <;> linarith, by constructor <;> intro <;> linarith⟩
  · exact fun _ => ⟨Iff.rfl, Iff.rfl⟩

theorem bounded_between (effort : ℚ) :
    config.leverMin ≤ config.bounded effort ∧ config.bounded effort ≤ config.leverMax :=
  ⟨le_clamp valid.min_lt_max.le _, clamp_le valid.min_lt_max.le _⟩

/-- **A nonzero lever** is in the lever's range, has the sign of its command and
the larger magnitude of the minimum and the command. -/
theorem lever_meaning {effort : ℚ} {activeDirection : ℤ}
    (nonzero : (config.lever (config.bounded effort) activeDirection).1 ≠ 0) :
    let value := (config.lever (config.bounded effort) activeDirection).1
    (config.leverMin ≤ value ∧ value ≤ config.leverMax) ∧
      (0 < value ↔ 0 < config.leverSign * effort) ∧
      (value < 0 ↔ config.leverSign * effort < 0) ∧
      |value| = max (if 0 < value then config.leverPositiveMin else config.leverNegativeMin)
        |config.bounded effort| := by
  obtain ⟨commanded, same⟩ := lever_of_ne_zero nonzero
  obtain ⟨positive, negative⟩ := bounded_sign valid commanded
  obtain ⟨above, below⟩ := bounded_between valid effort
  rw [same, ← positive, ← negative]
  generalize config.bounded effort = command at *
  rcases lt_or_gt_of_ne commanded with neg | pos
  · have floor : 0 < max config.leverNegativeMin |command| :=
      lt_max_of_lt_right (abs_pos.mpr commanded)
    have least : max config.leverNegativeMin |command| ≤ -config.leverMin :=
      max_le valid.negativeMin_le (by rw [abs_of_neg neg]; linarith)
    have room := valid.max_nonneg
    simp only [minimumFor, directionOf_of_neg neg, not_lt.mpr neg.le, if_false, Int.cast_neg,
      Int.cast_one, neg_one_mul, Left.neg_pos_iff, Left.neg_neg_iff, not_lt.mpr floor.le, neg, floor,
      abs_neg, abs_of_pos floor, iff_self, and_true]
    constructor <;> linarith
  · have floor : 0 < max config.leverPositiveMin |command| :=
      lt_max_of_lt_right (abs_pos.mpr commanded)
    have most : max config.leverPositiveMin |command| ≤ config.leverMax :=
      max_le valid.positiveMin_le (by rwa [abs_of_pos pos])
    have room := valid.min_nonpos
    simp only [minimumFor, directionOf_of_pos pos, pos, if_true, Int.cast_one, one_mul, floor,
      not_lt.mpr floor.le, not_lt.mpr pos.le, abs_of_pos floor, iff_self, and_true]
    constructor <;> linarith

/-- A lever at zero leaves no direction. -/
theorem lever_snd_of_zero {command : ℚ} {activeDirection : ℤ}
    (zero : (config.lever command activeDirection).1 = 0) :
    (config.lever command activeDirection).2 = 0 := by
  revert zero
  unfold lever
  split_ifs with free held
  · exact fun _ => rfl
  · exact fun _ => rfl
  · intro zero
    have moving : 0 < |command| :=
      valid.stop_nonneg.trans_lt (not_le.mp fun still => held (.inl still))
    rcases mul_eq_zero.mp zero with still | none
    · exact Int.cast_eq_zero.mp still
    · exact absurd none (lt_max_of_lt_right moving).ne'

end Valid

end AxisConfig

variable {P : Parameters} {throws : ℕ → Bool} {now : Time} {s : LeverHardware} {axis : Axis}

/-- The compensation of an accepted axis. -/
theorem compensatedLeverCommand_eq {config : AxisConfig} (valid : config.Valid) (command : ℚ)
    (activeDirection : ℤ) :
    compensatedLeverCommand command config.leverPositiveMin config.leverNegativeMin
        config.leverStart config.leverStop activeDirection =
      (Double.finite (config.lever command activeDirection).1,
        (config.lever command activeDirection).2) := by
  rw [compensatedLeverCommand_finite valid.positiveMin_nonneg valid.negativeMin_nonneg
    valid.stop_nonneg valid.stop_lt_start]
  simp only [AxisConfig.lever, AxisConfig.minimumFor]
  split_ifs <;> rfl

/-- The command of an open axis whose effort is finite. -/
theorem leverCommand_open (valid : P.Valid) {locals : Locals} {latched : Bool} {mask : BitVec 8}
    {effort : ℚ} {activeDirection : ℤ}
    (isOpen : axisOpen P locals latched mask effort axis = true) :
    leverCommand P locals latched mask effort activeDirection axis =
      (let config := P.axisConfigs axis
       let lever := config.lever (config.bounded effort) activeDirection
       (Double.finite lever.1, lever.2)) := by
  have bound : boundedLeverCommand effort (P.axisConfigs axis).leverSign
      (P.axisConfigs axis).leverMin (P.axisConfigs axis).leverMax =
        Double.finite ((P.axisConfigs axis).bounded effort) := boundedLeverCommand_finite ..
  simp only [leverCommand, isOpen, if_true, bound, compensatedLeverCommand_eq (valid.axis axis)]
  by_cases zero : ((P.axisConfigs axis).lever ((P.axisConfigs axis).bounded effort)
      activeDirection).1 = 0
  · rw [AxisConfig.lever_snd_of_zero (valid.axis axis) zero, ite_self]
  · rw [if_neg (by simpa using zero)]

/-! ## The gates -/

/-- What open gates say of the state that a `write` starts in. -/
structure GatesOpen (P : Parameters) (now : Time) (s : LeverHardware) (axis : Axis) : Prop where
  active : s.active = true
  unlatched : s.feedbackFaultLatched = false
  outputEnabled : P.commandOutputEnabled = true
  fresh : ∀ a, feedbackIsFresh P (s.feedback a) now = true
  finite : ∀ a, (s.effortCommands a).isFinite = true
  masked : axisEnabled s.activeAxisMask axis = true
  inside : movesOutsideEndStop P axis (s.feedback axis).positionRad (s.effortCommands axis) = false

/-- The gates of an axis at the publish loop of a whole `write`. -/
def openAt (P : Parameters) (now : Time) (s : LeverHardware) (axis : Axis) : Bool :=
  let c := beforePublish P now s
  axisOpen P c.locals c.hw.feedbackFaultLatched c.hw.activeAxisMask (c.hw.effortCommands axis) axis

@[simp] theorem beforePublish_effortCommands :
    (beforePublish P now s).hw.effortCommands = s.effortCommands := by
  simp only [beforePublish, writeTest, writeSnapshot]
  split <;> rfl

@[simp] theorem beforePublish_activeAxisMask :
    (beforePublish P now s).hw.activeAxisMask = s.activeAxisMask := by
  simp only [beforePublish, writeTest, writeSnapshot]
  split <;> rfl

@[simp] theorem beforePublish_activeDirection :
    (beforePublish P now s).hw.activeDirection = s.activeDirection := by
  simp only [beforePublish, writeTest, writeSnapshot]
  split <;> rfl

@[simp] theorem beforePublish_attempts :
    (beforePublish P now s).hw.attempts = s.attempts := by
  simp only [beforePublish, writeTest, writeSnapshot]
  split <;> rfl

theorem openAt_iff : openAt P now s axis = true ↔ GatesOpen P now s axis := by
  simp only [openAt, axisOpen, beforePublish_effortCommands, beforePublish_activeAxisMask,
    Bool.and_eq_true, Bool.not_eq_true']
  constructor
  · rintro ⟨⟨⟨enabled, output⟩, -⟩, masked, inside⟩
    simp only [beforePublish, writeTest, writeSnapshot, Bool.and_eq_true, all_axes_iff,
      Bool.not_eq_true'] at enabled
    obtain ⟨⟨⟨active, fresh⟩, finite⟩, unlatched⟩ := enabled
    refine ⟨active, ?_, output, fresh, finite, masked, inside⟩
    revert unlatched
    split
    · simp
    · exact id
  · rintro ⟨active, unlatched, output, fresh, finite, masked, inside⟩
    have allFresh : (axes.all fun a => feedbackIsFresh P (s.feedback a) now) = true :=
      all_axes_iff.mpr fresh
    have allFinite : (axes.all fun a => (s.effortCommands a).isFinite) = true :=
      all_axes_iff.mpr finite
    have inside' : movesOutsideEndStop P axis
        ((beforePublish P now s).locals.feedbackPositions axis) (s.effortCommands axis) = false :=
      inside
    refine ⟨⟨⟨?_, output⟩, ?_⟩, masked, inside'⟩ <;>
      simp [beforePublish, writeTest, writeSnapshot, active, allFresh, allFinite, unlatched]

/-! ## What has been received -/

/-- The mask that was received last. -/
def lastMask (past : List (Time × Callback)) : Option (BitVec 8) :=
  past.reverse.findSome? fun message =>
    match message.2 with
    | .mask data => some data
    | .feedback _ _ => none

/-- The mask in force: the last one received, and before any was received every
bit if there is no topic for it and none if there is. -/
def maskInForce (P : Parameters) (past : List (Time × Callback)) : BitVec 8 :=
  (lastMask past).getD (if P.activeAxisMaskTopic.isEmpty then kAllAxesMask else 0#8)

/-- The angle in degrees of a message that the axis accepts. -/
def acceptedAngle (P : Parameters) (axis : Axis) : Callback → Option ℚ
  | .feedback a (some (.finite degrees)) =>
      if a = axis ∧ (acceptedPosition P axis (some (Double.finite degrees))).isSome then some degrees
      else none
  | _ => none

/-- The angle of the axis that was accepted last, in degrees. -/
def lastAngle (P : Parameters) (axis : Axis) (past : List (Time × Callback)) : Option ℚ :=
  past.reverse.findSome? fun message => acceptedAngle P axis message.2

/-- The mask and the samples are those of the messages received. -/
structure Heard (P : Parameters) (past : List (Time × Callback)) (s : LeverHardware) : Prop where
  mask : s.activeAxisMask = maskInForce P past &&& kAllAxesMask
  sample : ∀ axis, (s.feedback axis).received = true → ∃ degrees,
    lastAngle P axis past = some degrees ∧
      (s.feedback axis).positionRad = Double.finite (storedPosition P axis degrees)

theorem lastAngle_concat {past : List (Time × Callback)} {callback : Callback} :
    lastAngle P axis (past ++ [(now, callback)]) =
      (acceptedAngle P axis callback).or (lastAngle P axis past) := by
  simp only [lastAngle, List.reverse_append, List.reverse_singleton, List.singleton_append,
    List.findSome?_cons]
  cases acceptedAngle P axis callback <;> rfl

theorem acceptedAngle_other {a : Axis} {message : Option Double} (other : a ≠ axis) :
    acceptedAngle P axis (.feedback a message) = none := by
  unfold acceptedAngle
  split
  · next same => cases same; simp [other]
  · rfl

theorem acceptedAngle_of_accepted {message : Option Double} {positionRad : Double}
    (accepted : acceptedPosition P axis message = some positionRad) :
    ∃ degrees, acceptedAngle P axis (.feedback axis message) = some degrees ∧
      positionRad = Double.finite (storedPosition P axis degrees) := by
  obtain ⟨degrees, rfl, stored⟩ := acceptedPosition_eq_some P accepted
  exact ⟨degrees, by simp [acceptedAngle, accepted], stored⟩

theorem heard_start (P : Parameters) : Heard P [] (initialHardware P) where
  mask := by
    simp only [initialHardware, maskInForce, lastMask, List.reverse_nil, List.findSome?_nil,
      Option.getD_none]
    split <;> decide
  sample := fun _ received => by cases received

/-- A section keeps the mask, and keeps every sample or forgets it. -/
theorem exec_heard (P : Parameters) (throws : ℕ → Bool) (now : Time) (sec : Section)
    (c : Control) :
    (sec.exec P throws now c).hw.activeAxisMask = c.hw.activeAxisMask ∧
      ((sec.exec P throws now c).hw.feedback = c.hw.feedback ∨
        (sec.exec P throws now c).hw.feedback = fun _ => {}) := by
  cases sec <;> simp only [Section.exec, readFeedback, latchVelocityFault, writeSnapshot,
    writeTest, writePublish_eq, resetFeedback, copyFeedbackToStatesLocked,
    latchFaultAndPublishZero, publishZeroToAllAxesLocked_eq] <;> (try split) <;> (try split) <;>
    simp

theorem invalidateFeedback_heard (throws : ℕ → Bool) (axis : Axis) (s : LeverHardware) :
    (invalidateFeedback throws axis s).activeAxisMask = s.activeAxisMask ∧
      (invalidateFeedback throws axis s).feedback = Function.update s.feedback axis {} := by
  simp only [invalidateFeedback, publishZeroToAllAxesLocked_eq]
  split <;> exact ⟨rfl, rfl⟩

theorem heard_kept : KeptWithMessages P throws (Heard P) where
  exec past sec now c heard := by
    obtain ⟨mask, same | forgot⟩ := exec_heard P throws now sec c
    · exact ⟨mask.trans heard.mask, by rw [same]; exact heard.sample⟩
    · exact ⟨mask.trans heard.mask, by rw [forgot]; exact fun _ received => by cases received⟩
  effort past s axis value heard := ⟨heard.mask, heard.sample⟩
  callback past s now callback _ heard := by
    cases callback with
    | mask data =>
        constructor
        · simp [Callback.exec, activeAxisMaskCallback, maskInForce, lastMask]
        · intro axis received
          rw [lastAngle_concat]
          exact heard.sample axis received
    | feedback a message =>
        have mask : maskInForce P (past ++ [(now, .feedback a message)]) = maskInForce P past := by
          simp [maskInForce, lastMask]
        cases position : acceptedPosition P a message with
        | none =>
            obtain ⟨sameMask, cleared⟩ := invalidateFeedback_heard throws a s
            simp only [Callback.exec, position]
            refine ⟨by rw [mask, sameMask]; exact heard.mask, ?_⟩
            intro axis received
            rw [cleared] at received ⊢
            by_cases same : axis = a
            · subst same
              simp at received
            · rw [Function.update_of_ne same] at received ⊢
              rw [lastAngle_concat, acceptedAngle_other (Ne.symm same), Option.none_or]
              exact heard.sample axis received
        | some positionRad =>
            simp only [Callback.exec, position]
            refine ⟨by rw [mask]; exact heard.mask, ?_⟩
            intro axis received
            rw [lastAngle_concat]
            by_cases same : axis = a
            · subst same
              obtain ⟨degrees, angle, stored⟩ := acceptedAngle_of_accepted position
              exact ⟨degrees, by rw [angle, Option.some_or], by simpa [storeSample] using stored⟩
            · rw [acceptedAngle_other (Ne.symm same), Option.none_or]
              simp only [storeSample, Function.update_of_ne same] at received ⊢
              exact heard.sample axis received

/-! ## The end stop, on the angle received -/

/-- The angle is at or past an end stop's guard, and the effort points there. -/
def pushesPastEndStop (config : AxisConfig) (positionRad effort : ℚ) : Prop :=
  (positionRad ≤ config.positionMinRad + kEndStopGuardRadians ∧ effort < 0) ∨
    (config.positionMaxRad - kEndStopGuardRadians ≤ positionRad ∧ 0 < effort)

theorem kEndStopGuardRadians_pos : 0 < kEndStopGuardRadians :=
  mul_pos (by norm_num) kDegreesToRadians_pos

/-- An open gate checks the stored position, which is where the received angle
was clamped to; the angle itself is then not past the end stop either. -/
theorem withinEndStop_of_stored (valid : P.Valid) {degrees effort : ℚ}
    (finiteJoint : (P.axisConfigs axis).continuous = false)
    (inside : movesOutsideEndStop P axis (Double.finite (storedPosition P axis degrees))
      (Double.finite effort) = false) :
    ¬ pushesPastEndStop (P.axisConfigs axis) (degrees * kDegreesToRadians) effort := by
  have ordered := (valid.axis axis).position_lt finiteJoint
  have guard := kEndStopGuardRadians_pos
  simp only [movesOutsideEndStop, finiteJoint, commandPointsOutsideLimit, storedPosition,
    Bool.not_false, Bool.true_and, Bool.or_eq_false_iff, Bool.and_eq_false_iff, Double.zero_eq,
    Double.finite_le_finite, Double.finite_lt_finite, decide_eq_false_iff_not,
    ge_iff_le, gt_iff_lt, Bool.false_eq_true, if_false, clamp_eq_max_min ordered.le] at inside
  rintro (⟨low, pushes⟩ | ⟨high, pushes⟩)
  · refine inside.1.elim (fun above => above (max_le (by linarith) ?_)) fun still => still pushes
    exact (min_le_left _ _).trans low
  · refine inside.2.elim (fun below => below (le_max_of_le_right ?_)) fun still => still pushes
    exact le_min high (by linarith)

/-! ## The message -/

/-- The calls of a whole `write` that does not throw are those of its loop. -/
theorem write_calls {calls : List Attempt}
    (published : (writePublish P throws (beforePublish P now s)).hw.attempts = calls ++ s.attempts)
    (quiet : ∀ call ∈ calls, call.threw = false) :
    calls = loopCalls P throws (beforePublish P now s) := by
  rw [writePublish_eq] at published
  simp only [publishZeroToAllAxesLocked_eq, beforePublish_attempts] at published
  split at published
  · next failed =>
      rw [← List.append_assoc] at published
      obtain rfl := List.append_cancel_right published
      obtain ⟨call, member, threw⟩ := List.any_eq_true.mp failed
      rw [quiet call (List.mem_append_right _ member)] at threw
      cases threw
  · exact (List.append_cancel_right published).symm

theorem data_of_mem_loopCalls {c : Control} {call : Attempt} (member : call ∈ loopCalls P throws c) :
    call.data = leverMessage P c call.axis := by
  simp only [loopCalls, List.mem_cons, List.not_mem_nil, or_false] at member
  rcases member with rfl | rfl | rfl | rfl <;> rfl

/-- The message of a closed axis. -/
theorem leverMessage_closed (closed : openAt P now s axis = false) :
    leverMessage P (beforePublish P now s) axis = 0 := by
  unfold leverMessage leverOf
  rw [leverCommand_closed P closed]
  rfl

/-- The lever of an open axis. -/
theorem leverOf_open (valid : P.Valid) {effort : ℚ} (isOpen : openAt P now s axis = true)
    (finite : s.effortCommands axis = Double.finite effort) :
    leverOf P (beforePublish P now s) axis =
      (let config := P.axisConfigs axis
       let lever := config.lever (config.bounded effort) (s.activeDirection axis)
       (Double.finite lever.1, lever.2)) := by
  have gates := isOpen
  simp only [openAt, beforePublish_effortCommands, finite] at gates
  simp only [leverOf, beforePublish_effortCommands, beforePublish_activeDirection, finite]
  rw [leverCommand_open valid gates]

/-- What a nonzero message on an axis says of the state that its `write` starts
in, after some messages. -/
structure MessageMeaning (P : Parameters) (past : List (Time × Callback)) (now : Time)
    (s : LeverHardware) (axis : Axis) (data : Double) : Prop where
  active : s.active = true
  unlatched : s.feedbackFaultLatched = false
  outputEnabled : P.commandOutputEnabled = true
  fresh : ∀ a, (s.feedback a).received = true ∧ 0 ≤ now - (s.feedback a).receivedAt ∧
    now - (s.feedback a).receivedAt ≤ P.stateTimeoutSec
  efforts : ∀ a, (s.effortCommands a).isFinite = true
  masked : (maskInForce P past).getLsbD axis = true
  value : ∃ value effort : ℚ,
    data = Double.finite value ∧ s.effortCommands axis = Double.finite effort ∧
      let config := P.axisConfigs axis
      (config.leverMin ≤ value ∧ value ≤ config.leverMax) ∧
        (0 < value ↔ 0 < config.leverSign * effort) ∧
        (value < 0 ↔ config.leverSign * effort < 0) ∧
        |value| = max (if 0 < value then config.leverPositiveMin else config.leverNegativeMin)
          |clamp (config.leverSign * effort) config.leverMin config.leverMax| ∧
        (config.continuous = false → ∃ degrees, lastAngle P axis past = some degrees ∧
          ¬ pushesPastEndStop config (degrees * kDegreesToRadians) effort)

theorem messageMeaning_of_ne_zero (valid : P.Valid) {past : List (Time × Callback)}
    (heard : Heard P past s)
    (nonzero : leverMessage P (beforePublish P now s) axis ≠ 0) :
    MessageMeaning P past now s axis (leverMessage P (beforePublish P now s) axis) := by
  have isOpen : openAt P now s axis = true := by
    by_contra closed
    exact nonzero (leverMessage_closed (Bool.not_eq_true _ ▸ closed))
  have gates := openAt_iff.mp isOpen
  obtain ⟨effort, commanded⟩ := Double.isFinite_iff.mp (gates.finite axis)
  have message : leverMessage P (beforePublish P now s) axis = Double.finite
      ((P.axisConfigs axis).lever ((P.axisConfigs axis).bounded effort) (s.activeDirection axis)).1 := by
    simp [leverMessage, leverOf_open valid isOpen commanded]
  rw [message] at nonzero ⊢
  have moving : ((P.axisConfigs axis).lever ((P.axisConfigs axis).bounded effort)
      (s.activeDirection axis)).1 ≠ 0 := by simpa using nonzero
  obtain ⟨range, positive, negative, magnitude⟩ := AxisConfig.lever_meaning (valid.axis axis) moving
  refine ⟨gates.active, gates.unlatched, gates.outputEnabled, ?_, gates.finite, ?_,
    _, effort, rfl, commanded, range, positive, negative, magnitude, ?_⟩
  · intro a
    have fresh := gates.fresh a
    simp only [feedbackIsFresh, Bool.and_eq_true, decide_eq_true_eq] at fresh
    exact fresh
  · rw [← axisEnabled_kAllAxesMask, ← heard.mask]
    exact gates.masked
  · intro finiteJoint
    have fresh := gates.fresh axis
    simp only [feedbackIsFresh, Bool.and_eq_true] at fresh
    obtain ⟨degrees, angle, stored⟩ := heard.sample axis fresh.1
    have inside := gates.inside
    rw [stored, commanded] at inside
    exact ⟨degrees, angle, withinEndStop_of_stored valid finiteJoint inside⟩

/-- **The meaning of a nonzero lever message.**  After a successful `on_init` and
any run, let a `write` that throws nowhere call `publish` with `data` other than
zero on an axis.  Then every gate was open, the value is the bounded effort
raised to the minimum of its direction, and the axis is not being pushed past an
end stop by the angle it last accepted. -/
theorem nonzero_message_meaning {stod : Stod} {baseOk : Bool} {info : HardwareInfo}
    {indices : List Axis} {hw : LeverHardware} {clock : Time} {events : List (Time × Op)}
    {σ τ : System} {calls : List Attempt} {data : Double}
    (init : onInit stod baseOk info = .ok (P, indices, hw))
    (reached : runs (System.step P throws) (System.start clock hw) events = some σ)
    (written : System.step P throws σ (now, .call .write []) = some τ)
    (published : τ.hw.attempts = calls ++ σ.hw.attempts)
    (quiet : ∀ call ∈ calls, call.threw = false)
    (sent : { axis, data, threw := false } ∈ calls) (nonzero : data ≠ 0) :
    MessageMeaning P (messages events) now σ.hw axis data := by
  obtain ⟨loaded, -, rfl⟩ := onInit_eq_ok init
  have valid := loadHardwareParameters_valid loaded
  have heard : Heard P (messages events) σ.hw := runs_messages heard_kept reached (heard_start P)
  obtain ⟨-, rfl⟩ := step_write_eq_some.mp written
  obtain rfl : calls = loopCalls P throws (beforePublish P now σ.hw) :=
    write_calls published quiet
  obtain rfl : data = leverMessage P (beforePublish P now σ.hw) axis := data_of_mem_loopCalls sent
  exact messageMeaning_of_ne_zero valid heard nonzero

/-- An effort of 50 on the boom, whose lever is reversed. -/
theorem nonzero_message_meaning_boom :
    ∃ σ τ : System,
      runs (System.step defaultParameters fun _ => false)
        (System.start 0 (initialHardware defaultParameters))
        (activationCalls ++ [(0, .assignEffort 1 (50 : ℚ))]) = some σ ∧
      System.step defaultParameters (fun _ => false) σ (1 / 100, .call .write []) = some τ ∧
      MessageMeaning defaultParameters
        (messages (activationCalls ++ [(0, .assignEffort 1 (50 : ℚ))])) (1 / 100) σ.hw 1
        (Double.finite (-50)) := by
  obtain ⟨σ, reached, τ, written, published, quiet, sent⟩ :
      ∃ σ ∈ runs (System.step defaultParameters fun _ => false)
          (System.start 0 (initialHardware defaultParameters))
          (activationCalls ++ [(0, .assignEffort 1 (50 : ℚ))]),
        ∃ τ ∈ System.step defaultParameters (fun _ => false) σ (1 / 100, .call .write []),
          τ.hw.attempts = τ.hw.attempts.take 4 ++ σ.hw.attempts ∧
            (∀ call ∈ τ.hw.attempts.take 4, call.threw = false) ∧
              { axis := 1, data := Double.finite (-50), threw := false } ∈
                τ.hw.attempts.take 4 := by
    decide +kernel
  exact ⟨σ, τ, reached, written, nonzero_message_meaning (onInit_unset fun _ => .ok (.nan, 0))
    reached written published quiet sent (by decide)⟩

end Tb20e.Hardware
