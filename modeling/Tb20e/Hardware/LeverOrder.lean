/-
# Hardware.LeverOrder -- the lever path preserves order

`leverPath` passes a sequence of efforts through the bound and the dead-band
compensation, each answer's direction being the next one's state.  The two
directions of the compensation mirror each other: both are `side`, which is
monotone in the magnitude and in whether its direction is running.  A step is then
monotone in the command and the direction together (`lever_mono`), and so are
whole runs (`leverPath_mono`): the hysteresis never makes a larger command
produce a smaller lever.
-/
import Tb20e.Hardware.DeadBand

namespace Tb20e.Hardware

set_option autoImplicit false

open Tb20e.Theory Tb20e.Control
open Tb20e.Theory (Double)

namespace AxisConfig

/-- One direction of the compensation, on magnitudes. -/
def side (config : AxisConfig) (minimum magnitude : ℚ) (running : Bool) : ℚ × ℤ :=
  if minimum = 0 then (magnitude, 0)
  else if magnitude ≤ config.leverStop ∨ (running = false ∧ magnitude < config.leverStart) then (0, 0)
  else (max minimum magnitude, 1)

variable {config : AxisConfig}

theorem lever_of_pos {command : ℚ} (pos : 0 < command) (activeDirection : ℤ) :
    config.lever command activeDirection =
      config.side config.leverPositiveMin command (activeDirection = 1) := by
  simp [lever, side, minimumFor, directionOf_of_pos pos, pos, abs_of_pos pos]

theorem lever_of_neg {command : ℚ} (neg : command < 0) (activeDirection : ℤ) :
    config.lever command activeDirection =
      (-(config.side config.leverNegativeMin (-command) (activeDirection = -1)).1,
        -(config.side config.leverNegativeMin (-command) (activeDirection = -1)).2) := by
  simp only [lever, side, minimumFor, directionOf_of_neg neg, not_lt.mpr neg.le, if_false,
    abs_of_neg neg, decide_eq_false_iff_not]
  split_ifs <;> simp

theorem lever_zero (activeDirection : ℤ) : config.lever 0 activeDirection = (0, 0) := by
  simp [lever]

theorem side_nonneg (config : AxisConfig) (minimum : ℚ) {magnitude : ℚ}
    (nonneg : 0 ≤ magnitude) (running : Bool) :
    0 ≤ (config.side minimum magnitude running).1 ∧
      0 ≤ (config.side minimum magnitude running).2 := by
  unfold side
  split_ifs
  · exact ⟨nonneg, le_rfl⟩
  · exact ⟨le_rfl, le_rfl⟩
  · exact ⟨le_max_of_le_right nonneg, zero_le_one⟩

/-- A direction that is running stays so for a larger magnitude. -/
theorem side_mono (config : AxisConfig) (minimum : ℚ) {magnitude magnitude' : ℚ}
    {running running' : Bool} (nonneg : 0 ≤ magnitude)
    (larger : magnitude ≤ magnitude') (still : running = true → running' = true) :
    (config.side minimum magnitude running).1 ≤ (config.side minimum magnitude' running').1 ∧
      (config.side minimum magnitude running).2 ≤ (config.side minimum magnitude' running').2 := by
  by_cases quiet : magnitude ≤ config.leverStop ∨ (running = false ∧ magnitude < config.leverStart)
  · have after := side_nonneg config minimum (nonneg.trans larger) running'
    by_cases free : minimum = 0
    · simpa [side, free] using larger
    · simpa [side, free, quiet] using after
  · have quiet' : ¬ (magnitude' ≤ config.leverStop ∨
        (running' = false ∧ magnitude' < config.leverStart)) := by
      rw [not_or, not_and, not_le, not_lt] at quiet ⊢
      refine ⟨quiet.1.trans_le larger, ?_⟩
      intro stopped
      have stoppedBefore : running = false := by
        rw [← Bool.not_eq_true]
        intro runs
        rw [still runs] at stopped
        cases stopped
      exact (quiet.2 stoppedBefore).trans larger
    by_cases free : minimum = 0
    · simpa [side, free] using larger
    · simpa only [side, free, quiet, quiet', if_false, le_refl, and_true] using
        max_le_max_left minimum larger

/-- The directions that the compensation is ever left in. -/
def IsDirection (direction : ℤ) : Prop := direction = -1 ∨ direction = 0 ∨ direction = 1

theorem isDirection_lever (command : ℚ) (activeDirection : ℤ) :
    IsDirection (config.lever command activeDirection).2 := by
  unfold lever
  split_ifs
  · exact .inr (.inl rfl)
  · exact .inr (.inl rfl)
  · rcases lt_trichotomy command 0 with neg | rfl | pos
    · exact .inl (directionOf_of_neg neg)
    · exact .inr (.inl directionOf_zero)
    · exact .inr (.inr (directionOf_of_pos pos))

/-- The lever and its direction have the sign of the command. -/
theorem lever_nonneg (config : AxisConfig) {command : ℚ} (nonneg : 0 ≤ command)
    (activeDirection : ℤ) :
    0 ≤ (config.lever command activeDirection).1 ∧
      0 ≤ (config.lever command activeDirection).2 := by
  rcases nonneg.eq_or_lt with rfl | pos
  · rw [lever_zero]
    exact ⟨le_rfl, le_rfl⟩
  · rw [lever_of_pos pos]
    exact side_nonneg config _ nonneg _

theorem lever_nonpos (config : AxisConfig) {command : ℚ} (nonpos : command ≤ 0)
    (activeDirection : ℤ) :
    (config.lever command activeDirection).1 ≤ 0 ∧
      (config.lever command activeDirection).2 ≤ 0 := by
  rcases nonpos.eq_or_lt with rfl | neg
  · rw [lever_zero]
    exact ⟨le_rfl, le_rfl⟩
  · rw [lever_of_neg neg]
    have mirrored := side_nonneg config config.leverNegativeMin
      (neg_nonneg.mpr nonpos) (activeDirection = -1)
    exact ⟨neg_nonpos.mpr mirrored.1, neg_nonpos.mpr mirrored.2⟩

/-- **One step preserves order**, of the command and of the direction. -/
theorem lever_mono (config : AxisConfig) {command command' : ℚ} {direction direction' : ℤ}
    (larger : command ≤ command') (ahead : direction ≤ direction')
    (isDirection : IsDirection direction) (isDirection' : IsDirection direction') :
    (config.lever command direction).1 ≤ (config.lever command' direction').1 ∧
      (config.lever command direction).2 ≤ (config.lever command' direction').2 := by
  rcases le_or_gt command 0 with nonpos | pos
  · rcases le_or_gt 0 command' with nonneg' | neg'
    · -- The commands are on the two sides of zero, and so are the levers.
      have low := lever_nonpos config nonpos direction
      have high := lever_nonneg config nonneg' direction'
      exact ⟨low.1.trans high.1, low.2.trans high.2⟩
    · rw [lever_of_neg (larger.trans_lt neg'), lever_of_neg neg']
      have still : decide (direction' = -1) = true → decide (direction = -1) = true := by
        simp only [decide_eq_true_eq]
        rintro rfl
        rcases isDirection with rfl | rfl | rfl
        · rfl
        · omega
        · omega
      have mirrored := side_mono config config.leverNegativeMin (neg_nonneg.mpr neg'.le)
        (neg_le_neg larger) still
      exact ⟨neg_le_neg mirrored.1, neg_le_neg mirrored.2⟩
  · rw [lever_of_pos pos, lever_of_pos (pos.trans_le larger)]
    apply side_mono config _ pos.le larger
    simp only [decide_eq_true_eq]
    rintro rfl
    rcases isDirection' with rfl | rfl | rfl
    · omega
    · omega
    · rfl

theorem bounded_mono (valid : config.Valid) {effort effort' : ℚ}
    (larger : config.leverSign * effort ≤ config.leverSign * effort') :
    config.bounded effort ≤ config.bounded effort' := by
  unfold bounded
  rw [clamp_eq_max_min valid.min_lt_max.le, clamp_eq_max_min valid.min_lt_max.le]
  exact max_le_max_left _ (min_le_min_right _ larger)

end AxisConfig

/-- The levers of a sequence of efforts and the directions they leave, from a
direction on. -/
def leverPath (config : AxisConfig) : ℤ → List ℚ → List (Double × ℤ)
  | _, [] => []
  | activeDirection, effort :: rest =>
      let answer := compensatedLeverCommand
        (boundedLeverCommand effort config.leverSign config.leverMin config.leverMax)
        config.leverPositiveMin config.leverNegativeMin config.leverStart config.leverStop
        activeDirection
      answer :: leverPath config answer.2 rest

theorem leverPath_cons {config : AxisConfig} (valid : config.Valid) (activeDirection : ℤ)
    (effort : ℚ) (rest : List ℚ) :
    leverPath config activeDirection (effort :: rest) =
      (Double.finite (config.lever (config.bounded effort) activeDirection).1,
        (config.lever (config.bounded effort) activeDirection).2) ::
        leverPath config (config.lever (config.bounded effort) activeDirection).2 rest := by
  have bound : boundedLeverCommand effort config.leverSign config.leverMin config.leverMax =
      Double.finite (config.bounded effort) := boundedLeverCommand_finite ..
  simp only [leverPath, bound, compensatedLeverCommand_eq valid]

/-- **The lever path preserves order over whole runs.**  On an accepted axis, if
every effort of one sequence is at most the other's in the lever's direction, and
so is the direction it starts from, then at every step its lever and the direction
left are at most the other's. -/
theorem leverPath_mono {stod : Stod} {info : HardwareInfo} {P : Parameters} {axis : Axis}
    (loaded : loadHardwareParameters stod info = .ok P) {efforts efforts' : List ℚ}
    (larger : List.Forall₂
      (fun effort effort' =>
        (P.axisConfigs axis).leverSign * effort ≤ (P.axisConfigs axis).leverSign * effort')
      efforts efforts')
    {direction direction' : ℤ} (ahead : direction ≤ direction')
    (isDirection : AxisConfig.IsDirection direction)
    (isDirection' : AxisConfig.IsDirection direction') :
    List.Forall₂ (fun answer answer' => answer.1 ≤ answer'.1 ∧ answer.2 ≤ answer'.2)
      (leverPath (P.axisConfigs axis) direction efforts)
      (leverPath (P.axisConfigs axis) direction' efforts') := by
  have valid := (loadHardwareParameters_valid loaded).axis axis
  induction larger generalizing direction direction' with
  | nil => exact .nil
  | cons first rest ih =>
      rw [leverPath_cons valid, leverPath_cons valid]
      have step := AxisConfig.lever_mono (P.axisConfigs axis)
        (AxisConfig.bounded_mono valid first) ahead isDirection isDirection'
      exact .cons ⟨(Double.finite_le_finite _ _).mpr step.1, step.2⟩
        (ih step.2 (AxisConfig.isDirection_lever _ _) (AxisConfig.isDirection_lever _ _))

/-- The bucket, compensated upward only, under an effort that starts it a step
later than the other. -/
theorem leverPath_mono_bucket :
    List.Forall₂ (fun answer answer' => answer.1 ≤ answer'.1 ∧ answer.2 ≤ answer'.2)
      (leverPath (bucketParameters.axisConfigs 3) (-1) [-4, 3 / 2, 3])
      (leverPath (bucketParameters.axisConfigs 3) 0 [3, 3 / 2, 50]) := by
  have loaded : loadHardwareParameters (fun _ => .ok ((45 : ℚ), 2)) bucketInfo =
      .ok bucketParameters := by decide +kernel
  exact leverPath_mono loaded (.cons (by decide +kernel) (.cons (by decide +kernel)
    (.cons (by decide +kernel) .nil))) (by decide) (.inl rfl) (.inr (.inl rfl))

end Tb20e.Hardware
