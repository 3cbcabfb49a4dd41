/-
# Hardware.VelocityStates -- where a velocity state comes from

A velocity state is what `read` found between two samples.  Samples are stamped by one
thread and stored later, invalidated, skipped when several arrive between two reads, and
reset by the lifecycle calls; still every velocity state is zero or the movement between
two messages that were accepted on its axis, over the time between their receipts
(`velocity_states_measured`).  With the limit check enabled that movement is within what
the limit allows for the time and the receipt jitter.

`Sourced` says for every place where a sample may be which message it came from.
-/
import Tb20e.Hardware.VelocityMonitor

namespace Tb20e.Hardware

set_option autoImplicit false

open Tb20e.Theory Tb20e.Control
open Tb20e.Theory (Double)

section Measured

variable (P : Parameters) (past : List (Time × Label)) (axis : Axis)

/-- An angle in degrees was accepted on the axis at an instant. -/
def Accepted (degrees : ℚ) (stamp : Time) : Prop :=
  (stamp, .deliver (.feedback axis (some (Double.finite degrees)))) ∈ past ∧
    acceptedPosition P axis (some (Double.finite degrees)) =
      some (Double.finite (storedPosition P axis degrees))

/-- The movement between two positions stored for the axis. -/
def storedMovement (later earlier : ℚ) : ℚ :=
  movement (P.axisConfigs axis).continuous (storedPosition P axis later)
    (storedPosition P axis earlier)

/-- A velocity is zero, or was measured between two accepted messages. -/
def Measured (velocity : Double) : Prop :=
  velocity = 0 ∨ ∃ earlier first later second,
    Accepted P past axis earlier first ∧ Accepted P past axis later second ∧ first < second ∧
      velocity = Double.finite (storedMovement P axis later earlier / (second - first)) ∧
      (P.feedbackVelocityLimitCheckEnabled = true →
        |storedMovement P axis later earlier| ≤
          P.maxFeedbackVelocityRadS * (second - first + P.feedbackVelocityJitterToleranceSec))

/-- An estimator holds an accepted sample. -/
def HoldsAccepted (estimator : FeedbackVelocity) : Prop :=
  (∃ degrees, Accepted P past axis degrees estimator.stamp ∧
    estimator.position = Double.finite (storedPosition P axis degrees)) ∧
  ∃ excess : ℚ, estimator.excessDistance = Double.finite excess ∧ 0 ≤ excess

end Measured

section Mono

variable {P : Parameters} {past past' : List (Time × Label)} {axis : Axis}

theorem Accepted.mono {degrees : ℚ} {stamp : Time} (accepted : Accepted P past axis degrees stamp)
    (grows : past ⊆ past') : Accepted P past' axis degrees stamp :=
  ⟨grows accepted.1, accepted.2⟩

theorem Measured.mono {velocity : Double} (measured : Measured P past axis velocity)
    (grows : past ⊆ past') : Measured P past' axis velocity := by
  rcases measured with zero | ⟨earlier, first, later, second, before, after, rest⟩
  · exact .inl zero
  · exact .inr ⟨earlier, first, later, second, before.mono grows, after.mono grows, rest⟩

theorem HoldsAccepted.mono {estimator : FeedbackVelocity}
    (holds : HoldsAccepted P past axis estimator) (grows : past ⊆ past') :
    HoldsAccepted P past' axis estimator := by
  obtain ⟨⟨degrees, accepted, position⟩, excess⟩ := holds
  exact ⟨⟨degrees, accepted.mono grows, position⟩, excess⟩

end Mono

/-! ## One update of an estimator -/

section Update

variable {P : Parameters} {past : List (Time × Label)} {axis : Axis} {estimator : FeedbackVelocity}

/-- **An update of an accepted sample**: the estimator holds an accepted sample after it,
and what it has measured is between the sample it held and the one it was given. -/
theorem measured_update (valid : P.Valid) (holds : HoldsAccepted P past axis estimator)
    (measured : Measured P past axis estimator.velocity) {degrees : ℚ} {stamp : Time}
    (accepted : Accepted P past axis degrees stamp) (later : estimator.stamp ≤ stamp) :
    let next := (estimator.update (Double.finite (storedPosition P axis degrees)) stamp
      (P.axisConfigs axis).continuous P.maxFeedbackVelocityRadS
      P.feedbackVelocityJitterToleranceSec P.feedbackVelocityLimitCheckEnabled).1
    HoldsAccepted P past axis next ∧ Measured P past axis next.velocity := by
  obtain ⟨⟨before, sample, position⟩, excess, carries, nonneg⟩ := id holds
  rcases later.eq_or_lt with same | later
  · rw [← same, FeedbackVelocity.update_same_stamp]
    exact ⟨holds, measured⟩
  have moved (bounded : P.feedbackVelocityLimitCheckEnabled = true →
      |storedMovement P axis degrees before| ≤ P.maxFeedbackVelocityRadS *
        (stamp - estimator.stamp + P.feedbackVelocityJitterToleranceSec)) :
      Measured P past axis
        (Double.finite (storedMovement P axis degrees before / (stamp - estimator.stamp))) :=
    .inr ⟨before, estimator.stamp, degrees, stamp, sample, accepted, later, rfl, bounded⟩
  cases check : P.feedbackVelocityLimitCheckEnabled with
  | false =>
      rw [FeedbackVelocity.update_of_unchecked position later valid.maxVelocity_pos
        valid.jitter_nonneg]
      exact ⟨⟨⟨degrees, accepted, rfl⟩, 0, rfl, le_rfl⟩,
        moved fun checked => by rw [check] at checked; cases checked⟩
  | true =>
      rw [FeedbackVelocity.update_of_checked position carries later valid.maxVelocity_pos
        valid.jitter_nonneg]
      refine ⟨⟨⟨degrees, accepted, rfl⟩, _, rfl, le_max_left _ _⟩, ?_⟩
      dsimp only
      split
      · exact .inl rfl
      · next within =>
          refine moved fun _ => ?_
          -- The excess carried from before only makes the fault more likely.
          have spent := (le_max_right _ _).trans (not_lt.mp within)
          unfold storedMovement
          linarith

end Update

/-! ## The machine -/

/-- Where the samples, the estimators and the velocity states come from. -/
structure SourcedAt (P : Parameters) (past : List (Time × Label)) (s : LeverHardware) : Prop where
  stored : ∀ axis, (s.feedback axis).received = true → ∃ degrees,
    Accepted P past axis degrees (s.feedback axis).receivedAt ∧
      (s.feedback axis).positionRad = Double.finite (storedPosition P axis degrees)
  held : s.active = true → ∀ axis, HoldsAccepted P past axis (s.feedbackVelocity axis)
  estimated : ∀ axis, Measured P past axis (s.feedbackVelocity axis).velocity
  shown : ∀ axis, Measured P past axis (s.velocityStates axis)

structure Sourced (P : Parameters) (past : List (Time × Label)) (σ : Machine) : Prop where
  stamped : Stamped σ
  holding : ∀ axis position stamp, σ.stamped = some (axis, position, stamp) → ∃ degrees,
    Accepted P past axis degrees stamp ∧ position = Double.finite (storedPosition P axis degrees)
  hw : SourcedAt P past σ.hw

section SourcedAt

variable {P : Parameters} {throws : ℕ → Bool} {past : List (Time × Label)} {now : Time}
  {s s' : LeverHardware} {c : Control}

theorem SourcedAt.mono {past' : List (Time × Label)} (h : SourcedAt P past s)
    (grows : past ⊆ past') : SourcedAt P past' s where
  stored axis received := by
    obtain ⟨degrees, accepted, position⟩ := h.stored axis received
    exact ⟨degrees, accepted.mono grows, position⟩
  held active axis := (h.held active axis).mono grows
  estimated axis := (h.estimated axis).mono grows
  shown axis := (h.shown axis).mono grows

theorem SourcedAt.of_same (h : SourcedAt P past s) (active : s'.active = true → s.active = true)
    (feedback : s'.feedback = s.feedback) (velocity : s'.feedbackVelocity = s.feedbackVelocity)
    (velocities : s'.velocityStates = s.velocityStates) : SourcedAt P past s' where
  stored := by rw [feedback]; exact h.stored
  held isActive := by rw [velocity]; exact h.held (active isActive)
  estimated := by rw [velocity]; exact h.estimated
  shown := by rw [velocities]; exact h.shown

theorem SourcedAt.invalidate (h : SourcedAt P past s) (throws : ℕ → Bool) (axis : Axis) :
    SourcedAt P past (invalidateFeedback throws axis s) := by
  have cleared : SourcedAt P past { s with feedback := Function.update s.feedback axis {} } := by
    refine ⟨?_, h.held, h.estimated, h.shown⟩
    intro a received
    by_cases same : a = axis
    · subst same
      simp at received
    · simpa [same] using h.stored a (by simpa [same] using received)
  simp only [invalidateFeedback, publishZeroToAllAxesLocked_eq]
  split
  · exact cleared.of_same id rfl rfl rfl
  · exact cleared

theorem SourcedAt.store (h : SourcedAt P past s) {axis : Axis} {degrees : ℚ} {stamp : Time}
    (accepted : Accepted P past axis degrees stamp) :
    SourcedAt P past
      (storeSample axis (Double.finite (storedPosition P axis degrees)) stamp s) := by
  refine ⟨?_, h.held, h.estimated, h.shown⟩
  intro a received
  by_cases same : a = axis
  · subst same
    exact ⟨degrees, by simpa [storeSample] using accepted, by simp [storeSample]⟩
  · simpa [storeSample, same] using h.stored a (by simpa [storeSample, same] using received)

/-- Activation gives every estimator its sample. -/
theorem SourcedAt.activate (h : SourcedAt P past s)
    (fresh : allFeedbackIsFreshLocked P now s = true) :
    SourcedAt P past
      { copyFeedbackToStatesLocked s with feedbackFaultLatched := false, active := true } := by
  have received (axis : Axis) : (s.feedback axis).received = true := by
    have := all_axes_iff.mp fresh axis
    simp only [feedbackIsFresh, Bool.and_eq_true] at this
    exact this.1
  refine ⟨h.stored, ?_, ?_, ?_⟩
  · intro _ axis
    obtain ⟨degrees, accepted, position⟩ := h.stored axis (received axis)
    simp only [copyFeedbackToStatesLocked, received axis, if_true]
    exact ⟨⟨degrees, accepted, position⟩, 0, rfl, le_rfl⟩
  · intro axis
    simp only [copyFeedbackToStatesLocked, received axis, if_true]
    exact .inl rfl
  · intro axis
    simp only [copyFeedbackToStatesLocked, received axis, if_true]
    exact .inl rfl

/-- `read` measures between the sample an estimator holds and the one stored. -/
theorem SourcedAt.readFeedback {horizon : Time} (valid : P.Valid) (h : SourcedAt P past c.hw)
    (stamps : StampedAt horizon c.hw) : SourcedAt P past (readFeedback P now c).hw := by
  have read (axis : Axis) :
      (c.hw.active = true → HoldsAccepted P past axis (readVelocity P now c.hw axis).1) ∧
        Measured P past axis (readVelocity P now c.hw axis).1.velocity := by
    simp only [readVelocity]
    split
    · next taken =>
        simp only [Bool.and_eq_true] at taken
        obtain ⟨⟨received, active⟩, -⟩ := taken
        obtain ⟨degrees, accepted, position⟩ := h.stored axis received
        rw [position]
        have updated := measured_update valid (h.held active axis) (h.estimated axis) accepted
          ((stamps.estimator active axis).2.2 received)
        exact ⟨fun _ => updated.1, updated.2⟩
    · exact ⟨fun active => h.held active axis, h.estimated axis⟩
  refine ⟨h.stored, fun active axis => (read axis).1 active, fun axis => (read axis).2, ?_⟩
  intro axis
  simp only [Hardware.readFeedback]
  split
  · exact (read axis).2
  · exact .inl rfl

theorem SourcedAt.exec {horizon : Time} (valid : P.Valid) (h : SourcedAt P past c.hw)
    (stamps : StampedAt horizon c.hw) (sec : Section)
    (deactivated : sec.deactivated = true → c.hw.active = false) :
    SourcedAt P past (sec.exec P throws now c).hw := by
  cases sec with
  | readFeedback => exact h.readFeedback valid stamps
  | resetFeedback =>
      have inactive : c.hw.active = false := deactivated rfl
      exact ⟨fun _ received => by simp [Section.exec, Hardware.resetFeedback] at received,
        fun active => absurd active (by simpa [Section.exec, Hardware.resetFeedback] using inactive),
        fun _ => .inl rfl, fun _ => .inl rfl⟩
  | waitForFeedback =>
      simp only [Section.exec]
      split
      · exact h.activate ‹_›
      · exact h
  | deactivate => exact h.of_same (fun active => by cases active) rfl rfl rfl
  | clearLatch | clearCommands | clearStaleReported | stopExecutor | writeSnapshot =>
      exact h.of_same id rfl rfl rfl
  | publishZeroToAllAxes =>
      simp only [Section.exec, publishZeroToAllAxesLocked_eq]
      exact h.of_same id rfl rfl rfl
  | startExecutor | refuseUnlessReady | latchVelocityFault | writeTest | writePublish =>
      simp only [Section.exec, Hardware.latchVelocityFault, writeTest, writePublish_eq,
        latchFaultAndPublishZero, publishZeroToAllAxesLocked_eq]
      split <;> (try split) <;> exact h.of_same id rfl rfl rfl

end SourcedAt

/-! ## Steps and runs -/

section Run

variable {P : Parameters} {throws : ℕ → Bool} {past : List (Time × Label)} {σ τ : Machine}
  {event : Time × Label}

theorem sourced_step (valid : P.Valid) (inv : Sourced P past σ)
    (taken : step P throws σ event = some τ) : Sourced P (past ++ [event]) τ := by
  have stamped := stamped_step inv.stamped taken
  obtain ⟨now, label⟩ := event
  have grows : past ⊆ past ++ [(now, label)] := List.subset_append_left ..
  have holding (axis : Axis) (position : Double) (stamp : Time)
      (holds : σ.stamped = some (axis, position, stamp)) : ∃ degrees,
      Accepted P (past ++ [(now, label)]) axis degrees stamp ∧
        position = Double.finite (storedPosition P axis degrees) := by
    obtain ⟨degrees, accepted, same⟩ := inv.holding axis position stamp holds
    exact ⟨degrees, accepted.mono grows, same⟩
  have hw := inv.hw.mono grows
  obtain ⟨-, τ', moved, rfl⟩ := moved_of_step taken
  cases moved with
  | call => exact ⟨stamped, holding, hw⟩
  | @advance sec rest pending =>
      exact ⟨stamped, holding, hw.exec valid inv.stamped.hw sec
        (inv.stamped.good.deactivated sec rest pending)⟩
  | assignEffort | mask => exact ⟨stamped, holding, hw.of_same id rfl rfl rfl⟩
  | invalidate => exact ⟨stamped, holding, hw.invalidate throws _⟩
  | @stamp axis message positionRad running free accepted =>
      refine ⟨stamped, ?_, hw⟩
      intro a position stamp holds
      obtain ⟨degrees, rfl, rfl⟩ := acceptedPosition_eq_some P accepted
      cases holds
      exact ⟨degrees, ⟨by simp, accepted⟩, rfl⟩
  | @store axis positionRad stamp holds =>
      refine ⟨stamped, fun _ _ _ empty => (by cases empty), ?_⟩
      obtain ⟨degrees, accepted, rfl⟩ := holding axis positionRad stamp holds
      exact hw.store accepted

theorem sourced_start (P : Parameters) (clock : Time) :
    Sourced P [] (Machine.start clock (initialHardware P)) where
  stamped := stamped_start P clock
  holding _ _ _ holds := by cases holds
  hw := ⟨fun _ received => (by cases received), fun active => (by cases active),
    fun _ => .inl rfl, fun _ => .inl rfl⟩

/-- **Velocity states are measured.**  In every state that an interleaving of the two
threads reaches after a successful `on_init`, the velocity state of an axis is zero, or the
movement between two messages accepted on that axis, the shorter way round for the swing,
over the time from the receipt of the one to that of the other; with the limit check
enabled the movement is within the limit for that time and the receipt jitter. -/
theorem velocity_states_measured {stod : Stod} {baseOk : Bool} {info : HardwareInfo}
    {indices : List Axis} {hw : LeverHardware}
    (init : onInit stod baseOk info = .ok (P, indices, hw)) {clock : Time}
    {events : List (Time × Label)}
    (run : runs (step P throws) (Machine.start clock hw) events = some σ) (axis : Axis) :
    Measured P events axis (σ.hw.velocityStates axis) := by
  obtain ⟨loaded, -, rfl⟩ := onInit_eq_ok init
  have valid := loadHardwareParameters_valid loaded
  exact (runs_history_invariant (fun _ _ _ _ => sourced_step valid) [] run
    (sourced_start P clock)).hw.shown axis

/-- The hardware is activated, then the swing turns by nine degrees within fifty
milliseconds, and a read comes after that. -/
def activateAndTurn : List (Time × Label) :=
  activation ++ [(1 / 20, .deliver (.feedback 0 (some (9 : ℚ)))), (1 / 20, .store),
    (1 / 20, .call .read), (1 / 20, .advance)]

theorem velocity_states_measured_turn :
    ∃ σ, runs (step checkedParameters fun _ => false)
        (Machine.start 0 (initialHardware checkedParameters)) activateAndTurn = some σ ∧
      σ.hw.velocityStates 0 = Double.finite (9 * kDegreesToRadians / (1 / 20)) ∧
      Measured checkedParameters activateAndTurn 0 (σ.hw.velocityStates 0) := by
  obtain ⟨σ, run, turned⟩ : ∃ σ ∈ runs (step checkedParameters fun _ => false)
      (Machine.start 0 (initialHardware checkedParameters)) activateAndTurn,
      σ.hw.velocityStates 0 = Double.finite (9 * kDegreesToRadians / (1 / 20)) := by
    decide +kernel
  exact ⟨σ, run, turned, velocity_states_measured onInit_checkedInfo run 0⟩

end Run

end Tb20e.Hardware
