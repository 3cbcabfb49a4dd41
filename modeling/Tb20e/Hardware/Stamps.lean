/-
# Hardware.Stamps -- receipt times are consistent under every interleaving

`feedback_callback` reads the clock before it takes the feedback lock, and
`read`, `write` and `on_activate` read it inside the lock, so a sample may be
stored long after its stamp was taken.  What rules out a negative age is that
there is one executor thread: every stored sample was stamped no later than the
`horizon`, which is the stamp that thread holds, or the clock when it holds none.

`Stamped` is the invariant.  The estimator part is about the active hardware
only: `reset_feedback` sets the estimators to the epoch, and `on_activate` gives
each of them the sample it starts from.
-/
import Tb20e.Hardware.Threads

namespace Tb20e.Hardware

set_option autoImplicit false

open Tb20e.Theory Tb20e.Control
open Tb20e.Theory (Double)

/-- No sample that is stored was stamped after this instant. -/
def Machine.horizon (σ : Machine) : Time :=
  match σ.stamped with
  | none => σ.clock
  | some (_, _, stamp) => stamp

/-- What holds of the samples and the estimators, given a horizon. -/
structure StampedAt (horizon : Time) (s : LeverHardware) : Prop where
  stored : ∀ axis, (s.feedback axis).received = true →
    (s.feedback axis).receivedAt ≤ horizon ∧ (s.feedback axis).positionRad.isFinite = true
  estimator : s.active = true → ∀ axis,
    (s.feedbackVelocity axis).stamp ≤ horizon ∧
      (s.feedbackVelocity axis).position.isFinite = true ∧
      ((s.feedback axis).received = true →
        (s.feedbackVelocity axis).stamp ≤ (s.feedback axis).receivedAt)

structure Stamped (σ : Machine) : Prop where
  good : WellFormed σ
  horizon_le : σ.horizon ≤ σ.clock
  finite : ∀ axis position stamp, σ.stamped = some (axis, position, stamp) →
    position.isFinite = true
  hw : StampedAt σ.horizon σ.hw

theorem StampedAt.mono {horizon horizon' : Time} {s : LeverHardware} (h : StampedAt horizon s)
    (later : horizon ≤ horizon') : StampedAt horizon' s where
  stored axis received := ⟨(h.stored axis received).1.trans later, (h.stored axis received).2⟩
  estimator active axis :=
    ⟨(h.estimator active axis).1.trans later, (h.estimator active axis).2⟩

/-- A step that leaves the samples and the estimators alone. -/
theorem StampedAt.of_same {horizon : Time} {s s' : LeverHardware} (h : StampedAt horizon s)
    (active : s'.active = true → s.active = true) (feedback : s'.feedback = s.feedback)
    (velocity : s'.feedbackVelocity = s.feedbackVelocity) : StampedAt horizon s' where
  stored := by rw [feedback]; exact h.stored
  estimator isActive := by rw [feedback, velocity]; exact h.estimator (active isActive)

/-! ## Samples -/

section Samples

variable {horizon : Time} {s : LeverHardware}

theorem StampedAt.invalidate (h : StampedAt horizon s) (throws : ℕ → Bool) (axis : Axis) :
    StampedAt horizon (invalidateFeedback throws axis s) := by
  have cleared : StampedAt horizon
      { s with feedback := Function.update s.feedback axis {} } := by
    constructor
    · intro a received
      by_cases same : a = axis
      · subst same; simp at received
      · simpa [same] using h.stored a (by simpa [same] using received)
    · intro active a
      obtain ⟨past, finite, behind⟩ := h.estimator active a
      refine ⟨past, finite, ?_⟩
      intro received
      by_cases same : a = axis
      · subst same; simp at received
      · simpa [same] using behind (by simpa [same] using received)
  simp only [invalidateFeedback, publishZeroToAllAxesLocked_eq]
  split
  · exact cleared.of_same id rfl rfl
  · exact cleared

/-- Storing a sample that is stamped with the horizon. -/
theorem StampedAt.store (h : StampedAt horizon s) (axis : Axis) {positionRad : Double}
    (finite : positionRad.isFinite = true) :
    StampedAt horizon (storeSample axis positionRad horizon s) := by
  constructor
  · intro a received
    by_cases same : a = axis
    · subst same
      simpa [storeSample] using finite
    · simpa [storeSample, same] using h.stored a (by simpa [storeSample, same] using received)
  · intro active a
    obtain ⟨past, finite, behind⟩ := h.estimator active a
    refine ⟨past, finite, ?_⟩
    intro received
    by_cases same : a = axis
    · subst same
      simpa [storeSample] using past
    · simpa [storeSample, same] using behind (by simpa [storeSample, same] using received)

/-- Activation gives every estimator its sample. -/
theorem StampedAt.activate {P : Parameters} {now : Time} (h : StampedAt horizon s)
    (fresh : allFeedbackIsFreshLocked P now s = true) :
    StampedAt horizon
      { copyFeedbackToStatesLocked s with feedbackFaultLatched := false, active := true } := by
  have received (axis : Axis) : (s.feedback axis).received = true := by
    have := all_axes_iff.mp fresh axis
    simp only [feedbackIsFresh, Bool.and_eq_true] at this
    exact this.1
  constructor
  · exact h.stored
  · intro _ axis
    obtain ⟨past, finite⟩ := h.stored axis (received axis)
    simp [copyFeedbackToStatesLocked, received axis, FeedbackVelocity.reset, past, finite]

end Samples

/-! ## Sections -/

section Sections

variable {P : Parameters} {throws : ℕ → Bool} {horizon now : Time} {c : Control}

theorem readVelocity_holds (P : Parameters) (now : Time) (s : LeverHardware) (axis : Axis) :
    let next := (readVelocity P now s axis).1
    (next.position = (s.feedbackVelocity axis).position ∧
        next.stamp = (s.feedbackVelocity axis).stamp) ∨
      ((s.feedback axis).received = true ∧ next.position = (s.feedback axis).positionRad ∧
        next.stamp = (s.feedback axis).receivedAt) := by
  simp only [readVelocity]
  split
  · rename_i taken
    have received : (s.feedback axis).received = true := by
      simp only [Bool.and_eq_true] at taken
      exact taken.1.1
    exact (FeedbackVelocity.update_holds ..).imp_right fun holds => ⟨received, holds⟩
  · exact .inl ⟨rfl, rfl⟩

/-- `read` moves an estimator at most to the stored sample of its axis. -/
theorem StampedAt.readFeedback (h : StampedAt horizon c.hw) :
    StampedAt horizon (readFeedback P now c).hw := by
  refine ⟨h.stored, ?_⟩
  intro active axis
  obtain ⟨past, finite, behind⟩ := h.estimator active axis
  change (readVelocity P now c.hw axis).1.stamp ≤ horizon ∧
    (readVelocity P now c.hw axis).1.position.isFinite = true ∧
    ((c.hw.feedback axis).received = true →
      (readVelocity P now c.hw axis).1.stamp ≤ (c.hw.feedback axis).receivedAt)
  rcases readVelocity_holds P now c.hw axis with ⟨position, stamp⟩ |
    ⟨received, position, stamp⟩
  · rw [position, stamp]
    exact ⟨past, finite, behind⟩
  · rw [position, stamp]
    obtain ⟨storedPast, storedFinite⟩ := h.stored axis received
    exact ⟨storedPast, storedFinite, fun _ => le_rfl⟩

/-- **Every section keeps the samples and the estimators in order.** -/
theorem StampedAt.exec (h : StampedAt horizon c.hw) (sec : Section)
    (deactivated : sec.deactivated = true → c.hw.active = false) :
    StampedAt horizon (sec.exec P throws now c).hw := by
  cases sec with
  | readFeedback => exact h.readFeedback
  | resetFeedback =>
      exact ⟨fun _ received => by simp [Section.exec, Hardware.resetFeedback] at received,
        fun active => absurd active (by simpa [Section.exec, Hardware.resetFeedback] using deactivated rfl)⟩
  | waitForFeedback =>
      simp only [Section.exec]
      split
      · exact h.activate ‹_›
      · exact h
  | deactivate => exact h.of_same (fun active => by cases active) rfl rfl
  | clearLatch | clearCommands | clearStaleReported | stopExecutor | writeSnapshot =>
      exact h.of_same id rfl rfl
  | publishZeroToAllAxes =>
      simp only [Section.exec, publishZeroToAllAxesLocked_eq]
      exact h.of_same id rfl rfl
  | startExecutor | refuseUnlessReady | latchVelocityFault | writeTest | writePublish =>
      simp only [Section.exec, Hardware.latchVelocityFault, writeTest, writePublish_eq,
        latchFaultAndPublishZero, publishZeroToAllAxesLocked_eq]
      split <;> (try split) <;> exact h.of_same id rfl rfl

end Sections

/-! ## Steps and runs -/

section Run

variable {P : Parameters} {throws : ℕ → Bool} {σ τ : Machine}

theorem horizon_of_free {σ : Machine} (free : σ.stamped = none) : σ.horizon = σ.clock := by
  simp [Machine.horizon, free]

theorem horizon_of_holding {σ : Machine} {axis : Axis} {position : Double} {stamp : Time}
    (holding : σ.stamped = some (axis, position, stamp)) : σ.horizon = stamp := by
  simp [Machine.horizon, holding]

/-- The horizon of a step that leaves the executor thread where it is. -/
theorem horizon_mono {σ τ : Machine} (same : τ.stamped = σ.stamped) (forward : σ.clock ≤ τ.clock)
    (behind : σ.horizon ≤ σ.clock) : σ.horizon ≤ τ.horizon ∧ τ.horizon ≤ τ.clock := by
  cases holding : σ.stamped with
  | none =>
      rw [horizon_of_free holding, horizon_of_free (same.trans holding)]
      exact ⟨forward, le_rfl⟩
  | some sample =>
      obtain ⟨axis, position, stamp⟩ := sample
      rw [horizon_of_holding holding] at behind ⊢
      rw [horizon_of_holding (same.trans holding)]
      exact ⟨le_rfl, behind.trans forward⟩

theorem stamped_step {event : Time × Label} (inv : Stamped σ)
    (taken : step P throws σ event = some τ) : Stamped τ := by
  have good := wellFormed_step inv.good taken
  obtain ⟨forward, τ', moved, rfl⟩ := moved_of_step taken
  generalize event.2 = label at moved
  generalize event.1 = now at forward good moved ⊢
  have kept {ρ : Machine} (good : WellFormed ρ) (same : ρ.stamped = σ.stamped)
      (clock : ρ.clock = now) (hw : StampedAt σ.horizon ρ.hw) : Stamped ρ := by
    obtain ⟨mono, behind⟩ := horizon_mono same (by rw [clock]; exact forward) inv.horizon_le
    exact ⟨good, behind, by rw [same]; exact inv.finite, hw.mono mono⟩
  cases moved with
  | call idle => exact kept good rfl rfl inv.hw
  | @advance sec rest pending joined =>
      exact kept good rfl rfl (inv.hw.exec sec (inv.good.deactivated sec rest pending))
  | assignEffort idle => exact kept good rfl rfl (inv.hw.of_same id rfl rfl)
  | invalidate running free rejected => exact kept good rfl rfl (inv.hw.invalidate throws _)
  | mask running free subscribed => exact kept good rfl rfl (inv.hw.of_same id rfl rfl)
  | @stamp axis message positionRad running free accepted =>
      refine ⟨good, le_rfl, ?_, inv.hw.mono ((horizon_of_free free).trans_le forward)⟩
      intro a position stamp holding
      obtain ⟨degrees, -, rfl⟩ := acceptedPosition_eq_some P accepted
      cases holding
      rfl
  | @store axis positionRad stamp holding =>
      refine ⟨good, le_rfl, fun a position stamp holding => (by cases holding), ?_⟩
      have finite := inv.finite _ _ _ holding
      have hw := inv.hw
      have behind := inv.horizon_le
      rw [horizon_of_holding holding] at hw behind
      exact (hw.store axis finite).mono (behind.trans forward)

theorem stamped_start (P : Parameters) (clock : Time) :
    Stamped (Machine.start clock (initialHardware P)) where
  good := wellFormed_start P clock
  horizon_le := le_rfl
  finite _ _ _ holding := by cases holding
  hw := ⟨fun _ received => (by cases received), fun active => by cases active⟩

/-! ## Reads with the limit check disabled -/

/-- With the limit check disabled an update in order is never a fault. -/
theorem readVelocity_of_unchecked {now : Time} (valid : P.Valid)
    (unchecked : P.feedbackVelocityLimitCheckEnabled = false) (inv : StampedAt σ.horizon σ.hw)
    (axis : Axis) : (readVelocity P now σ.hw axis).2 = false := by
  simp only [readVelocity]
  split
  · rename_i taken
    simp only [Bool.and_eq_true] at taken
    obtain ⟨⟨received, active⟩, -⟩ := taken
    obtain ⟨-, held, behind⟩ := inv.estimator active axis
    obtain ⟨-, stored⟩ := inv.stored axis received
    obtain ⟨position, samplePosition⟩ := Double.isFinite_iff.mp stored
    obtain ⟨before, heldPosition⟩ := Double.isFinite_iff.mp held
    rw [unchecked, samplePosition]
    rcases (behind received).eq_or_lt with same | later
    · rw [← same, FeedbackVelocity.update_same_stamp]
    · rw [FeedbackVelocity.update_of_unchecked heldPosition later valid.maxVelocity_pos
        valid.jitter_nonneg]
  · rfl

/-- Only `read` writes the fault flags of a call. -/
theorem exec_velocityFault {now : Time} {sec : Section} {c : Control} (notRead : sec ≠ .readFeedback) :
    (sec.exec P throws now c).locals.velocityFault = c.locals.velocityFault := by
  cases sec with
  | readFeedback => exact absurd rfl notRead
  | startExecutor | refuseUnlessReady | latchVelocityFault | waitForFeedback | writePublish =>
      simp only [Section.exec, latchVelocityFault, writePublish_eq]
      split <;> (try split) <;> rfl
  | _ => rfl

/-- No `read` has found a fault. -/
structure Unfaulted (σ : Machine) : Prop where
  stamped : Stamped σ
  none_faulty : ∀ axis, σ.locals.velocityFault axis = false

theorem unfaulted_step {event : Time × Label} (valid : P.Valid)
    (unchecked : P.feedbackVelocityLimitCheckEnabled = false) (inv : Unfaulted σ)
    (taken : step P throws σ event = some τ) : Unfaulted τ := by
  refine ⟨stamped_step inv.stamped taken, ?_⟩
  intro axis
  obtain ⟨-, τ', moved, rfl⟩ := moved_of_step taken
  generalize event.2 = label at moved
  cases moved with
  | call idle => rfl
  | @advance sec rest pending joined =>
      by_cases reads : sec = .readFeedback
      · subst reads
        exact readVelocity_of_unchecked valid unchecked inv.stamped.hw axis
      · exact (congrFun (exec_velocityFault reads) axis).trans (inv.none_faulty axis)
  | assignEffort | invalidate | stamp | mask | store => exact inv.none_faulty axis

/-- **Feedback time stamps are consistent.**  In every state that an
interleaving of the two threads reaches after a successful `on_init`, and at
every later clock reading, no stored sample has a negative age; while the
hardware is active no estimator holds a later stamp than the sample `read` would
give it; and with the velocity check disabled `read` finds no fault and its
latching section changes nothing. -/
theorem feedback_stamps_consistent {stod : Stod} {baseOk : Bool} {info : HardwareInfo}
    {indices : List Axis} {hw : LeverHardware} {clock now : Time} {events : List (Time × Label)}
    (init : onInit stod baseOk info = .ok (P, indices, hw))
    (reached : runs (step P throws) (Machine.start clock hw) events = some σ)
    (forward : σ.clock ≤ now) (axis : Axis) :
    ((σ.hw.feedback axis).received = true → 0 ≤ now - (σ.hw.feedback axis).receivedAt) ∧
    ((σ.hw.feedback axis).received = true → σ.hw.active = true →
      (σ.hw.feedbackVelocity axis).stamp ≤ (σ.hw.feedback axis).receivedAt) ∧
    (P.feedbackVelocityLimitCheckEnabled = false →
      (readVelocity P now σ.hw axis).2 = false ∧
        latchVelocityFault throws σ.control = σ.control) := by
  obtain ⟨loaded, -, rfl⟩ := onInit_eq_ok init
  have inv : Stamped σ := runs_invariant (fun _ _ _ inv taken => stamped_step inv taken) reached
    (stamped_start P clock)
  refine ⟨?_, fun received active => (inv.hw.estimator active axis).2.2 received, ?_⟩
  · intro received
    have past := (inv.hw.stored axis received).1
    have behind := inv.horizon_le
    exact sub_nonneg.mpr (past.trans (behind.trans forward))
  · intro unchecked
    have valid := loadHardwareParameters_valid loaded
    have unfaulted : Unfaulted σ := runs_invariant
      (fun _ _ _ inv taken => unfaulted_step valid unchecked inv taken) reached
      ⟨stamped_start P clock, fun _ => rfl⟩
    refine ⟨readVelocity_of_unchecked valid unchecked inv.hw axis, ?_⟩
    have quiet : axes.any σ.locals.velocityFault = false := by
      rw [Bool.eq_false_iff]
      intro any
      obtain ⟨faulty, isFaulty⟩ := any_axes_iff.mp any
      rw [unfaulted.none_faulty faulty] at isFaulty
      cases isFaulty
    simp [latchVelocityFault, quiet]

/-- A sample that is stamped before a `read` and stored after it. -/
theorem feedback_stamps_consistent_late_store :
    ∃ σ, runs (step defaultParameters fun _ => false)
        (Machine.start 0 (initialHardware defaultParameters))
        (activation ++ [(1 / 100, .deliver (.feedback 1 (some 1))), (2 / 100, .call .read),
          (2 / 100, .advance), (2 / 100, .advance), (3 / 100, .store)]) = some σ ∧
      0 ≤ 4 / 100 - (σ.hw.feedback 1).receivedAt ∧
      (σ.hw.feedbackVelocity 1).stamp ≤ (σ.hw.feedback 1).receivedAt ∧
      (readVelocity defaultParameters (4 / 100) σ.hw 1).2 = false ∧
      latchVelocityFault (fun _ => false) σ.control = σ.control := by
  obtain ⟨σ, reached, received, active, forward⟩ :
      ∃ σ ∈ runs (step defaultParameters fun _ => false)
          (Machine.start 0 (initialHardware defaultParameters))
          (activation ++ [(1 / 100, .deliver (.feedback 1 (some 1))), (2 / 100, .call .read),
            (2 / 100, .advance), (2 / 100, .advance), (3 / 100, .store)]),
        (σ.hw.feedback 1).received = true ∧ σ.hw.active = true ∧ σ.clock ≤ 4 / 100 := by
    decide +kernel
  obtain ⟨age, inOrder, quiet⟩ := feedback_stamps_consistent (onInit_unset fun _ => .ok (.nan, 0))
    reached forward 1
  exact ⟨σ, reached, age received, inOrder received active, quiet rfl⟩

end Run

end Tb20e.Hardware
