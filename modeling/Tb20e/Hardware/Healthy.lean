/-
# Hardware.Healthy -- a healthy machine is never stopped

`Hardware.FaultLatch` says that a fault stops every lever; this module says what never is
a fault.  A machine is healthy (`Healthy`) while no joint moves faster than the limit, every
message is accepted and true of some earlier instant, the messages of an axis come in the
order in which they were measured, and their delay varies by no more than the receipt
jitter that is allowed for.  If besides every axis has been heard within the state timeout
before each write (`Attended`) and efforts are finite, then no interleaving of the two threads sets
the latch, whatever samples a read skips and however late a sample is stored
(`healthy_never_latches`).  So every write of the active hardware obeys: an axis that nothing
else closes is sent the lever of its effort.

The excess of an estimator is bounded by what the limit allows for the part of the jitter
that the delay of its sample leaves (`Calm`): a late message makes the next one look fast, but
by no more than it was late.
-/
import Mathlib.Tactic.LinearCombination
import Tb20e.Hardware.DeadBand
import Tb20e.Hardware.Hearing
import Tb20e.Hardware.VelocityStates

namespace Tb20e.Hardware

set_option autoImplicit false

open Tb20e.Theory Tb20e.Control
open Tb20e.Theory (Double)

/-! ## The machine that is watched -/

/-- How the joints move, and when the angle that a message carries was measured. -/
structure Motion where
  /-- The angle of a joint in degrees; that of the swing is not wrapped. -/
  angle : Axis → Time → ℚ
  /-- By the angle in the message and the instant of its receipt. -/
  measuredAt : Axis → ℚ → Time → Time
  /-- The shortest delay of the messages of an axis. -/
  delay : Axis → ℚ

/-- A message that is accepted, or an effort that is finite. -/
def Label.harmless (P : Parameters) : Label → Bool
  | .deliver (.feedback axis message) => (acceptedPosition P axis message).isSome
  | .assignEffort _ value => value.isFinite
  | _ => true

/-- The joints keep to the speed limit, and the messages of a run tell the motion. -/
structure Healthy (P : Parameters) (motion : Motion) (events : List (Time × Label)) : Prop where
  slow : ∀ axis {first second}, first ≤ second →
    |motion.angle axis second - motion.angle axis first| * kDegreesToRadians ≤
      P.maxFeedbackVelocityRadS * (second - first)
  harmless : ∀ event ∈ events, event.2.harmless P = true
  truthful : ∀ {axis degrees stamp}, Accepted P events axis degrees stamp → ∃ turns : ℤ,
    degrees = motion.angle axis (motion.measuredAt axis degrees stamp) + turns * 360 ∧
      ((P.axisConfigs axis).continuous = false → turns = 0)
  prompt : ∀ {axis degrees stamp}, Accepted P events axis degrees stamp →
    motion.delay axis ≤ stamp - motion.measuredAt axis degrees stamp ∧
      stamp - motion.measuredAt axis degrees stamp ≤
        motion.delay axis + P.feedbackVelocityJitterToleranceSec
  inOrder : ∀ {axis earlier first later second}, Accepted P events axis earlier first →
    Accepted P events axis later second → first < second →
      motion.measuredAt axis earlier first ≤ motion.measuredAt axis later second

/-- Whenever an active hardware begins a write, every axis has been heard within the timeout. -/
def Attended (P : Parameters) (throws : ℕ → Bool) (start : Machine) (events : List (Time × Label)) :
    Prop :=
  ∀ past now rest σ, events = past ++ (now, .advance) :: rest →
    runs (step P throws) start past = some σ → σ.hw.active = true →
      σ.pending.head? = some .writeSnapshot → ∀ axis, HeardSince past axis (now - P.stateTimeoutSec)

/-- It is enough to look at every prefix of the run. -/
theorem attended_of_prefixes {P : Parameters} {throws : ℕ → Bool} {start : Machine}
    {events : List (Time × Label)}
    (heard : ∀ n < events.length, ∀ event ∈ events[n]?,
      ∀ σ ∈ runs (step P throws) start (events.take n), σ.hw.active = true →
        σ.pending.head? = some .writeSnapshot →
          ∀ axis, HeardSince (events.take n) axis (event.1 - P.stateTimeoutSec)) :
    Attended P throws start events := by
  intro past now rest σ split run active left axis
  have upTo : events.take past.length = past := by simp [split]
  have heard := heard past.length (by simp [split]) (now, .advance) (by simp [split]) σ
    (by rw [upTo]; exact run) active left axis
  rwa [upTo] at heard

/-! ## Movements of stored positions -/

section Movement

variable {P : Parameters} {axis : Axis}

/-- **A stored movement** is no longer than that of the joint, whole turns apart. -/
theorem abs_storedMovement_le (valid : P.Valid) {later earlier : ℚ} {m n : ℤ}
    (finiteJoint : (P.axisConfigs axis).continuous = false → m = 0 ∧ n = 0) :
    |storedMovement P axis (later + m * 360) (earlier + n * 360)| ≤
      |later - earlier| * kDegreesToRadians := by
  have scaled : |later - earlier| * kDegreesToRadians =
      |later * kDegreesToRadians - earlier * kDegreesToRadians| := by
    rw [← sub_mul, abs_mul, abs_of_pos kDegreesToRadians_pos]
  rw [scaled]
  cases kind : (P.axisConfigs axis).continuous with
  | true =>
      simp only [storedMovement, movement, storedPosition, kind, if_true]
      obtain ⟨i, first⟩ := remainder_add_int_mul_eq ((later + m * 360) * kDegreesToRadians) kTwoPi
      obtain ⟨j, second⟩ := remainder_add_int_mul_eq ((earlier + n * 360) * kDegreesToRadians) kTwoPi
      have turn : 360 * kDegreesToRadians = kTwoPi := by
        unfold kDegreesToRadians kTwoPi
        ring
      have back : later * kDegreesToRadians - earlier * kDegreesToRadians =
          remainder ((later + m * 360) * kDegreesToRadians) kTwoPi -
            remainder ((earlier + n * 360) * kDegreesToRadians) kTwoPi +
              (i - j - m + n : ℤ) * kTwoPi := by
        push_cast
        linear_combination first - second - (m - n) * turn
      rw [back]
      exact abs_remainder_le_abs_add kTwoPi_pos _ _
  | false =>
      obtain ⟨rfl, rfl⟩ := finiteJoint kind
      simp only [storedMovement, movement, storedPosition, kind, Bool.false_eq_true, if_false,
        Int.cast_zero, zero_mul, add_zero]
      exact abs_clamp_sub_clamp_le ((valid.axis axis).position_lt kind).le _ _

end Movement

/-! ## One update of an estimator -/

section Update

variable {P : Parameters} {motion : Motion} {events : List (Time × Label)} {axis : Axis}
  {estimator : FeedbackVelocity}

/-- An estimator holds an accepted sample, with no more excess than the limit allows for
what the delay of that sample leaves of the longest delay. -/
def Calm (P : Parameters) (motion : Motion) (events : List (Time × Label)) (axis : Axis)
    (estimator : FeedbackVelocity) : Prop :=
  ∃ degrees, Accepted P events axis degrees estimator.stamp ∧
    estimator.position = Double.finite (storedPosition P axis degrees) ∧
      ∃ excess : ℚ, estimator.excessDistance = Double.finite excess ∧
        excess ≤ P.maxFeedbackVelocityRadS *
          (motion.delay axis + P.feedbackVelocityJitterToleranceSec -
            (estimator.stamp - motion.measuredAt axis degrees estimator.stamp))

/-- Between two messages in order the stored position moves no further than the limit
allows for the time between the measurements. -/
theorem Healthy.storedMovement_le (healthy : Healthy P motion events) (valid : P.Valid)
    {earlier later : ℚ} {first second : Time} (before : Accepted P events axis earlier first)
    (after : Accepted P events axis later second) (ordered : first < second) :
    |storedMovement P axis later earlier| ≤ P.maxFeedbackVelocityRadS *
      (motion.measuredAt axis later second - motion.measuredAt axis earlier first) := by
  obtain ⟨n, told, wholeEarlier⟩ := healthy.truthful before
  obtain ⟨m, told', wholeLater⟩ := healthy.truthful after
  have moved := @abs_storedMovement_le P axis valid
    (motion.angle axis (motion.measuredAt axis later second))
    (motion.angle axis (motion.measuredAt axis earlier first)) m n
    fun finiteJoint => ⟨wholeLater finiteJoint, wholeEarlier finiteJoint⟩
  rw [← told, ← told'] at moved
  exact moved.trans (healthy.slow axis (healthy.inOrder before after ordered))

/-- An estimator that starts from an accepted sample has no excess. -/
theorem Healthy.calm_reset (healthy : Healthy P motion events) (valid : P.Valid) {degrees : ℚ}
    {stamp : Time} (accepted : Accepted P events axis degrees stamp) :
    Calm P motion events axis
      (FeedbackVelocity.reset (Double.finite (storedPosition P axis degrees)) stamp) := by
  refine ⟨degrees, accepted, rfl, 0, rfl, ?_⟩
  have late := (healthy.prompt accepted).2
  exact mul_nonneg valid.maxVelocity_pos.le (sub_nonneg.mpr late)

/-- **An update of a healthy sample** is no fault and leaves the estimator calm: the time
that the delay of the sample gives back pays for what its movement adds. -/
theorem Healthy.calm_update (healthy : Healthy P motion events) (valid : P.Valid)
    (calm : Calm P motion events axis estimator) {degrees : ℚ} {stamp : Time}
    (accepted : Accepted P events axis degrees stamp) (later : estimator.stamp ≤ stamp) :
    let next := estimator.update (Double.finite (storedPosition P axis degrees)) stamp
      (P.axisConfigs axis).continuous P.maxFeedbackVelocityRadS
      P.feedbackVelocityJitterToleranceSec P.feedbackVelocityLimitCheckEnabled
    Calm P motion events axis next.1 ∧ next.2 = false := by
  obtain ⟨before, held, position, excess, carries, bounded⟩ := id calm
  rcases later.eq_or_lt with same | later
  · rw [← same, FeedbackVelocity.update_same_stamp]
    exact ⟨calm, rfl⟩
  have prompt := healthy.prompt accepted
  -- What the limit allows for the rest of the jitter, after this sample.
  have spare : 0 ≤ P.maxFeedbackVelocityRadS *
      (motion.delay axis + P.feedbackVelocityJitterToleranceSec -
        (stamp - motion.measuredAt axis degrees stamp)) :=
    mul_nonneg valid.maxVelocity_pos.le (sub_nonneg.mpr prompt.2)
  cases check : P.feedbackVelocityLimitCheckEnabled with
  | false =>
      rw [FeedbackVelocity.update_of_unchecked position later valid.maxVelocity_pos
        valid.jitter_nonneg]
      exact ⟨⟨degrees, accepted, rfl, 0, rfl, spare⟩, rfl⟩
  | true =>
      rw [FeedbackVelocity.update_of_checked position carries later valid.maxVelocity_pos
        valid.jitter_nonneg]
      have moved : |movement (P.axisConfigs axis).continuous (storedPosition P axis degrees)
          (storedPosition P axis before)| ≤ P.maxFeedbackVelocityRadS *
            (motion.measuredAt axis degrees stamp - motion.measuredAt axis before estimator.stamp) :=
        healthy.storedMovement_le valid held accepted later
      have after : max 0 (excess + (|movement (P.axisConfigs axis).continuous
          (storedPosition P axis degrees) (storedPosition P axis before)| -
            P.maxFeedbackVelocityRadS * (stamp - estimator.stamp))) ≤ P.maxFeedbackVelocityRadS *
          (motion.delay axis + P.feedbackVelocityJitterToleranceSec -
            (stamp - motion.measuredAt axis degrees stamp)) :=
        max_le spare (by linarith)
      have within : P.maxFeedbackVelocityRadS *
          (motion.delay axis + P.feedbackVelocityJitterToleranceSec -
            (stamp - motion.measuredAt axis degrees stamp)) ≤
          P.maxFeedbackVelocityRadS * P.feedbackVelocityJitterToleranceSec :=
        mul_le_mul_of_nonneg_left (by linarith [prompt.1]) valid.maxVelocity_pos.le
      exact ⟨⟨degrees, accepted, rfl, _, rfl, after⟩, decide_eq_false (not_lt.mpr (after.trans within))⟩

end Update

/-! ## Samples are recent -/

/-- The sample of the axis, if there is one, is at least as recent as the instant. -/
def Recent (axis : Axis) (received : Time) (s : LeverHardware) : Prop :=
  (s.feedback axis).received = true → received ≤ (s.feedback axis).receivedAt

section Recent

variable {P : Parameters} {throws : ℕ → Bool} {past : List (Time × Label)} {axis : Axis}
  {received : Time} {s s' : LeverHardware} {σ τ : Machine} {event : Time × Label}

theorem Recent.of_same (recent : Recent axis received s) (same : s'.feedback axis = s.feedback axis) :
    Recent axis received s' := by
  unfold Recent
  rw [same]
  exact recent

theorem recent_of_forgotten (forgotten : s.feedback axis = {}) : Recent axis received s := by
  intro stored
  rw [forgotten] at stored
  cases stored

/-- **What has been heard stays recent**, whatever the threads do. -/
theorem recent_step (inv : Marked Recent past σ) (stamped : Stamped σ)
    (taken : step P throws σ event = some τ) : Marked Recent (past ++ [event]) τ := by
  refine marked_step inv stamped taken ?_ ?_ ?_ <;>
    (obtain ⟨now, label⟩ := event; obtain ⟨-, τ', moved, rfl⟩ := moved_of_step taken)
  · intro axis received before recent
    cases moved with
    | call | assignEffort | stamp | mask => exact recent
    | @advance sec =>
        rcases (exec_heard P throws now sec σ.control).2 with same | forgot
        · exact recent.of_same (congrFun same axis)
        · exact recent_of_forgotten (congrFun forgot axis)
    | @invalidate a message =>
        have samples := congrFun (invalidateFeedback_heard throws a σ.hw).2 axis
        by_cases same : axis = a
        · exact recent_of_forgotten (samples.trans (by simp [same]))
        · exact recent.of_same (samples.trans (by simp [same]))
    | @store a positionRad stamp holding =>
        by_cases same : axis = a
        · subst same
          rw [horizon_of_holding holding] at before
          intro stored
          simpa [storeSample] using before
        · exact recent.of_same (by simp [storeSample, same])
  · intro axis message delivers rejected
    obtain rfl : label = _ := delivers
    cases moved with
    | invalidate =>
        have samples := congrFun (invalidateFeedback_heard throws axis σ.hw).2 axis
        exact recent_of_forgotten (samples.trans (by simp))
    | stamp _ _ accepted => cases rejected.symm.trans accepted
  · intro axis positionRad stamp received holding stores before stored
    obtain rfl : label = _ := stores
    cases moved with
    | store held =>
        cases holding.symm.trans held
        simpa [storeSample] using before

end Recent

/-! ## The machine is not disturbed -/

/-- What keeps the latch clear: efforts are finite, and an active hardware has a sample for
every axis and calm estimators. -/
structure CalmAt (P : Parameters) (motion : Motion) (events : List (Time × Label))
    (s : LeverHardware) : Prop where
  unlatched : s.feedbackFaultLatched = false
  efforts : ∀ axis, (s.effortCommands axis).isFinite = true
  received : s.active = true → ∀ axis, (s.feedback axis).received = true
  estimator : s.active = true → ∀ axis, Calm P motion events axis (s.feedbackVelocity axis)

section CalmAt

variable {P : Parameters} {throws : ℕ → Bool} {motion : Motion} {events past : List (Time × Label)}
  {now horizon : Time} {s s' : LeverHardware} {c : Control}

theorem CalmAt.of_same (calm : CalmAt P motion events s)
    (latch : s'.feedbackFaultLatched = s.feedbackFaultLatched)
    (efforts : s'.effortCommands = s.effortCommands) (active : s'.active = true → s.active = true)
    (feedback : s'.feedback = s.feedback) (velocity : s'.feedbackVelocity = s.feedbackVelocity) :
    CalmAt P motion events s' where
  unlatched := latch.trans calm.unlatched
  efforts := by rw [efforts]; exact calm.efforts
  received isActive := by rw [feedback]; exact calm.received (active isActive)
  estimator isActive := by rw [velocity]; exact calm.estimator (active isActive)

/-- An inactive hardware needs finite efforts only. -/
theorem CalmAt.of_inactive (unlatched : s.feedbackFaultLatched = false)
    (efforts : ∀ axis, (s.effortCommands axis).isFinite = true) (inactive : s.active = false) :
    CalmAt P motion events s :=
  ⟨unlatched, efforts, fun active => absurd (inactive.symm.trans active) (by simp),
    fun active => absurd (inactive.symm.trans active) (by simp)⟩

/-- Activation starts every estimator from the sample that is stored. -/
theorem CalmAt.activate (calm : CalmAt P motion events s) (healthy : Healthy P motion events)
    (valid : P.Valid) (sourced : SourcedAt P events s)
    (fresh : allFeedbackIsFreshLocked P now s = true) :
    CalmAt P motion events
      { copyFeedbackToStatesLocked s with feedbackFaultLatched := false, active := true } := by
  have received (axis : Axis) : (s.feedback axis).received = true := by
    have := all_axes_iff.mp fresh axis
    simp only [feedbackIsFresh, Bool.and_eq_true] at this
    exact this.1
  refine ⟨rfl, calm.efforts, fun _ => received, fun _ axis => ?_⟩
  obtain ⟨degrees, accepted, position⟩ := sourced.stored axis (received axis)
  simp only [copyFeedbackToStatesLocked, received axis, if_true, position]
  exact healthy.calm_reset valid accepted

/-- `read` of an active hardware gives an estimator the stored sample, which is no fault. -/
theorem CalmAt.readVelocity (calm : CalmAt P motion events s) (healthy : Healthy P motion events)
    (valid : P.Valid) (sourced : SourcedAt P events s) (stamps : StampedAt horizon s) (axis : Axis) :
    (s.active = true → Calm P motion events axis (readVelocity P now s axis).1) ∧
      (Hardware.readVelocity P now s axis).2 = false := by
  simp only [Hardware.readVelocity]
  split
  · next taken =>
      simp only [Bool.and_eq_true] at taken
      obtain ⟨⟨received, active⟩, -⟩ := taken
      obtain ⟨degrees, accepted, position⟩ := sourced.stored axis received
      rw [position]
      have updated := healthy.calm_update valid (calm.estimator active axis) accepted
        ((stamps.estimator active axis).2.2 received)
      exact ⟨fun _ => updated.1, updated.2⟩
  · exact ⟨fun active => calm.estimator active axis, rfl⟩

/-- The test of a `write` that has fresh samples and finite efforts. -/
theorem CalmAt.writeTest (calm : CalmAt P motion events c.hw)
    (fresh : c.hw.active = true → ∀ axis, c.locals.fresh axis = true) :
    (Hardware.writeTest c).hw = c.hw ∧
      (c.hw.active = true → (Hardware.writeTest c).locals.outputEnabled = true) := by
  have finite : (axes.all fun axis => (c.hw.effortCommands axis).isFinite) = true :=
    all_axes_iff.mpr calm.efforts
  cases active : c.hw.active with
  | false => exact ⟨by simp [Hardware.writeTest, active], fun isActive => by cases isActive⟩
  | true =>
      have allFresh : axes.all c.locals.fresh = true := all_axes_iff.mpr (fresh active)
      constructor
      · simp [Hardware.writeTest, allFresh, finite]
      · simp [Hardware.writeTest, active, allFresh, finite, calm.unlatched]

/-- **A section of a healthy machine** does not latch, given what the earlier sections of its
call found. -/
theorem CalmAt.exec (calm : CalmAt P motion events c.hw) (healthy : Healthy P motion events)
    (valid : P.Valid) (quiet : ∀ n, throws n = false) (sourced : SourcedAt P events c.hw)
    (stamps : StampedAt horizon c.hw) (sec : Section)
    (deactivated : sec.deactivated = true → c.hw.active = false)
    (faultless : sec = .latchVelocityFault → ∀ axis, c.locals.velocityFault axis = false)
    (fresh : sec = .writeTest → c.hw.active = true → ∀ axis, c.locals.fresh axis = true) :
    CalmAt P motion events (sec.exec P throws now c).hw := by
  cases sec with
  | deactivate => exact .of_inactive calm.unlatched calm.efforts rfl
  | clearLatch => exact .of_inactive rfl calm.efforts (deactivated rfl)
  | clearCommands => exact .of_inactive calm.unlatched (fun _ => rfl) (deactivated rfl)
  | resetFeedback => exact .of_inactive calm.unlatched calm.efforts (deactivated rfl)
  | clearStaleReported | stopExecutor | writeSnapshot => exact calm.of_same rfl rfl id rfl rfl
  | publishZeroToAllAxes =>
      simp only [Section.exec, publishZeroToAllAxesLocked_eq]
      exact calm.of_same rfl rfl id rfl rfl
  | startExecutor | refuseUnlessReady =>
      simp only [Section.exec, publishZeroToAllAxesLocked_eq]
      split <;> (try split) <;> exact calm.of_same rfl rfl id rfl rfl
  | waitForFeedback =>
      simp only [Section.exec]
      split
      · exact calm.activate healthy valid sourced ‹_›
      · exact calm
  | readFeedback =>
      exact ⟨calm.unlatched, calm.efforts, calm.received,
        fun active axis => (calm.readVelocity healthy valid sourced stamps axis).1 active⟩
  | latchVelocityFault =>
      have none : axes.any c.locals.velocityFault = false := by
        simp [axes, faultless rfl]
      simpa [Section.exec, latchVelocityFault, none] using calm
  | writeTest =>
      simp only [Section.exec]
      rw [(calm.writeTest (fresh rfl)).1]
      exact calm
  | writePublish =>
      simp only [Section.exec, writePublish_eq, any_threw_loopCalls P quiet]
      exact calm.of_same rfl rfl id rfl rfl

end CalmAt

/-! ## Steps and runs -/

section Run

variable {P : Parameters} {throws : ℕ → Bool} {motion : Motion} {events past : List (Time × Label)}
  {σ τ : Machine} {event : Time × Label}

/-- Nothing disturbs the machine, and the call under way has found nothing. -/
structure Undisturbed (P : Parameters) (motion : Motion) (events past : List (Time × Label))
    (σ : Machine) : Prop where
  sourced : Sourced P past σ
  recent : Marked Recent past σ
  calm : CalmAt P motion events σ.hw
  faultless : σ.pending.head? = some .latchVelocityFault →
    ∀ axis, σ.locals.velocityFault axis = false
  fresh : σ.pending.head? = some .writeTest → σ.hw.active = true →
    ∀ axis, σ.locals.fresh axis = true
  enabled : σ.pending.head? = some .writePublish → σ.hw.active = true →
    σ.locals.outputEnabled = true

/-- The section whose findings a section uses comes right before it. -/
theorem finding_before {sec next : Section} {rest : List Section}
    (underway : Underway (sec :: next :: rest)) :
    (next = .latchVelocityFault → sec = .readFeedback) ∧
      (next = .writeTest → sec = .writeSnapshot) ∧ (next = .writePublish → sec = .writeTest) := by
  obtain ⟨op, suffix⟩ := underway
  cases op <;> simp only [ControlOp.sections, List.suffix_cons_iff, List.cons.injEq] at suffix <;>
    grind

/-- No call starts with a section that uses the findings of another. -/
theorem head_sections_ne (op : ControlOp) :
    op.sections.head? ≠ some .latchVelocityFault ∧ op.sections.head? ≠ some .writeTest ∧
      op.sections.head? ≠ some .writePublish := by
  cases op <;> simp [ControlOp.sections]

theorem undisturbed_step (healthy : Healthy P motion events) (valid : P.Valid)
    (quiet : ∀ n, throws n = false) (prefixed : past ++ [event] <+: events)
    (attended : σ.hw.active = true → event.2 = .advance → σ.pending.head? = some .writeSnapshot →
      ∀ axis, HeardSince past axis (event.1 - P.stateTimeoutSec))
    (inv : Undisturbed P motion events past σ) (taken : step P throws σ event = some τ) :
    Undisturbed P motion events (past ++ [event]) τ := by
  have sourced := sourced_step valid inv.sourced taken
  have recent := recent_step inv.recent inv.sourced.stamped taken
  have hw : SourcedAt P events σ.hw :=
    inv.sourced.hw.mono ((List.prefix_append past [event]).trans prefixed).subset
  have taking : event ∈ events := prefixed.subset (by simp)
  have stamps := inv.sourced.stamped
  obtain ⟨now, label⟩ := event
  obtain ⟨forward, τ', moved, rfl⟩ := moved_of_step taken
  cases moved with
  | @call op =>
      obtain ⟨notLatch, notTest, notPublish⟩ := head_sections_ne op
      exact ⟨sourced, recent, inv.calm, fun left => absurd left notLatch,
        fun left => absurd left notTest, fun left => absurd left notPublish⟩
  | @advance sec rest pending =>
      have underway := stamps.good.underway
      rw [pending] at underway
      have calm : CalmAt P motion events (sec.exec P throws now σ.control).hw :=
        inv.calm.exec healthy valid quiet hw stamps.hw sec (stamps.good.deactivated sec rest pending)
          (fun latches => inv.faultless (by rw [pending, latches]; rfl))
          fun tests => inv.fresh (by rw [pending, tests]; rfl)
      have previous {next : Section} (left : rest.head? = some next) :
          (next = .latchVelocityFault → sec = .readFeedback) ∧
            (next = .writeTest → sec = .writeSnapshot) ∧ (next = .writePublish → sec = .writeTest) := by
        obtain ⟨later, rfl⟩ := List.head?_eq_some_iff.mp left
        exact finding_before underway
      refine ⟨sourced, recent, calm, ?_, ?_, ?_⟩
      · intro left axis
        obtain rfl := (previous left).1 rfl
        exact (inv.calm.readVelocity healthy valid hw stamps.hw axis).2
      · intro left active axis
        obtain rfl := (previous left).2.1 rfl
        have received := inv.calm.received active axis
        obtain ⟨heard, -, -, since, recent⟩ :=
          inv.recent.heard (attended active rfl (by rw [pending]; rfl) axis)
        exact feedbackIsFresh_of_recent stamps forward received (since.trans (recent received))
      · intro left active
        obtain rfl := (previous left).2.2 rfl
        have tested := inv.calm.writeTest (inv.fresh (by rw [pending]; rfl))
        have unchanged : (writeTest σ.control).hw = σ.hw := tested.1
        have wasActive : (writeTest σ.control).hw.active = true := active
        rw [unchanged] at wasActive
        exact tested.2 wasActive
  | @assignEffort axis value idle =>
      refine ⟨sourced, recent, ?_, inv.faultless, inv.fresh, inv.enabled⟩
      refine ⟨inv.calm.unlatched, fun a => ?_, inv.calm.received, inv.calm.estimator⟩
      by_cases same : a = axis
      · subst same
        have finite : value.isFinite = true := healthy.harmless _ taking
        simpa using finite
      · simpa [same] using inv.calm.efforts a
  | invalidate _ _ rejected =>
      have accepted := healthy.harmless _ taking
      simp [Label.harmless, rejected] at accepted
  | stamp | mask =>
      exact ⟨sourced, recent, inv.calm.of_same rfl rfl id rfl rfl, inv.faultless, inv.fresh, inv.enabled⟩
  | @store axis =>
      refine ⟨sourced, recent, ⟨inv.calm.unlatched, inv.calm.efforts, fun active a => ?_,
        inv.calm.estimator⟩, inv.faultless, inv.fresh, inv.enabled⟩
      by_cases same : a = axis
      · subst same
        simp [storeSample]
      · simpa [storeSample, same] using inv.calm.received active a

theorem undisturbed_start (P : Parameters) (motion : Motion) (events : List (Time × Label))
    (clock : Time) : Undisturbed P motion events [] (Machine.start clock (initialHardware P)) where
  sourced := sourced_start P clock
  recent := marked_nil _ _
  calm := .of_inactive rfl (fun _ => rfl) rfl
  faultless left := by cases left
  fresh left := by cases left
  enabled left := by cases left

/-- A whole run of a healthy machine. -/
theorem undisturbed_run (valid : P.Valid) (quiet : ∀ n, throws n = false) {clock : Time}
    (healthy : Healthy P motion events)
    (attended : Attended P throws (Machine.start clock (initialHardware P)) events)
    (run : runs (step P throws) (Machine.start clock (initialHardware P)) events = some σ) :
    Undisturbed P motion events events σ :=
  runs_prefix_invariant
    (fun past event rest _ _ split upTo inv taken =>
      undisturbed_step healthy valid quiet ⟨rest, by simp [split]⟩
        (fun active advances left =>
          attended past event.1 rest _ (by rw [split, ← advances]) upTo active left)
        inv taken)
    run (undisturbed_start P motion events clock)

/-- Nothing of its own closes an axis: output is configured, its bit of the mask is
set and its effort does not point past an end stop. -/
def AxisFree (P : Parameters) (σ : Machine) (axis : Axis) : Prop :=
  P.commandOutputEnabled = true ∧ axisEnabled σ.hw.activeAxisMask axis = true ∧
    movesOutsideEndStop P axis (σ.locals.feedbackPositions axis) (σ.hw.effortCommands axis) = false

instance (P : Parameters) (σ : Machine) (axis : Axis) : Decidable (AxisFree P σ axis) :=
  inferInstanceAs (Decidable (_ ∧ _ ∧ _))

/-- What a lever topic carries after a publish loop with output enabled and the latch clear. -/
theorem lastMessage_of_enabled (valid : P.Valid) (quiet : ∀ n, throws n = false) {now : Time}
    (unlatched : σ.hw.feedbackFaultLatched = false) (enabled : σ.locals.outputEnabled = true)
    (writing : σ.pending.head? = some .writePublish)
    (taken : step P throws σ (now, .advance) = some τ) {axis : Axis} {effort : ℚ}
    (asked : σ.hw.effortCommands axis = effort) :
    let config := P.axisConfigs axis
    (AxisFree P σ axis → lastMessage τ.hw.attempts axis =
        some (Double.finite (config.lever (config.bounded effort) (σ.hw.activeDirection axis)).1)) ∧
      (¬ AxisFree P σ axis → lastMessage τ.hw.attempts axis = some 0) := by
  have carries : lastMessage τ.hw.attempts axis = some (leverMessage P σ.control axis) := by
    obtain ⟨-, τ', moved, rfl⟩ := moved_of_step taken
    cases moved with
    | advance pending =>
        rw [pending] at writing
        cases Option.some.inj writing
        simp only [Machine.hw, Section.exec, writePublish_eq, any_threw_loopCalls P quiet]
        have none := List.any_eq_false.mp (any_threw_loopCalls P quiet σ.control)
        exact lastMessage_loopCalls fun call member => by simpa using none call member
  have gates : axisOpen P σ.locals σ.hw.feedbackFaultLatched σ.hw.activeAxisMask
      (σ.hw.effortCommands axis) axis = true ↔ AxisFree P σ axis := by
    simp [axisOpen, AxisFree, enabled, unlatched]
  refine ⟨fun free => ?_, fun closed => ?_⟩
  · have isOpen := gates.mpr free
    rw [asked] at isOpen
    rw [carries, leverMessage, leverOf, asked, leverCommand_open valid isOpen]
    rfl
  · have closed := (Bool.not_eq_true _).mp (mt gates.mp closed)
    rw [carries, leverMessage, leverOf, leverCommand_closed P closed]
    rfl

/-- **A healthy machine is never stopped.**  Let no joint move faster than the limit, let the
messages be accepted and true, in the order they were measured and with a delay that varies
by no more than the receipt jitter, let efforts be finite, every axis be heard within the
state timeout before each write and no publish throw.  Then in every state that an
interleaving of the two threads reaches after a successful `on_init` the latch is clear, and
an active hardware that has come to the publish loop of a write has its output enabled and
sends each axis the lever of its effort, or zero where the axis itself is closed. -/
theorem healthy_never_latches {stod : Stod} {baseOk : Bool} {info : HardwareInfo}
    {indices : List Axis} {hw : LeverHardware}
    (init : onInit stod baseOk info = .ok (P, indices, hw)) (quiet : ∀ n, throws n = false)
    {clock : Time} (healthy : Healthy P motion events)
    (attended : Attended P throws (Machine.start clock hw) events)
    (run : runs (step P throws) (Machine.start clock hw) events = some σ) :
    σ.hw.feedbackFaultLatched = false ∧
      (σ.hw.active = true → σ.pending.head? = some .writePublish →
        σ.locals.outputEnabled = true ∧ ∀ now τ, step P throws σ (now, .advance) = some τ →
          ∀ axis, ∃ effort : ℚ, σ.hw.effortCommands axis = effort ∧
            let config := P.axisConfigs axis
            (AxisFree P σ axis → lastMessage τ.hw.attempts axis = some (Double.finite
              (config.lever (config.bounded effort) (σ.hw.activeDirection axis)).1)) ∧
            (¬ AxisFree P σ axis → lastMessage τ.hw.attempts axis = some 0)) := by
  obtain ⟨loaded, -, rfl⟩ := onInit_eq_ok init
  have valid := loadHardwareParameters_valid loaded
  have undisturbed := undisturbed_run valid quiet healthy attended run
  have unlatched := undisturbed.calm.unlatched
  refine ⟨unlatched, fun active left => ⟨undisturbed.enabled left active, ?_⟩⟩
  intro now τ taken axis
  obtain ⟨effort, asked⟩ := Double.isFinite_iff.mp (undisturbed.calm.efforts axis)
  exact ⟨effort, asked,
    lastMessage_of_enabled valid quiet unlatched (undisturbed.enabled left active) left taken asked⟩

/-- The swing turns at 150 degrees a second and the other joints rest. -/
def turning : Motion where
  angle axis now := if axis = 0 then 150 * now else if axis = 2 then 90 else 0
  measuredAt axis degrees received := if axis = 0 then degrees / 150 else received
  delay _ := 0

/-- A message on the swing comes 30 ms late and the next one a millisecond after it, so that
the swing seems to turn at 4500 degrees a second; a write has come to its publish loop. -/
def turningRun : List (Time × Label) :=
  activation ++ [(1 / 20, .deliver (.feedback 0 (some (3 : ℚ)))), (1 / 20, .store),
    (1 / 20, .call .read), (1 / 20, .advance), (1 / 20, .advance),
    (51 / 1000, .deliver (.feedback 0 (some (15 / 2 : ℚ)))), (51 / 1000, .store),
    (51 / 1000, .call .read), (51 / 1000, .advance), (51 / 1000, .advance),
    (51 / 1000, .assignEffort 0 (50 : ℚ)), (51 / 1000, .call .write), (51 / 1000, .advance),
    (51 / 1000, .advance)]

/-- The angles that the messages of a run tell. -/
def anglesTold (events : List (Time × Label)) : List (Axis × ℚ × Time) :=
  events.filterMap fun event =>
    match event.2 with
    | .deliver (.feedback axis (some (.finite degrees))) => some (axis, degrees, event.1)
    | _ => none

theorem Accepted.told {axis : Axis} {degrees : ℚ} {stamp : Time}
    (accepted : Accepted P events axis degrees stamp) :
    (axis, degrees, stamp) ∈ anglesTold events :=
  List.mem_filterMap.mpr ⟨_, accepted.1, rfl⟩

theorem healthy_turning : Healthy checkedParameters turning turningRun where
  slow axis first second ordered := by
    have degree := kDegreesToRadians_pos
    have along : 0 ≤ second - first := sub_nonneg.mpr ordered
    fin_cases axis <;> simp [turning, checkedParameters, defaultParameters]
    · rw [← mul_sub, abs_of_nonneg (mul_nonneg (by norm_num) along)]
      linarith [mul_nonneg along degree.le]
    all_goals positivity
  harmless := by decide +kernel
  truthful told := by
    have all : ∀ told ∈ anglesTold turningRun,
        told.2.1 = turning.angle told.1 (turning.measuredAt told.1 told.2.1 told.2.2) := by
      decide +kernel
    exact ⟨0, by simpa using all _ told.told, fun _ => rfl⟩
  prompt told := by
    have all : ∀ told ∈ anglesTold turningRun,
        turning.delay told.1 ≤ told.2.2 - turning.measuredAt told.1 told.2.1 told.2.2 ∧
          told.2.2 - turning.measuredAt told.1 told.2.1 told.2.2 ≤
            turning.delay told.1 + checkedParameters.feedbackVelocityJitterToleranceSec := by
      decide +kernel
    exact all _ told.told
  inOrder told told' ordered := by
    have all : ∀ told ∈ anglesTold turningRun, ∀ told' ∈ anglesTold turningRun,
        told.1 = told'.1 → told.2.2 < told'.2.2 →
          turning.measuredAt told.1 told.2.1 told.2.2 ≤
            turning.measuredAt told'.1 told'.2.1 told'.2.2 := by
      decide +kernel
    exact all _ told.told _ told'.told rfl ordered

theorem healthy_never_latches_turning :
    ∃ σ τ, runs (step checkedParameters fun _ => false)
        (Machine.start 0 (initialHardware checkedParameters)) turningRun = some σ ∧
      step checkedParameters (fun _ => false) σ (51 / 1000, .advance) = some τ ∧
      σ.hw.feedbackFaultLatched = false ∧ σ.locals.outputEnabled = true ∧
      lastMessage τ.hw.attempts 0 = some (Double.finite 50) := by
  obtain ⟨σ, run, active, left, asked, free, neutral, τ, taken, -⟩ : ∃ σ ∈ runs
      (step checkedParameters fun _ => false)
      (Machine.start 0 (initialHardware checkedParameters)) turningRun,
      σ.hw.active = true ∧ σ.pending.head? = some .writePublish ∧
      σ.hw.effortCommands 0 = Double.finite 50 ∧ AxisFree checkedParameters σ 0 ∧
      σ.hw.activeDirection 0 = 0 ∧
      ∃ τ ∈ step checkedParameters (fun _ => false) σ (51 / 1000, .advance), τ.pending = [] := by
    decide +kernel
  obtain ⟨unlatched, obeys⟩ := healthy_never_latches onInit_checkedInfo (fun _ => rfl)
    healthy_turning (attended_of_prefixes (by decide +kernel)) run
  obtain ⟨enabled, sends⟩ := obeys active left
  obtain ⟨effort, same, pushed, -⟩ := sends _ τ taken 0
  obtain rfl : 50 = effort := Double.finite.inj (asked.symm.trans same)
  have lever : ((checkedParameters.axisConfigs 0).lever
      ((checkedParameters.axisConfigs 0).bounded 50) 0).1 = 50 := by
    decide +kernel
  exact ⟨σ, τ, run, taken, unlatched, enabled, by rw [pushed free, neutral, lever]⟩

end Run

end Tb20e.Hardware
