/-
# Hardware.VelocityMonitor -- which overspeeds the monitor sees

The monitor is meant to add up the movement of every message, so that reversals
do not cancel and a fast movement cannot hide between two reads: that is
`OverspeedCaught`.  But the messages reach the estimator through one slot for
each axis, which a message overwrites and only a `read` hands on.

`stepWhenRead` takes only those steps in which a message finds its axis's slot
read.  Along such steps the estimator has been given every sample but at most
the last (`Watching`), and its excess is the clamped accumulator of their
increments, so the promise is kept: **`overspeed_caught_of_read`**.  Two messages
between two reads break it.
-/
import Tb20e.Hardware.LeverMessage

namespace Tb20e.Hardware

set_option autoImplicit false

open Tb20e.Theory Tb20e.Control
open Tb20e.Theory (Double)

/-! ## The promise -/

/-- The sample that a message stores for an axis. -/
def acceptedSample (P : Parameters) (axis : Axis) (message : Time × Callback) : Option Sample :=
  (acceptedAngle P axis message.2).map fun degrees =>
    { position := storedPosition P axis degrees, stamp := message.1 }

/-- The samples that an axis accepts along some steps. -/
def acceptedSamples (P : Parameters) (axis : Axis) (events : List (Time × Op)) : List Sample :=
  (messages events).filterMap (acceptedSample P axis)

/-- The slot of an axis holds a sample. -/
def FeedbackSample.Holds (slot : FeedbackSample) (sample : Sample) : Prop :=
  slot = { positionRad := Double.finite sample.position, received := true,
           receivedAt := sample.stamp }

/-- Some window of an axis's samples that ends with the last moved too far. -/
def Overspeed (P : Parameters) (axis : Axis) (baseline : Sample) (samples : List Sample) : Prop :=
  WindowExceeds (P.axisConfigs axis).continuous P.maxFeedbackVelocityRadS
    P.feedbackVelocityJitterToleranceSec baseline samples

/-- **The promise.**  Let a window of samples that ends with a message have moved
too far, the sample held at the activation counting as the first.  Then the first
`read` after that message which finds the axis's sample fresh leaves the latch set. -/
def OverspeedCaught (P : Parameters) (throws : ℕ → Bool) (axis : Axis) (σ : System)
    (events : List (Time × Op)) : Prop :=
  ∀ baseline before message since now rest μ τ,
    (σ.hw.feedback axis).Holds baseline →
    events = before ++ message :: since ++ (now, .call .read []) :: rest →
    acceptedSamples P axis [message] ≠ [] →
    Overspeed P axis baseline (acceptedSamples P axis (before ++ [message])) →
    runs (System.step P throws) σ (before ++ message :: since) = some μ →
    (∀ early t late ν, since = early ++ (t, .call .read []) :: late →
      runs (System.step P throws) σ (before ++ message :: early) = some ν →
      feedbackIsFresh P (ν.hw.feedback axis) t = false) →
    System.step P throws μ (now, .call .read []) = some τ →
    feedbackIsFresh P (μ.hw.feedback axis) now = true →
    τ.hw.feedbackFaultLatched = true

/-- A message that the axis accepts finds the latch set, or the axis's slot read,
and comes later than the sample in it. -/
def arrivesRead (P : Parameters) (axis : Axis) (s : LeverHardware) (event : Time × Op) : Bool :=
  match event.2 with
  | .deliver (.feedback a message) =>
      a ≠ axis || (acceptedPosition P axis message).isNone || s.feedbackFaultLatched ||
        ((s.feedbackVelocity axis).stamp = (s.feedback axis).receivedAt &&
          (s.feedback axis).receivedAt < event.1)
  | _ => true

/-- The steps in which no sample of the axis is overwritten unread. -/
def stepWhenRead (P : Parameters) (throws : ℕ → Bool) (axis : Axis) (σ : System)
    (event : Time × Op) : Option System :=
  if arrivesRead P axis σ.hw event then System.step P throws σ event else none

variable {P : Parameters} {throws : ℕ → Bool} {now : Time} {s s' : LeverHardware} {axis : Axis}
  {σ τ μ : System} {baseline : Sample} {samples taken : List Sample}

theorem acceptedSamples_append (first second : List (Time × Op)) :
    acceptedSamples P axis (first ++ second) =
      acceptedSamples P axis first ++ acceptedSamples P axis second := by
  simp [acceptedSamples, messages]

theorem step_of_whenRead {event : Time × Op}
    (taken : stepWhenRead P throws axis σ event = some τ) :
    arrivesRead P axis σ.hw event = true ∧ System.step P throws σ event = some τ := by
  simpa [stepWhenRead] using taken

/-! ## What the estimator has been given -/

/-- The estimator has been given the baseline and then these samples. -/
structure Tracks (P : Parameters) (axis : Axis) (baseline : Sample) (taken : List Sample)
    (estimator : FeedbackVelocity) : Prop where
  position : estimator.position = Double.finite (lastSample baseline taken).position
  stamp : estimator.stamp = (lastSample baseline taken).stamp
  excess : estimator.excessDistance = Double.finite (accumulate
    (increments (P.axisConfigs axis).continuous P.maxFeedbackVelocityRadS baseline taken))

/-- **One update**: the estimator has been given one sample more, and finds a
fault exactly when a window that ends with it moved too far. -/
theorem Tracks.update (valid : P.Valid) {estimator : FeedbackVelocity}
    (tracks : Tracks P axis baseline taken estimator) {sample : Sample}
    (later : estimator.stamp < sample.stamp) :
    let updated := estimator.update (Double.finite sample.position) sample.stamp
      (P.axisConfigs axis).continuous P.maxFeedbackVelocityRadS
      P.feedbackVelocityJitterToleranceSec true
    Tracks P axis baseline (taken ++ [sample]) updated.1 ∧
      (updated.2 = true ↔ Overspeed P axis baseline (taken ++ [sample])) := by
  intro updated
  have step : updated = _ := FeedbackVelocity.update_of_checked tracks.position tracks.excess later
    valid.maxVelocity_pos valid.jitter_nonneg
  have carried := accumulate_concat
    (increments (P.axisConfigs axis).continuous P.maxFeedbackVelocityRadS baseline taken)
    (|movement (P.axisConfigs axis).continuous sample.position
        (lastSample baseline taken).position| -
      P.maxFeedbackVelocityRadS * (sample.stamp - (lastSample baseline taken).stamp))
  rw [← increments_concat] at carried
  rw [tracks.stamp] at step
  refine ⟨⟨?_, ?_, ?_⟩, ?_⟩
  · simp [updated, step]
  · simp [updated, step]
  · simp [updated, step, carried]
  · rw [Overspeed, ← exceeds_iff_window, carried]
    simp [updated, step]

theorem not_overspeed_nil (valid : P.Valid) : ¬ Overspeed P axis baseline [] := by
  rw [Overspeed, ← exceeds_iff_window]
  simpa [increments] using mul_nonneg valid.maxVelocity_pos.le valid.jitter_nonneg

/-! ## The slot and the estimator -/

/-- The slot holds the last sample, the estimator was given every sample but
possibly that one, and nothing it was given was too fast. -/
structure Watching (P : Parameters) (axis : Axis) (baseline : Sample) (samples taken : List Sample)
    (s : LeverHardware) : Prop where
  active : s.active = true
  slot : (s.feedback axis).Holds (lastSample baseline samples)
  tracks : Tracks P axis baseline taken (s.feedbackVelocity axis)
  unread : samples = taken ∨ ∃ sample, samples = taken ++ [sample] ∧
    (s.feedbackVelocity axis).stamp < sample.stamp
  quiet : ∀ early, early <+: taken → ¬ Overspeed P axis baseline early

/-- The latch is set, or the monitor is watching. -/
def Monitored (P : Parameters) (axis : Axis) (baseline : Sample) (samples : List Sample)
    (s : LeverHardware) : Prop :=
  s.feedbackFaultLatched = true ∨ ∃ taken, Watching P axis baseline samples taken s

theorem Watching.of_same (watching : Watching P axis baseline samples taken s)
    (active : s'.active = s.active) (feedback : s'.feedback axis = s.feedback axis)
    (velocity : s'.feedbackVelocity axis = s.feedbackVelocity axis) :
    Watching P axis baseline samples taken s' where
  active := active.trans watching.active
  slot := feedback ▸ watching.slot
  tracks := velocity ▸ watching.tracks
  unread := velocity ▸ watching.unread
  quiet := watching.quiet

/-- A fault of one axis that `read` finds while active is latched. -/
theorem afterRead_latched (active : s.active = true) (fault : (readVelocity P now s axis).2 = true) :
    (afterRead P throws now s).feedbackFaultLatched = true := by
  have any : axes.any (fun a => (readVelocity P now s a).2) = true :=
    any_axes_iff.mpr ⟨axis, fault⟩
  simp [afterRead, latchVelocityFault, readFeedback, latchFaultAndPublishZero, active, any]

/-- Nothing between two lifecycle calls clears the latch. -/
theorem ran_latched {op : Op} (ran : Ran P throws now s op s')
    (latched : s.feedbackFaultLatched = true) : s'.feedbackFaultLatched = true := by
  cases ran with
  | read =>
      simp only [afterRead, latchVelocityFault, readFeedback, latchFaultAndPublishZero,
        publishZeroToAllAxesLocked_eq]
      split
      · split <;> first | rfl | exact latched
      · exact latched
  | write => exact (write_frame P throws now s).2.2.2.2 latched
  | assignEffort => exact latched
  | @deliver callback =>
      cases callback with
      | mask data => exact latched
      | feedback a message =>
          simp only [Callback.exec]
          split
          · simp only [invalidateFeedback, publishZeroToAllAxesLocked_eq]
            split <;> first | rfl | exact latched
          · exact latched

/-- A `read` latches, or leaves the monitor watching; if the sample was fresh,
with every sample given. -/
theorem Watching.read (throws : ℕ → Bool) (now : Time) (valid : P.Valid)
    (checked : P.feedbackVelocityLimitCheckEnabled = true)
    (watching : Watching P axis baseline samples taken s) :
    (afterRead P throws now s).feedbackFaultLatched = true ∨
      ∃ taken', Watching P axis baseline samples taken' (afterRead P throws now s) ∧
        (feedbackIsFresh P (s.feedback axis) now = true → taken' = samples) := by
  obtain ⟨active, feedback, velocity, -⟩ := afterRead_frame P throws now s
  have slot := watching.slot
  by_cases fresh : feedbackIsFresh P (s.feedback axis) now = true
  · have given : readVelocity P now s axis =
        (s.feedbackVelocity axis).update (Double.finite (lastSample baseline samples).position)
          (lastSample baseline samples).stamp (P.axisConfigs axis).continuous
          P.maxFeedbackVelocityRadS P.feedbackVelocityJitterToleranceSec true := by
      rw [FeedbackSample.Holds] at slot
      simp only [readVelocity, fresh, watching.active, checked]
      rw [slot]
      rfl
    rcases watching.unread with rfl | ⟨sample, rfl, later⟩
    · -- The slot was read before: the update sees the same stamp.
      have kept : (readVelocity P now s axis).1 = s.feedbackVelocity axis := by
        rw [given, ← watching.tracks.stamp, FeedbackVelocity.update_same_stamp]
      exact .inr ⟨samples, watching.of_same active (congrFun feedback axis)
        ((velocity axis).trans kept), fun _ => rfl⟩
    · rw [lastSample_concat] at given
      obtain ⟨tracks, fault⟩ := watching.tracks.update valid later
      rw [← given] at tracks fault
      by_cases exceeded : Overspeed P axis baseline (taken ++ [sample])
      · exact .inl (afterRead_latched watching.active (fault.mpr exceeded))
      · refine .inr ⟨taken ++ [sample],
          ⟨active.trans watching.active, ?_, ?_, .inl rfl, ?_⟩, fun _ => rfl⟩
        · rw [feedback]; exact slot
        · rw [velocity]; exact tracks
        · intro early upTo
          rcases List.prefix_concat_iff.mp upTo with rfl | inside
          · simpa using exceeded
          · exact watching.quiet early inside
  · have kept : (readVelocity P now s axis).1 = s.feedbackVelocity axis := by
      simp [readVelocity, fresh]
    exact .inr ⟨taken, watching.of_same active (congrFun feedback axis)
      ((velocity axis).trans kept), fun isFresh => absurd isFresh fresh⟩

/-! ## Messages -/

theorem acceptedSamples_other {a : Axis} {message : Option Double} (other : a ≠ axis) :
    acceptedSamples P axis [(now, .deliver (.feedback a message))] = [] := by
  simp [acceptedSamples, messages, received, acceptedSample, acceptedAngle_other other]

/-- An accepted message is stored as the sample that it is. -/
theorem acceptedSamples_of_accepted (now : Time) {message : Option Double} {positionRad : Double}
    (accepted : acceptedPosition P axis message = some positionRad) :
    ∃ sample : Sample,
      acceptedSamples P axis [(now, .deliver (.feedback axis message))] = [sample] ∧
        sample.stamp = now ∧ positionRad = Double.finite sample.position := by
  obtain ⟨degrees, angle, stored⟩ := acceptedAngle_of_accepted accepted
  exact ⟨{ position := storedPosition P axis degrees, stamp := now },
    by simp [acceptedSamples, messages, received, acceptedSample, angle], rfl, stored⟩

/-- A message that is rejected while active latches, whatever its axis. -/
theorem exec_rejected {a : Axis} {message : Option Double} (active : s.active = true)
    (rejected : acceptedPosition P a message = none) :
    (Callback.exec P throws now (.feedback a message) s).feedbackFaultLatched = true := by
  simp [Callback.exec, rejected, invalidateFeedback, active]

/-- A message that finds the slot read leaves its sample as the unread one. -/
theorem Watching.store (watching : Watching P axis baseline samples taken s) {message : Option Double}
    {positionRad : Double} (accepted : acceptedPosition P axis message = some positionRad)
    (readBefore : (s.feedbackVelocity axis).stamp = (s.feedback axis).receivedAt)
    (later : (s.feedback axis).receivedAt < now) :
    Watching P axis baseline
      (samples ++ acceptedSamples P axis [(now, .deliver (.feedback axis message))]) taken
      (Callback.exec P throws now (.feedback axis message) s) := by
  obtain ⟨sample, same, stamp, stored⟩ := acceptedSamples_of_accepted now accepted
  have slot := watching.slot
  rw [FeedbackSample.Holds] at slot
  obtain rfl : samples = taken := by
    rcases watching.unread with same | ⟨unread, rfl, after⟩
    · exact same
    · rw [readBefore, slot, lastSample_concat] at after
      exact absurd after (lt_irrefl _)
  rw [same]
  simp only [Callback.exec, accepted]
  refine ⟨watching.active, ?_, watching.tracks, .inr ⟨sample, rfl, ?_⟩, watching.quiet⟩
  · rw [FeedbackSample.Holds, lastSample_concat]
    simp [storeSample, stored, stamp]
  · rw [stamp]
    exact readBefore.trans_lt later

/-- **One step of the monitor**, in which no sample of the axis is overwritten unread. -/
theorem monitored_step (valid : P.Valid) (checked : P.feedbackVelocityLimitCheckEnabled = true)
    {op : Op} (monitored : Monitored P axis baseline samples s)
    (arrives : arrivesRead P axis s (now, op) = true) (ran : Ran P throws now s op s') :
    Monitored P axis baseline (samples ++ acceptedSamples P axis [(now, op)]) s' := by
  rcases monitored with latched | ⟨taken, watching⟩
  · exact .inl (ran_latched ran latched)
  have noMessage {op : Op} (none : received (now, op) = []) :
      samples ++ acceptedSamples P axis [(now, op)] = samples := by
    simp [acceptedSamples, messages, none]
  cases ran with
  | read =>
      rw [noMessage rfl]
      rcases watching.read throws now valid checked with latched | ⟨taken', after, -⟩
      · exact .inl latched
      · exact .inr ⟨taken', after⟩
  | write =>
      rw [noMessage rfl]
      obtain ⟨active, feedback, velocity, -⟩ := write_frame P throws now s
      exact .inr ⟨taken,
        watching.of_same active (congrFun feedback axis) (congrFun velocity axis)⟩
  | assignEffort =>
      rw [noMessage rfl]
      exact .inr ⟨taken, watching.of_same rfl rfl rfl⟩
  | @deliver callback =>
      cases callback with
      | mask data =>
          have none : acceptedSamples P axis [(now, .deliver (.mask data))] = [] := rfl
          rw [none, List.append_nil]
          exact .inr ⟨taken, watching.of_same rfl rfl rfl⟩
      | feedback a message =>
          cases position : acceptedPosition P a message with
          | none => exact .inl (exec_rejected watching.active position)
          | some positionRad =>
              by_cases same : a = axis
              · subst same
                simp only [arrivesRead, position, ne_eq, not_true_eq_false, decide_false,
                  Option.isNone_some, Bool.false_or, Bool.or_eq_true, Bool.and_eq_true,
                  decide_eq_true_eq] at arrives
                rcases arrives with latched | ⟨readBefore, later⟩
                · exact .inl (ran_latched .deliver latched)
                · exact .inr ⟨taken, watching.store position readBefore later⟩
              · rw [acceptedSamples_other same, List.append_nil]
                refine .inr ⟨taken, watching.of_same ?_ ?_ ?_⟩ <;>
                  simp [Callback.exec, position, storeSample, Ne.symm same]

/-- Along a run from an activation, in which no sample of the axis is overwritten
unread, the latch is set or the monitor is watching. -/
theorem monitored_run (valid : P.Valid) (checked : P.feedbackVelocityLimitCheckEnabled = true)
    {events : List (Time × Op)} (start : Monitored P axis baseline [] σ.hw)
    (running : ∀ event ∈ events, event.2.running = true)
    (run : runs (stepWhenRead P throws axis) σ events = some τ) :
    Monitored P axis baseline (acceptedSamples P axis events) τ.hw := by
  induction events using List.reverseRecOn generalizing τ with
  | nil =>
      obtain rfl : σ = τ := Option.some.inj run
      exact start
  | append_singleton events event ih =>
      obtain ⟨μ, before, last⟩ := runs_append_eq_some.mp run
      obtain ⟨arrives, taken⟩ := step_of_whenRead (runs_singleton.symm.trans last)
      obtain ⟨-, -, ran⟩ := ran_of_step (running event (by simp)) taken
      rw [acceptedSamples_append]
      exact monitored_step valid checked
        (ih (fun e member => running e (List.mem_append_left _ member)) before) arrives ran

/-- After an activation the estimator holds the sample in the slot. -/
theorem Activated.monitored (valid : P.Valid) (activated : Activated s)
    (holds : (s.feedback axis).Holds baseline) : Monitored P axis baseline [] s := by
  have estimator := activated.estimator axis
  have slot := holds
  rw [FeedbackSample.Holds] at holds
  rw [holds] at estimator
  refine .inr ⟨[], activated.active, slot, ?_, .inl rfl, ?_⟩
  · rw [estimator]
    exact ⟨rfl, rfl, rfl⟩
  · intro early upTo
    rw [List.prefix_nil.mp upTo]
    exact not_overspeed_nil valid

/-! ## The promise is kept when no sample is overwritten unread -/

theorem caught_of_monitored (valid : P.Valid) (checked : P.feedbackVelocityLimitCheckEnabled = true)
    {early : List Sample} (monitored : Monitored P axis baseline samples s)
    (fresh : feedbackIsFresh P (s.feedback axis) now = true) (upTo : early <+: samples)
    (overspeed : Overspeed P axis baseline early) :
    (afterRead P throws now s).feedbackFaultLatched = true := by
  rcases monitored with latched | ⟨taken, watching⟩
  · exact ran_latched .read latched
  · rcases watching.read throws now valid checked with latched | ⟨taken', after, all⟩
    · exact latched
    · obtain rfl := all fresh
      exact absurd overspeed (after.quiet early upTo)

/-- **Which overspeeds are caught.**  After a successful `on_activate`, along any
steps that are no lifecycle call and in which no sample of an axis is overwritten
before a `read` has taken it, no overspeed of that axis escapes. -/
theorem overspeed_caught_of_read {stod : Stod} {baseOk : Bool} {info : HardwareInfo}
    {indices : List Axis} {hw : LeverHardware} {clock activatedAt : Time}
    {earlier events : List (Time × Op)} {waited : List (Time × Callback)} {ρ : System}
    (init : onInit stod baseOk info = .ok (P, indices, hw))
    (checked : P.feedbackVelocityLimitCheckEnabled = true)
    (reached : runs (System.step P throws) (System.start clock hw) earlier = some ρ)
    (activated : System.step P throws ρ (activatedAt, .call .onActivate waited) = some σ)
    (active : σ.hw.active = true) (running : ∀ event ∈ events, event.2.running = true)
    (run : runs (stepWhenRead P throws axis) σ events = some τ) :
    (∃ baseline, (σ.hw.feedback axis).Holds baseline) ∧
      OverspeedCaught P throws axis σ events := by
  obtain ⟨loaded, -, rfl⟩ := onInit_eq_ok init
  have valid := loadHardwareParameters_valid loaded
  have after := activated_of_call activated active
  constructor
  · have stamped := stampedAt_reachable
      (runs_append_eq_some.mpr ⟨ρ, reached, runs_singleton.trans activated⟩)
    obtain ⟨-, finite⟩ := stamped.stored axis (after.received axis)
    obtain ⟨position, same⟩ := Double.isFinite_iff.mp finite
    refine ⟨{ position, stamp := (σ.hw.feedback axis).receivedAt }, ?_⟩
    simp [FeedbackSample.Holds, ← same, ← after.received axis]
  · intro baseline before message since now rest μ τ' holds split _ overspeed toRead _ isRead fresh
    subst split
    obtain ⟨μ', upTo, -⟩ := runs_append_eq_some.mp run
    obtain rfl : μ' = μ := by
      have wide := runs_mono (fun _ _ _ taken => (step_of_whenRead taken).2) upTo
      exact Option.some.inj (wide.symm.trans toRead)
    have monitored := monitored_run valid checked (after.monitored valid holds)
      (fun event member => running event (List.mem_append_left _ member)) upTo
    obtain ⟨-, rfl⟩ := step_read_eq_some.mp isRead
    refine caught_of_monitored valid checked monitored fresh ?_ overspeed
    exact ⟨acceptedSamples P axis since, by rw [← acceptedSamples_append]; simp⟩

/-- A description that enables the velocity check. -/
def checkedInfo : HardwareInfo :=
  standardInfo fun key =>
    if key = "feedback_velocity_limit_check_enabled" then some "true" else none

def checkedParameters : Parameters :=
  { defaultParameters with feedbackVelocityLimitCheckEnabled := true }

theorem onInit_checkedInfo :
    onInit (fun text => .error text) true checkedInfo =
      .ok (checkedParameters, axes, initialHardware checkedParameters) :=
  onInit_of_loaded (by decide +kernel) (by decide +kernel)

/-- The boom moves ten degrees and back, and is read after each message. -/
def readEachTime : List (Time × Op) :=
  [(1 / 100, .deliver (.feedback 1 (some (10 : ℚ)))), (1 / 100, .call .read []),
    (2 / 100, .deliver (.feedback 1 (some 0))), (2 / 100, .call .read [])]

theorem overspeed_caught_of_read_each_time :
    ∃ ρ σ : System,
      runs (System.step checkedParameters fun _ => false)
        (System.start 0 (initialHardware checkedParameters)) [(0, .call (.onConfigure true) [])] =
          some ρ ∧
      System.step checkedParameters (fun _ => false) ρ (0, .call .onActivate reports) = some σ ∧
      (∃ baseline, (σ.hw.feedback 1).Holds baseline) ∧
      OverspeedCaught checkedParameters (fun _ => false) 1 σ readEachTime := by
  obtain ⟨ρ, reached, σ, activated, active, τ, run, -⟩ :
      ∃ ρ ∈ runs (System.step checkedParameters fun _ => false)
          (System.start 0 (initialHardware checkedParameters))
          [(0, .call (.onConfigure true) [])],
        ∃ σ ∈ System.step checkedParameters (fun _ => false) ρ (0, .call .onActivate reports),
          σ.hw.active = true ∧
            ∃ τ ∈ runs (stepWhenRead checkedParameters (fun _ => false) 1) σ readEachTime, True := by
    decide +kernel
  exact ⟨ρ, σ, reached, activated, overspeed_caught_of_read onInit_checkedInfo rfl reached activated
    active (by decide) run⟩

/-- The boom moves ten degrees and back between two reads. -/
def reversedUnread : List (Time × Op) :=
  [(1 / 100, .deliver (.feedback 1 (some (10 : ℚ)))), (2 / 100, .deliver (.feedback 1 (some 0))),
    (3 / 100, .call .read [])]

/-- **An overspeed escapes**: twenty degrees in 20 ms, at a limit of 180 degrees a
second, that the next `read` does not see. -/
theorem overspeed_escapes_unread :
    ∃ ρ σ : System,
      runs (System.step checkedParameters fun _ => false)
        (System.start 0 (initialHardware checkedParameters)) [(0, .call (.onConfigure true) [])] =
          some ρ ∧
      System.step checkedParameters (fun _ => false) ρ (0, .call .onActivate reports) = some σ ∧
      σ.hw.active = true ∧
      ¬ OverspeedCaught checkedParameters (fun _ => false) 1 σ reversedUnread := by
  obtain ⟨ρ, reached, σ, activated, active, slot, μ, toRead, fresh, τ, isRead, unlatched⟩ :
      ∃ ρ ∈ runs (System.step checkedParameters fun _ => false)
          (System.start 0 (initialHardware checkedParameters))
          [(0, .call (.onConfigure true) [])],
        ∃ σ ∈ System.step checkedParameters (fun _ => false) ρ (0, .call .onActivate reports),
          σ.hw.active = true ∧
            σ.hw.feedback 1 =
              { positionRad := Double.finite 0, received := true, receivedAt := 0 } ∧
            ∃ μ ∈ runs (System.step checkedParameters fun _ => false) σ (reversedUnread.take 2),
              feedbackIsFresh checkedParameters (μ.hw.feedback 1) (3 / 100) = true ∧
                ∃ τ ∈ System.step checkedParameters (fun _ => false) μ (3 / 100, .call .read []),
                  τ.hw.feedbackFaultLatched = false := by
    decide +kernel
  refine ⟨ρ, σ, reached, activated, active, ?_⟩
  intro caught
  have overspeed : Overspeed checkedParameters 1 { position := 0, stamp := 0 }
      (acceptedSamples checkedParameters 1 (reversedUnread.take 2)) :=
    ⟨[], _, _, rfl, by decide +kernel⟩
  have latched := caught { position := 0, stamp := 0 } (reversedUnread.take 1)
    (2 / 100, .deliver (.feedback 1 (some 0))) [] (3 / 100) [] μ τ slot rfl (by decide +kernel)
    overspeed toRead (by simp) isRead fresh
  rw [unlatched] at latched
  cases latched

end Tb20e.Hardware
