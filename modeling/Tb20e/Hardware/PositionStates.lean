/-
# Hardware.PositionStates -- whose angles the position states are

A run is read as a list of notices: a message accepted or rejected, the samples copied
to the states by a `read` or a successful `on_activate`, a `reset_feedback`.  `held` is
the angle of an axis's sample after some notices, and `ShownFrom` says that the angle
of a state was the latest accepted one at the last copy that found a sample, with no
reset since.

`Tracked` ties the samples to `held`, and while the hardware is active the states to
`ShownFrom`.  A reset or an invalidation does write zeros, into states that are not
shown: a call that resets has deactivated, and what an invalidation clears is no longer
received, so no copy takes it.
-/
import Tb20e.Theory.Since
import Tb20e.Hardware.LeverMessage

namespace Tb20e.Hardware

set_option autoImplicit false

open Tb20e.Theory Tb20e.Control
open Tb20e.Theory (Double)

/-! ## Notices -/

/-- What a run does to the samples and the position states. -/
inductive Notice where
  /-- A message of the axis was accepted, with this angle in degrees. -/
  | accepted (axis : Axis) (degrees : ℚ)
  /-- A message of the axis was rejected, which clears its sample. -/
  | rejected (axis : Axis)
  /-- The samples were copied to the states. -/
  | copied
  /-- `reset_feedback`. -/
  | reset

/-- The notices that concern an axis's sample. -/
def Notice.touches (axis : Axis) : Notice → Prop
  | .accepted a _ | .rejected a => a = axis
  | .copied => False
  | .reset => True

/-- An axis's sample after a notice: its angle in degrees, if it is received. -/
def Notice.slot (axis : Axis) (sample : Option ℚ) : Notice → Option ℚ
  | .accepted a degrees => if a = axis then some degrees else sample
  | .rejected a => if a = axis then none else sample
  | .copied => sample
  | .reset => none

/-- An axis's sample after some notices, oldest first. -/
def held (axis : Axis) (past : List Notice) : Option ℚ := past.foldl (Notice.slot axis) none

/-- The angle is that of the latest accepted message of the axis, which has not been
rejected or reset since. -/
def Latest (axis : Axis) (degrees : ℚ) (past : List Notice) : Prop :=
  Since (fun n => ¬ n.touches axis) (· = .accepted axis degrees) past

/-- The angle was the latest at a copy, nothing was reset since, and no copy after
that one found a sample of the axis. -/
def ShownFrom (axis : Axis) (degrees : ℚ) (past : List Notice) : Prop :=
  ∃ before after, past = before ++ .copied :: after ∧ Latest axis degrees before ∧
    .reset ∉ after ∧
    ∀ first rest, after = first ++ .copied :: rest →
      ∀ other, ¬ Latest axis other (before ++ .copied :: first)

section Notices

variable {axis : Axis} {past : List Notice}

theorem held_concat (past : List Notice) (n : Notice) :
    held axis (past ++ [n]) = n.slot axis (held axis past) := by
  simp [held]

/-- **The sample is the latest accepted angle.** -/
theorem held_eq_some_iff {degrees : ℚ} :
    held axis past = some degrees ↔ Latest axis degrees past := by
  induction past using List.reverseRecOn with
  | nil => simp [held, Latest, not_since_nil]
  | append_singleton past n ih =>
      rw [held_concat, Latest, since_concat, ← Latest, ← ih]
      cases n with
      | accepted a other =>
          by_cases same : a = axis
          · simp [Notice.slot, Notice.touches, same]
          · simp [Notice.slot, Notice.touches, same]
      | rejected a =>
          by_cases same : a = axis
          · simp [Notice.slot, Notice.touches, same]
          · simp [Notice.slot, Notice.touches, same]
      | copied => simp [Notice.slot, Notice.touches]
      | reset => simp [Notice.slot, Notice.touches]

/-- A copy shows the sample it finds. -/
theorem shownFrom_copied {degrees : ℚ} (latest : Latest axis degrees past) :
    ShownFrom axis degrees (past ++ [.copied]) :=
  ⟨past, [], rfl, latest, by simp, by simp⟩

/-- What is shown stays shown, but for a reset and a copy that finds a sample. -/
theorem ShownFrom.concat {degrees : ℚ} {n : Notice} (shown : ShownFrom axis degrees past)
    (kept : n ≠ .reset) (missed : n = .copied → held axis past = none) :
    ShownFrom axis degrees (past ++ [n]) := by
  obtain ⟨before, after, rfl, latest, unreset, later⟩ := shown
  refine ⟨before, after ++ [n], by simp, latest, ?_, ?_⟩
  · simpa [unreset] using Ne.symm kept
  · intro first rest split other
    rcases List.eq_nil_or_concat rest with rfl | ⟨init, last, rfl⟩
    · obtain ⟨rfl, copied⟩ := List.append_inj' split rfl
      simp only [List.cons.injEq, and_true] at copied
      rw [← held_eq_some_iff, missed copied]
      simp
    · rw [List.concat_eq_append, ← List.cons_append, ← List.append_assoc] at split
      obtain ⟨same, -⟩ := List.append_inj' split rfl
      exact later first init same other

theorem ShownFrom.append {degrees : ℚ} {new : List Notice} (shown : ShownFrom axis degrees past)
    (kept : ∀ n ∈ new, n ≠ .reset ∧ n ≠ .copied) : ShownFrom axis degrees (past ++ new) := by
  induction new using List.reverseRecOn with
  | nil => simpa using shown
  | append_singleton new n ih =>
      obtain ⟨notReset, notCopied⟩ := kept n (by simp)
      rw [← List.append_assoc]
      exact (ih fun m member => kept m (by simp [member])).concat notReset fun copied =>
        absurd copied notCopied

end Notices

/-! ## The notices of a run -/

section Run

variable (P : Parameters) (throws : ℕ → Bool)

def noticesOf : Callback → List Notice
  | .mask _ => []
  | .feedback axis message =>
      match acceptedAngle P axis (.feedback axis message) with
      | some degrees => [.accepted axis degrees]
      | none => [.rejected axis]

/-- The notices of a step that left a hardware: an `on_activate` has copied the samples
if the hardware is active. -/
def noticesOfStep (event : Time × Op) (after : LeverHardware) : List Notice :=
  match event.2 with
  | .call (.onConfigure _) _ | .call .onCleanup _ | .call .onError _ => [.reset]
  | .call .onActivate waited =>
      waited.flatMap (fun message => noticesOf P message.2) ++ if after.active then [.copied] else []
  | .call .read _ => [.copied]
  | .deliver callback => noticesOf P callback
  | .call .onDeactivate _ | .call .onShutdown _ | .call .write _ | .assignEffort _ _ => []

/-- The notices of a run, oldest first. -/
def notices : System → List (Time × Op) → List Notice
  | _, [] => []
  | σ, event :: rest =>
      match System.step P throws σ event with
      | none => []
      | some τ => noticesOfStep P event τ.hw ++ notices τ rest

end Run

variable {P : Parameters} {throws : ℕ → Bool} {σ τ : System} {now : Time}

/-- The induction for a property that speaks of the notices. -/
theorem runs_notices {I : List Notice → System → Prop}
    (preserved : ∀ past σ event τ, I past σ → System.step P throws σ event = some τ →
      I (past ++ noticesOfStep P event τ.hw) τ)
    (past : List Notice) {events : List (Time × Op)}
    (run : runs (System.step P throws) σ events = some τ) (start : I past σ) :
    I (past ++ notices P throws σ events) τ := by
  induction events generalizing σ past with
  | nil => cases run; simpa [notices] using start
  | cons event rest ih =>
      obtain ⟨σ', taken, later⟩ := runs_cons_eq_some.mp run
      simp only [notices, taken]
      rw [← List.append_assoc]
      exact ih _ later (preserved past σ event σ' start taken)

/-! ## The invariant -/

/-- A sample is the one held, and its position is what the callback stored for it. -/
def Holds (P : Parameters) (axis : Axis) (sample : FeedbackSample) : Option ℚ → Prop
  | none => sample.received = false
  | some degrees => sample.received = true ∧
      acceptedPosition P axis (some (Double.finite degrees)) = some sample.positionRad

structure Tracked (P : Parameters) (past : List Notice) (s : LeverHardware) : Prop where
  sample : ∀ axis, Holds P axis (s.feedback axis) (held axis past)
  shown : s.active = true → ∀ axis, ∃ degrees, ShownFrom axis degrees past ∧
    acceptedPosition P axis (some (Double.finite degrees)) = some (s.positionStates axis)

theorem tracked_start (P : Parameters) : Tracked P [] (initialHardware P) :=
  ⟨fun _ => rfl, fun active => by cases active⟩

/-- A step that leaves the samples and, while active, the states alone. -/
theorem Tracked.frame {past : List Notice} {s s' : LeverHardware} (t : Tracked P past s)
    (feedback : s'.feedback = s.feedback)
    (same : s'.active = true → s.active = true ∧ s'.positionStates = s.positionStates) :
    Tracked P past s' := by
  refine ⟨by rw [feedback]; exact t.sample, ?_⟩
  intro active
  obtain ⟨wasActive, positions⟩ := same active
  rw [positions]
  exact t.shown wasActive

/-- What an axis notices of a message, and what the message does to the samples. -/
theorem noticesOf_feedback (P : Parameters) (throws : ℕ → Bool) (now : Time) (axis : Axis)
    (message : Option Double) (s : LeverHardware) :
    (noticesOf P (.feedback axis message) = [.rejected axis] ∧
      ((Callback.feedback axis message).exec P throws now s).feedback =
        Function.update s.feedback axis {}) ∨
    ∃ degrees positionRad, noticesOf P (.feedback axis message) = [.accepted axis degrees] ∧
      acceptedPosition P axis (some (Double.finite degrees)) = some positionRad ∧
      ((Callback.feedback axis message).exec P throws now s).feedback =
        Function.update s.feedback axis { positionRad, received := true, receivedAt := now } := by
  cases position : acceptedPosition P axis message with
  | none =>
      left
      have rejected : acceptedAngle P axis (.feedback axis message) = none := by
        unfold acceptedAngle
        split
        · next same => cases same; simp [position]
        · rfl
      simp only [noticesOf, rejected, Callback.exec, position]
      exact ⟨trivial, (invalidateFeedback_heard throws axis s).2⟩
  | some positionRad =>
      right
      obtain ⟨degrees, rfl, -⟩ := acceptedPosition_eq_some P position
      refine ⟨degrees, positionRad, ?_, position, by simp only [Callback.exec, position]; rfl⟩
      simp [noticesOf, acceptedAngle, position]

/-- A message is held, or its axis's sample is cleared. -/
theorem holds_callback {past : List Notice} {s : LeverHardware} (callback : Callback)
    (sample : ∀ axis, Holds P axis (s.feedback axis) (held axis past)) (axis : Axis) :
    Holds P axis ((callback.exec P throws now s).feedback axis)
      (held axis (past ++ noticesOf P callback)) := by
  cases callback with
  | mask data => simpa [noticesOf, Callback.exec, activeAxisMaskCallback] using sample axis
  | feedback a message =>
      rcases noticesOf_feedback P throws now a message s with
        ⟨new, cleared⟩ | ⟨degrees, positionRad, new, position, stored⟩
      · rw [new, held_concat, cleared]
        by_cases same : a = axis
        · subst same
          simp [Notice.slot, Holds]
        · simpa [Notice.slot, same, Function.update_of_ne (Ne.symm same)] using sample axis
      · rw [new, held_concat, stored]
        by_cases same : a = axis
        · subst same
          simp [Notice.slot, Holds, position]
        · simpa [Notice.slot, same, Function.update_of_ne (Ne.symm same)] using sample axis

/-- No message copies or resets anything. -/
theorem noticesOf_quiet (callback : Callback) :
    ∀ n ∈ noticesOf P callback, n ≠ .reset ∧ n ≠ .copied := by
  cases callback with
  | mask data => simp [noticesOf]
  | feedback axis message => simp only [noticesOf]; split <;> simp

theorem exec_callback_states (P : Parameters) (throws : ℕ → Bool) (now : Time)
    (callback : Callback) (s : LeverHardware) :
    (callback.exec P throws now s).active = s.active ∧
      (callback.exec P throws now s).positionStates = s.positionStates := by
  cases callback with
  | mask data => exact ⟨rfl, rfl⟩
  | feedback axis message =>
      simp only [Callback.exec]
      split
      · simp only [invalidateFeedback, publishZeroToAllAxesLocked_eq]
        split <;> exact ⟨rfl, rfl⟩
      · exact ⟨rfl, rfl⟩

/-- **A message** changes no state, and only its own axis's sample. -/
theorem tracked_callback {past : List Notice} {s : LeverHardware} (callback : Callback)
    (t : Tracked P past s) :
    Tracked P (past ++ noticesOf P callback) (callback.exec P throws now s) := by
  refine ⟨holds_callback callback t.sample, ?_⟩
  obtain ⟨active, positions⟩ := exec_callback_states P throws now callback s
  rw [active, positions]
  intro isActive axis
  obtain ⟨degrees, shown, position⟩ := t.shown isActive axis
  exact ⟨degrees, shown.append (noticesOf_quiet callback), position⟩

/-- **A copy** shows what is held, and leaves the state of an axis that holds nothing. -/
theorem tracked_copied {past : List Notice} {s s' : LeverHardware}
    (sample : ∀ axis, Holds P axis (s.feedback axis) (held axis past))
    (feedback : s'.feedback = s.feedback)
    (copied : ∀ axis, s'.positionStates axis =
      if (s.feedback axis).received then (s.feedback axis).positionRad else s.positionStates axis)
    (old : s'.active = true → ∀ axis, (s.feedback axis).received = false →
      ∃ degrees, ShownFrom axis degrees past ∧
        acceptedPosition P axis (some (Double.finite degrees)) = some (s.positionStates axis)) :
    Tracked P (past ++ [.copied]) s' := by
  constructor
  · intro axis
    rw [feedback, held_concat]
    exact sample axis
  · intro active axis
    rw [copied]
    have holds := sample axis
    cases holding : held axis past with
    | none =>
        rw [holding] at holds
        have missing : (s.feedback axis).received = false := holds
        obtain ⟨degrees, shown, position⟩ := old active axis missing
        refine ⟨degrees, shown.concat (by simp) fun _ => holding, ?_⟩
        simpa [missing] using position
    | some degrees =>
        rw [holding] at holds
        obtain ⟨received, position⟩ := holds
        refine ⟨degrees, shownFrom_copied (held_eq_some_iff.mp holding), ?_⟩
        simpa [received] using position

/-- The calls that reset the samples deactivate. -/
theorem reset_of_call {op : ControlOp} {waited : List (Time × Callback)}
    (resets : .resetFeedback ∈ op.sections)
    (taken : System.step P throws σ (now, .call op waited) = some τ) :
    τ.hw.active = false ∧ τ.hw.feedback = fun _ => {} := by
  have quiet : waited = [] := by
    refine (System.call_eq_some.mp taken).1 ?_
    rintro rfl
    simp [ControlOp.sections] at resets
  subst quiet
  obtain ⟨-, rfl⟩ := System.call_nil_eq_some.mp taken
  cases op with
  | onConfigure starts =>
      cases starts <;> cases running : σ.hw.executorRunning <;>
        simp [ControlOp.beforeClock, ControlOp.fromClock, ControlOp.sections, Section.readsClock,
          execAll, Section.exec, resetFeedback, running]
  | onCleanup | onError =>
      simp [ControlOp.beforeClock, ControlOp.fromClock, ControlOp.sections, Section.readsClock,
        execAll, Section.exec, resetFeedback]
  | onActivate | onDeactivate | onShutdown | read | write => simp [ControlOp.sections] at resets

/-- The calls that only deactivate keep the samples. -/
theorem deactivated_of_call {op : ControlOp} {waited : List (Time × Callback)}
    (stops : op = .onDeactivate ∨ op = .onShutdown)
    (taken : System.step P throws σ (now, .call op waited) = some τ) :
    τ.hw.active = false ∧ τ.hw.feedback = σ.hw.feedback := by
  have quiet : waited = [] := by
    refine (System.call_eq_some.mp taken).1 ?_
    rintro rfl
    simp at stops
  subst quiet
  obtain ⟨-, rfl⟩ := System.call_nil_eq_some.mp taken
  rcases stops with rfl | rfl <;>
    simp [ControlOp.beforeClock, ControlOp.fromClock, ControlOp.sections, Section.readsClock,
      execAll, Section.exec]

/-- **An activation** holds the messages it waits for, and copies if it succeeds. -/
theorem tracked_activation {past : List Notice} {waited : List (Time × Callback)}
    (t : Tracked P past σ.hw)
    (taken : System.step P throws σ (now, .call .onActivate waited) = some τ) :
    Tracked P (past ++ noticesOfStep P (now, .call .onActivate waited) τ.hw) τ.hw := by
  obtain ⟨s, σ', inactive, feedback, -, waits, -, outcome⟩ := activation_cases taken
  have still := (wait_of_inactive waits inactive).1
  have waiting : Tracked P (past ++ waited.flatMap fun message => noticesOf P message.2) σ'.hw := by
    refine runs_history_invariant
      (I := fun seen (ρ : System) =>
        Tracked P (past ++ seen.flatMap fun message => noticesOf P message.2) ρ.hw)
      ?_ [] waits ?_
    · intro seen ρ message ρ' before took
      obtain ⟨-, rfl⟩ := System.take_eq_some.mp took
      simpa using tracked_callback message.2 before
    · simpa using t.frame feedback fun active => by rw [inactive] at active; cases active
  rcases outcome with ⟨fresh, rfl⟩ | ⟨-, rfl⟩
  · have copied : Tracked P
        ((past ++ waited.flatMap fun message => noticesOf P message.2) ++ [.copied])
        { copyFeedbackToStatesLocked σ'.hw with feedbackFaultLatched := false, active := true } :=
      tracked_copied waiting.sample rfl (fun _ => rfl) fun _ axis missing => by
        rw [received_of_fresh fresh axis] at missing; cases missing
    simpa [noticesOfStep] using copied
  · simp only [publishZeroToAllAxesLocked_eq, noticesOfStep, still, Bool.false_eq_true, if_false,
      List.append_nil]
    exact waiting.frame rfl fun active => by cases active

theorem tracked_reset {past : List Notice} {s : LeverHardware} (inactive : s.active = false)
    (cleared : s.feedback = fun _ => {}) : Tracked P (past ++ [.reset]) s := by
  constructor
  · intro axis
    rw [held_concat, cleared]
    exact rfl
  · intro active
    rw [inactive] at active
    cases active

/-- **One step.** -/
theorem tracked_step {past : List Notice} {event : Time × Op} (t : Tracked P past σ.hw)
    (taken : System.step P throws σ event = some τ) :
    Tracked P (past ++ noticesOfStep P event τ.hw) τ.hw := by
  obtain ⟨now, op⟩ := event
  cases op with
  | assignEffort axis value =>
      simp only [System.step, Option.ite_none_left_eq_some, Option.some.injEq] at taken
      obtain ⟨-, rfl⟩ := taken
      simp only [noticesOfStep, List.append_nil]
      exact t.frame rfl fun active => ⟨active, rfl⟩
  | deliver callback =>
      obtain ⟨-, rfl⟩ := System.take_eq_some.mp taken
      exact tracked_callback callback t
  | call op waited =>
      cases op with
      | onActivate => exact tracked_activation t taken
      | onConfigure | onCleanup | onError =>
          obtain ⟨inactive, cleared⟩ := reset_of_call (by simp [ControlOp.sections]) taken
          exact tracked_reset inactive cleared
      | onDeactivate | onShutdown =>
          obtain ⟨inactive, feedback⟩ := deactivated_of_call (by simp) taken
          simp only [noticesOfStep, List.append_nil]
          exact t.frame feedback fun active => by rw [inactive] at active; cases active
      | read =>
          obtain rfl : waited = [] := (System.call_eq_some.mp taken).1 (by simp)
          obtain ⟨-, rfl⟩ := step_read_eq_some.mp taken
          obtain ⟨active, feedback, -, copied⟩ := afterRead_frame P throws now σ.hw
          exact tracked_copied t.sample feedback copied fun isActive axis _ =>
            t.shown (active ▸ isActive) axis
      | write =>
          obtain rfl : waited = [] := (System.call_eq_some.mp taken).1 (by simp)
          obtain ⟨-, rfl⟩ := step_write_eq_some.mp taken
          obtain ⟨active, feedback, -, positions, -⟩ := write_frame P throws now σ.hw
          simp only [noticesOfStep, List.append_nil]
          exact t.frame feedback fun isActive => ⟨active ▸ isActive, positions⟩

/-! ## The main result -/

/-- An `on_activate` after which the hardware is active has found fresh feedback on every axis. -/
theorem fresh_of_onActivate {waited : List (Time × Callback)}
    (taken : System.step P throws σ (now, .call .onActivate waited) = some τ)
    (active : τ.hw.active = true) (axis : Axis) :
    feedbackIsFresh P (τ.hw.feedback axis) now = true := by
  obtain ⟨s, σ', wasInactive, -, -, waits, -, ⟨fresh, rfl⟩ | ⟨-, rfl⟩⟩ := activation_cases taken
  · exact all_axes_iff.mp fresh axis
  · rw [publishZeroToAllAxesLocked_eq, (wait_of_inactive waits wasInactive).1] at active
    cases active

/-- Nothing but an `on_activate` sets the hardware active. -/
theorem onActivate_of_activated {event : Time × Op}
    (taken : System.step P throws σ event = some τ) (inactive : σ.hw.active = false)
    (active : τ.hw.active = true) : ∃ waited, event.2 = .call .onActivate waited := by
  obtain ⟨now, op⟩ := event
  have unchanged (same : τ.hw.active = σ.hw.active) : False := by
    rw [same, inactive] at active; cases active
  have stopped (still : τ.hw.active = false) : False := by
    rw [still] at active; cases active
  cases op with
  | assignEffort axis value =>
      simp only [System.step, Option.ite_none_left_eq_some, Option.some.injEq] at taken
      obtain ⟨-, rfl⟩ := taken
      exact (unchanged rfl).elim
  | deliver callback =>
      obtain ⟨-, rfl⟩ := System.take_eq_some.mp taken
      exact (unchanged (exec_callback_states P throws now callback σ.hw).1).elim
  | call op waited =>
      cases op with
      | onActivate => exact ⟨waited, rfl⟩
      | onConfigure | onCleanup | onError =>
          exact (stopped (reset_of_call (by simp [ControlOp.sections]) taken).1).elim
      | onDeactivate | onShutdown =>
          exact (stopped (deactivated_of_call (by simp) taken).1).elim
      | read =>
          obtain rfl : waited = [] := (System.call_eq_some.mp taken).1 (by simp)
          obtain ⟨-, rfl⟩ := step_read_eq_some.mp taken
          exact (unchanged (afterRead_frame P throws now σ.hw).1).elim
      | write =>
          obtain rfl : waited = [] := (System.call_eq_some.mp taken).1 (by simp)
          obtain ⟨-, rfl⟩ := step_write_eq_some.mp taken
          exact (unchanged (write_frame P throws now σ.hw).1).elim

/-- A position in the range of its joint; that of the swing is half a turn each way. -/
def InRange (P : Parameters) (axis : Axis) (position : ℚ) : Prop :=
  if axis = 0 then -kPi ≤ position ∧ position ≤ kPi
  else (P.axisConfigs axis).positionMinRad ≤ position ∧ position ≤ (P.axisConfigs axis).positionMaxRad

theorem storedPosition_inRange (valid : P.Valid) (axis : Axis) (degrees : ℚ) :
    InRange P axis (storedPosition P axis degrees) := by
  unfold InRange
  cases kind : (P.axisConfigs axis).continuous with
  | true =>
      rw [if_pos ((valid.continuous_iff axis).mp kind), ← abs_le]
      simp only [storedPosition, kind, if_true]
      calc |remainder (degrees * kDegreesToRadians) kTwoPi| ≤ kTwoPi / 2 :=
            abs_remainder_le kTwoPi_pos _
        _ = kPi := by rw [kTwoPi]; ring
  | false =>
      have finiteJoint : axis ≠ 0 := by
        intro swing
        rw [(valid.continuous_iff axis).mpr swing] at kind
        cases kind
      have ordered := ((valid.axis axis).position_lt kind).le
      simp only [finiteJoint, storedPosition, kind, if_false, Bool.false_eq_true]
      exact ⟨le_clamp ordered _, clamp_le ordered _⟩

/-- **The position states are trustworthy whenever the hardware is active**, after any
sequence of calls, efforts and messages.  The hardware becomes active only in an
`on_activate`, and every `on_activate` that leaves it active has found fresh feedback on
every axis; and while it is active each position state is in range, and is what the
callback stored for a message accepted since the last reset, the latest one at the last
copy that found a sample of its axis. -/
theorem position_states_trustworthy {stod : Stod} {baseOk : Bool} {info : HardwareInfo}
    {indices : List Axis} {hw : LeverHardware} {clock : Time} {events : List (Time × Op)}
    (init : onInit stod baseOk info = .ok (P, indices, hw))
    (run : runs (System.step P throws) (System.start clock hw) events = some σ) :
    (∀ event τ, System.step P throws σ event = some τ → τ.hw.active = true →
      (σ.hw.active = false → ∃ waited, event.2 = .call .onActivate waited) ∧
        ∀ waited, event.2 = .call .onActivate waited →
          ∀ axis, feedbackIsFresh P (τ.hw.feedback axis) event.1 = true) ∧
    (σ.hw.active = true → ∀ axis, ∃ degrees position : ℚ,
      σ.hw.positionStates axis = Double.finite position ∧ InRange P axis position ∧
      acceptedPosition P axis (some (Double.finite degrees)) = some (Double.finite position) ∧
      ShownFrom axis degrees (notices P throws (System.start clock hw) events)) := by
  obtain ⟨loaded, -, rfl⟩ := onInit_eq_ok init
  have valid := loadHardwareParameters_valid loaded
  have tracked :
      Tracked P (notices P throws (System.start clock (initialHardware P)) events) σ.hw := by
    apply runs_notices (I := fun past ρ => Tracked P past ρ.hw) ?_ [] run (tracked_start P)
    intro past ρ event ρ' before taken
    exact tracked_step before taken
  refine ⟨fun event τ taken active => ⟨fun inactive => onActivate_of_activated taken inactive active,
    fun waited isCall => ?_⟩, ?_⟩
  · obtain ⟨now, op⟩ := event
    obtain rfl : op = .call .onActivate waited := isCall
    exact fresh_of_onActivate taken active
  intro active axis
  obtain ⟨degrees, shown, position⟩ := tracked.shown active axis
  obtain ⟨same, is, stored⟩ := acceptedPosition_eq_some P position
  cases is
  exact ⟨degrees, storedPosition P axis degrees, stored, storedPosition_inRange valid axis degrees,
    by rw [← stored]; exact position, shown⟩

/-- After an activation the arm's message is not a number, which latches and clears its
sample; a `read` leaves its state alone. -/
theorem position_states_trustworthy_arm :
    ∃ σ, runs (System.step defaultParameters (fun _ => false))
        (System.start 0 (initialHardware defaultParameters))
        (activationCalls ++ [(0, .deliver (.feedback 2 (some .nan))), (0, .call .read [])]) = some σ ∧
      (σ.hw.feedback 2).positionRad = Double.finite 0 ∧
      ∃ degrees position : ℚ, σ.hw.positionStates 2 = Double.finite position ∧
        InRange defaultParameters 2 position ∧
        acceptedPosition defaultParameters 2 (some (Double.finite degrees)) =
          some (Double.finite position) ∧
        ShownFrom 2 degrees (notices defaultParameters (fun _ => false)
          (System.start 0 (initialHardware defaultParameters))
          (activationCalls ++ [(0, .deliver (.feedback 2 (some .nan))), (0, .call .read [])])) := by
  obtain ⟨σ, run, active, cleared⟩ : ∃ σ ∈ runs (System.step defaultParameters (fun _ => false))
      (System.start 0 (initialHardware defaultParameters))
      (activationCalls ++ [(0, .deliver (.feedback 2 (some .nan))), (0, .call .read [])]),
      σ.hw.active = true ∧ (σ.hw.feedback 2).positionRad = Double.finite 0 := by
    decide +kernel
  exact ⟨σ, run, cleared,
    (position_states_trustworthy (onInit_unset fun _ => .ok (.nan, 0)) run).2 active 2⟩

end Tb20e.Hardware
