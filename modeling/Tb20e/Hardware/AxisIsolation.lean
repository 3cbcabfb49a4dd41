/-
# Hardware.AxisIsolation -- no axis sees what the other three are sent

Two runs of the hardware take the same steps at the same times, and agree on what
concerns one axis: its efforts, its feedback and its bit of every mask (`AlikeOn`).
`Agree` is what the two machines then have in common, kept by every pair of steps
that end unlatched with the same outcome of `on_activate` (`agree_step`).

The axes do share two things in `write`, the test that all feedback is fresh and all
efforts are finite, and the latch.  Both runs are unlatched, so while they are active
the test has the same outcome in both; and whatever else the latch would do does not
happen.
-/
import Tb20e.Hardware.FaultLatch

namespace Tb20e.Hardware

set_option autoImplicit false

open Tb20e.Theory Tb20e.Control
open Tb20e.Theory (Double)

/-- The messages that an axis's lever topic carries, newest first. -/
def messagesOn (axis : Axis) (calls : List Attempt) : List Double :=
  (calls.filter fun call => call.axis = axis && !call.threw).map (·.data)

theorem messagesOn_append (axis : Axis) (first second : List Attempt) :
    messagesOn axis (first ++ second) = messagesOn axis first ++ messagesOn axis second := by
  simp [messagesOn]

/-- What a machine shows of an axis: its topic and its two states. -/
def axisView (axis : Axis) (σ : Machine) : List Double × Double × Double :=
  (messagesOn axis σ.hw.attempts, σ.hw.positionStates axis, σ.hw.velocityStates axis)

/-- Two labels that are the same but for what other axes are sent. -/
inductive AlikeLabel (axis : Axis) : Label → Label → Prop
  | call (op : ControlOp) : AlikeLabel axis (.call op) (.call op)
  | advance : AlikeLabel axis .advance .advance
  | assignEffort (other : Axis) {value value' : Double} (same : other = axis → value = value') :
      AlikeLabel axis (.assignEffort other value) (.assignEffort other value')
  | feedback (other : Axis) {message message' : Option Double}
      (same : other = axis → message = message') :
      AlikeLabel axis (.deliver (.feedback other message)) (.deliver (.feedback other message'))
  | mask {data data' : BitVec 8} (same : data.getLsbD axis = data'.getLsbD axis) :
      AlikeLabel axis (.deliver (.mask data)) (.deliver (.mask data'))
  | store : AlikeLabel axis .store .store

/-- Two steps at the same time, alike on an axis. -/
def AlikeOn (axis : Axis) (event event' : Time × Label) : Prop :=
  event.1 = event'.1 ∧ AlikeLabel axis event.2 event'.2

theorem AlikeOn.refl (axis : Axis) (event : Time × Label) : AlikeOn axis event event := by
  refine ⟨rfl, ?_⟩
  obtain ⟨now, label⟩ := event
  cases label with
  | call op => exact .call op
  | advance => exact .advance
  | assignEffort other value => exact .assignEffort other fun _ => rfl
  | deliver callback =>
      cases callback with
      | feedback other message => exact .feedback other fun _ => rfl
      | mask data => exact .mask rfl
  | store => exact .store

/-! ## What two runs have in common -/

/-- The members and locals that reach an axis. -/
structure AgreeControl (axis : Axis) (c c' : Control) : Prop where
  active : c.hw.active = c'.hw.active
  feedback : c.hw.feedback axis = c'.hw.feedback axis
  feedbackVelocity : c.hw.feedbackVelocity axis = c'.hw.feedbackVelocity axis
  positionStates : c.hw.positionStates axis = c'.hw.positionStates axis
  velocityStates : c.hw.velocityStates axis = c'.hw.velocityStates axis
  effortCommands : c.hw.effortCommands axis = c'.hw.effortCommands axis
  activeDirection : c.hw.activeDirection axis = c'.hw.activeDirection axis
  enabled : axisEnabled c.hw.activeAxisMask axis = axisEnabled c'.hw.activeAxisMask axis
  commandPublishers : c.hw.commandPublishers axis = c'.hw.commandPublishers axis
  messages : messagesOn axis c.hw.attempts = messagesOn axis c'.hw.attempts
  feedbackPositions : c.locals.feedbackPositions axis = c'.locals.feedbackPositions axis
  outputEnabled : c.locals.outputEnabled = c'.locals.outputEnabled

namespace AgreeControl

variable {axis : Axis} {c c' c'' : Control}

theorem refl (axis : Axis) (c : Control) : AgreeControl axis c c :=
  ⟨rfl, rfl, rfl, rfl, rfl, rfl, rfl, rfl, rfl, rfl, rfl, rfl⟩

theorem symm (agree : AgreeControl axis c c') : AgreeControl axis c' c := by
  obtain ⟨h1, h2, h3, h4, h5, h6, h7, h8, h9, h10, h11, h12⟩ := agree
  exact ⟨h1.symm, h2.symm, h3.symm, h4.symm, h5.symm, h6.symm, h7.symm, h8.symm, h9.symm,
    h10.symm, h11.symm, h12.symm⟩

theorem trans (first : AgreeControl axis c c') (second : AgreeControl axis c' c'') :
    AgreeControl axis c c'' := by
  obtain ⟨h1, h2, h3, h4, h5, h6, h7, h8, h9, h10, h11, h12⟩ := first
  obtain ⟨k1, k2, k3, k4, k5, k6, k7, k8, k9, k10, k11, k12⟩ := second
  exact ⟨h1.trans k1, h2.trans k2, h3.trans k3, h4.trans k4, h5.trans k5, h6.trans k6,
    h7.trans k7, h8.trans k8, h9.trans k9, h10.trans k10, h11.trans k11, h12.trans k12⟩

/-- A member that another axis's sample is written to. -/
theorem update_feedback {other : Axis} (apart : axis ≠ other) (c : Control)
    (sample : FeedbackSample) :
    AgreeControl axis c { c with hw.feedback := Function.update c.hw.feedback other sample } :=
  { refl axis c with feedback := (Function.update_of_ne apart sample c.hw.feedback).symm }

end AgreeControl

/-- The side condition on the two states of a pair of steps: neither has the latch
set, and an `on_activate` has come to the same. -/
structure Comparable (σ σ' : Machine) : Prop where
  unlatched : σ.hw.feedbackFaultLatched = false
  unlatched' : σ'.hw.feedbackFaultLatched = false
  outcome : σ.locals.feedbackReady = σ'.locals.feedbackReady

structure Agree (axis : Axis) (σ σ' : Machine) : Prop where
  control : AgreeControl axis σ.control σ'.control
  pending : σ.pending = σ'.pending
  stamped : ∀ positionRad stamp,
    σ.stamped = some (axis, positionRad, stamp) ↔ σ'.stamped = some (axis, positionRad, stamp)
  comparable : Comparable σ σ'

theorem agree_start {P : Parameters} (axis : Axis) (clock : Time) :
    Agree axis (Machine.start clock (initialHardware P))
      (Machine.start clock (initialHardware P)) :=
  ⟨.refl axis _, rfl, fun _ _ => Iff.rfl, ⟨rfl, rfl, rfl⟩⟩

/-! ## The publish calls of an axis -/

/-- What zeroing sends to an axis depends on its publisher alone. -/
theorem messagesOn_zeroCalls {axis : Axis} {publishers publishers' : Axis → Bool}
    (same : publishers axis = publishers' axis) (visited : List Axis) (n n' : ℕ) :
    messagesOn axis (zeroCalls noThrow publishers visited n) =
      messagesOn axis (zeroCalls noThrow publishers' visited n') := by
  have single (created : Axis → Bool) (head : Axis) (rest : List Axis) (m : ℕ) :
      ∃ m', messagesOn axis (zeroCalls noThrow created (head :: rest) m) =
        messagesOn axis (zeroCalls noThrow created rest m') ++
          if head = axis ∧ created axis = true then [0] else [] := by
    by_cases created_ : created head = true
    · refine ⟨m + 1, ?_⟩
      rw [zeroCalls, if_pos created_, messagesOn_append]
      by_cases this : head = axis
      · subst this
        simp [messagesOn, noThrow, created_]
      · simp [messagesOn, noThrow, this]
    · refine ⟨m, ?_⟩
      rw [zeroCalls, if_neg created_, if_neg, List.append_nil]
      rintro ⟨rfl, yes⟩
      exact created_ yes
  induction visited generalizing n n' with
  | nil => rfl
  | cons head rest ih =>
      obtain ⟨m, first⟩ := single publishers head rest n
      obtain ⟨m', second⟩ := single publishers' head rest n'
      rw [first, second, ih m m', same]

/-- The publish loop sends an axis its lever command. -/
theorem messagesOn_loopCalls (P : Parameters) (c : Control) (axis : Axis) :
    messagesOn axis (loopCalls P noThrow c) = [leverMessage P c axis] := by
  fin_cases axis <;> simp [messagesOn, loopCalls, noThrow]

/-! ## One section of the control thread -/

section Exec

variable {P : Parameters} {now : Time} {axis : Axis} {c c' : Control}

/-- Zeroing in both runs. -/
theorem agree_zeroing (agree : AgreeControl axis c c') :
    AgreeControl axis { c with hw := publishZeroToAllAxesLocked noThrow c.hw }
      { c' with hw := publishZeroToAllAxesLocked noThrow c'.hw } := by
  simp only [publishZeroToAllAxesLocked_eq]
  refine { agree with messages := ?_ }
  simp only [messagesOn_append]
  rw [agree.messages, messagesOn_zeroCalls agree.commandPublishers axes]

/-- `read` computes an axis's states from its own sample and estimator. -/
theorem agree_readFeedback (agree : AgreeControl axis c c') :
    AgreeControl axis (readFeedback P now c) (readFeedback P now c') := by
  have velocity : readVelocity P now c.hw axis = readVelocity P now c'.hw axis := by
    simp only [readVelocity, agree.feedback, agree.active, agree.feedbackVelocity]
  refine { agree with feedbackVelocity := ?_, positionStates := ?_, velocityStates := ?_ }
  · exact congrArg Prod.fst velocity
  · simp only [readFeedback, agree.feedback, agree.positionStates]
  · simp only [readFeedback, agree.feedback, agree.active, velocity]

/-- A `read` that does not end latched has found no fault. -/
theorem latchVelocityFault_unlatched
    (unlatched : (latchVelocityFault noThrow c).hw.feedbackFaultLatched = false) :
    latchVelocityFault noThrow c = c := by
  by_cases latches : (c.hw.active && axes.any c.locals.velocityFault) = true
  · obtain ⟨active, fault⟩ := Bool.and_eq_true_iff.mp latches
    rw [latchVelocityFault_hw active fault] at unlatched
    cases unlatched
  · rw [latchVelocityFault, if_neg latches]

/-- A `write` whose test does not end latched has output enabled if it is active. -/
theorem writeTest_unlatched (unlatched : (writeTest c).hw.feedbackFaultLatched = false) :
    writeTest c =
      { c with locals :=
        { c.locals with isActive := c.hw.active, outputEnabled := c.hw.active } } := by
  by_cases latches : (c.hw.active && (!axes.all c.locals.fresh ||
      !axes.all fun axis => (c.hw.effortCommands axis).isFinite)) = true
  · simp only [writeTest] at unlatched
    rw [if_pos latches] at unlatched
    cases unlatched
  · simp only [writeTest] at unlatched ⊢
    rw [if_neg latches] at unlatched ⊢
    cases active : c.hw.active <;> simp_all

/-- The publish loop computes an axis's message and direction from its own members,
the latch and the outcome of the test. -/
theorem agree_writePublish (agree : AgreeControl axis c c')
    (unlatched : c.hw.feedbackFaultLatched = false)
    (unlatched' : c'.hw.feedbackFaultLatched = false) :
    AgreeControl axis (writePublish P noThrow c) (writePublish P noThrow c') := by
  have lever : leverOf P c axis = leverOf P c' axis := by
    simp only [leverOf, leverCommand, axisOpen, agree.outputEnabled, unlatched, unlatched',
      agree.enabled, agree.feedbackPositions, agree.effortCommands, agree.activeDirection]
  simp only [writePublish_eq, any_threw_loopCalls P noThrow_quiet, Bool.false_eq_true, if_false]
  refine { agree with activeDirection := congrArg Prod.snd lever, messages := ?_ }
  simp only [messagesOn_append, messagesOn_loopCalls, leverMessage]
  rw [agree.messages, lever]

/-- **One section in both runs**, if neither ends latched and an `on_activate` comes to
the same. -/
theorem agree_exec {sec : Section} (agree : AgreeControl axis c c')
    (before : c.hw.feedbackFaultLatched = false) (before' : c'.hw.feedbackFaultLatched = false)
    (ready : c.locals.feedbackReady = c'.locals.feedbackReady)
    (after : (sec.exec P noThrow now c).hw.feedbackFaultLatched = false)
    (after' : (sec.exec P noThrow now c').hw.feedbackFaultLatched = false)
    (outcome : (sec.exec P noThrow now c).locals.feedbackReady =
      (sec.exec P noThrow now c').locals.feedbackReady) :
    AgreeControl axis (sec.exec P noThrow now c) (sec.exec P noThrow now c') := by
  cases sec with
  | deactivate => exact { agree with active := rfl }
  | clearLatch | clearStaleReported | stopExecutor => exact { agree with }
  | clearCommands => exact { agree with effortCommands := rfl, activeDirection := rfl }
  | resetFeedback =>
      exact { agree with
        feedback := rfl, feedbackVelocity := rfl, positionStates := rfl, velocityStates := rfl }
  | startExecutor starts =>
      simp only [Section.exec]
      split <;> split <;> (try split) <;> exact { agree with }
  | publishZeroToAllAxes => exact agree_zeroing agree
  | waitForFeedback =>
      simp only [Section.exec] at outcome ⊢
      cases fresh : allFeedbackIsFreshLocked P now c.hw <;>
        cases fresh' : allFeedbackIsFreshLocked P now c'.hw <;>
        simp only [fresh, fresh', if_true, if_false, Bool.false_eq_true, reduceCtorEq] at outcome ⊢
      · exact { agree with }
      · refine { agree with
          active := rfl, feedbackVelocity := ?_, positionStates := ?_, velocityStates := ?_ }
        · simp only [copyFeedbackToStatesLocked, agree.feedback, agree.feedbackVelocity]
        · simp only [copyFeedbackToStatesLocked, agree.feedback, agree.positionStates]
        · simp only [copyFeedbackToStatesLocked, agree.feedback, agree.velocityStates]
  | refuseUnlessReady =>
      simp only [Section.exec, ready]
      split
      · exact agree
      · exact { agree_zeroing agree with }
  | readFeedback => exact agree_readFeedback agree
  | latchVelocityFault =>
      rw [Section.exec, Section.exec, latchVelocityFault_unlatched after,
        latchVelocityFault_unlatched after']
      exact agree
  | writeSnapshot =>
      refine { agree with feedbackPositions := ?_ }
      simp only [Section.exec, writeSnapshot, agree.feedback]
  | writeTest =>
      rw [Section.exec, Section.exec, writeTest_unlatched after, writeTest_unlatched after']
      exact { agree with outputEnabled := agree.active }
  | writePublish => exact agree_writePublish agree before before'

end Exec

/-! ## One step, and two runs -/

section Run

variable {P : Parameters} {axis : Axis} {σ σ' τ τ' : Machine}

/-- An invalidation that does not end latched finds the hardware inactive. -/
theorem invalidateFeedback_unlatched {other : Axis} {s : LeverHardware}
    (unlatched : (invalidateFeedback noThrow other s).feedbackFaultLatched = false) :
    invalidateFeedback noThrow other s =
      { s with feedback := Function.update s.feedback other {} } := by
  apply invalidateFeedback_inactive
  rw [← Bool.not_eq_true]
  intro active
  rw [invalidateFeedback_active active] at unlatched
  cases unlatched

/-- The executor thread takes another axis's message. -/
theorem agree_deliver_other {now : Time} {other : Axis} {message : Option Double}
    (apart : axis ≠ other)
    (moved : Moved P noThrow now σ (.deliver (.feedback other message)) τ)
    (unlatched : τ.hw.feedbackFaultLatched = false) :
    AgreeControl axis σ.control τ.control ∧ τ.pending = σ.pending ∧
      ∀ positionRad stamp, τ.stamped ≠ some (axis, positionRad, stamp) := by
  cases moved with
  | invalidate running free rejected =>
      simp only [invalidateFeedback_unlatched unlatched]
      exact ⟨.update_feedback apart _ _, trivial, by simp [free]⟩
  | stamp running free accepted =>
      refine ⟨.refl axis _, rfl, ?_⟩
      intro positionRad stamp same
      exact apart (congrArg Prod.fst (Option.some.inj same)).symm

/-- The executor thread takes a message of the axis, the same in both runs. -/
theorem agree_deliver_same {now : Time} {message : Option Double} (agree : Agree axis σ σ')
    (moved : Moved P noThrow now σ (.deliver (.feedback axis message)) τ)
    (moved' : Moved P noThrow now σ' (.deliver (.feedback axis message)) τ')
    (comparable : Comparable τ τ') : Agree axis τ τ' := by
  cases moved with
  | invalidate running free rejected =>
      cases moved' with
      | invalidate running' free' rejected' =>
          refine ⟨?_, agree.pending, agree.stamped, comparable⟩
          simp only [invalidateFeedback_unlatched comparable.unlatched,
            invalidateFeedback_unlatched comparable.unlatched']
          exact { agree.control with feedback := by simp }
      | stamp running' free' accepted' => rw [rejected] at accepted'; cases accepted'
  | stamp running free accepted =>
      cases moved' with
      | invalidate running' free' rejected' => rw [rejected'] at accepted; cases accepted
      | stamp running' free' accepted' =>
          obtain rfl := Option.some.inj (accepted.symm.trans accepted')
          exact ⟨agree.control, agree.pending, fun _ _ => Iff.rfl, comparable⟩

/-- The executor thread stores what it stamped: a sample of the axis in both runs, or
another axis's in each. -/
theorem agree_store {now : Time} (agree : Agree axis σ σ')
    (moved : Moved P noThrow now σ .store τ) (moved' : Moved P noThrow now σ' .store τ')
    (comparable : Comparable τ τ') : Agree axis τ τ' := by
  cases moved with
  | @store other positionRad stamp holding =>
  cases moved' with
  | @store other' positionRad' stamp' holding' =>
      refine ⟨?_, agree.pending, fun _ _ => Iff.rfl, comparable⟩
      by_cases this : axis = other
      · subst this
        have held := (agree.stamped positionRad stamp).mp holding
        obtain ⟨rfl, rfl, rfl⟩ : axis = other' ∧ positionRad = positionRad' ∧ stamp = stamp' := by
          simpa using held.symm.trans holding'
        exact { agree.control with feedback := by simp [storeSample] }
      · have apart : axis ≠ other' := by
          rintro rfl
          have held := (agree.stamped positionRad' stamp').mpr holding'
          exact this (congrArg Prod.fst (Option.some.inj (held.symm.trans holding)))
        exact ((AgreeControl.update_feedback this _ _).symm.trans agree.control).trans
          (.update_feedback apart _ _)

/-- **One step of both runs.** -/
theorem agree_step {event event' : Time × Label} (agree : Agree axis σ σ')
    (alike : AlikeOn axis event event')
    (taken : step P noThrow σ event = some τ) (taken' : step P noThrow σ' event' = some τ')
    (comparable : Comparable τ τ') : Agree axis τ τ' := by
  obtain ⟨now, label⟩ := event
  obtain ⟨now', label'⟩ := event'
  obtain ⟨times, labels⟩ := alike
  obtain rfl : now = now' := times
  obtain ⟨-, μ, moved, rfl⟩ := moved_of_step taken
  obtain ⟨-, μ', moved', rfl⟩ := moved_of_step taken'
  simp only at labels moved moved'
  have compared : Comparable μ μ' :=
    ⟨comparable.unlatched, comparable.unlatched', comparable.outcome⟩
  suffices same : Agree axis μ μ' from ⟨same.control, same.pending, same.stamped, comparable⟩
  clear taken taken' comparable
  cases labels with
  | call op =>
      cases moved
      cases moved'
      exact ⟨{ agree.control with feedbackPositions := rfl, outputEnabled := rfl }, rfl,
        agree.stamped, compared⟩
  | advance =>
      cases moved with
      | advance pending joined =>
      cases moved' with
      | advance pending' joined' =>
          obtain ⟨rfl, rfl⟩ := List.cons.inj (pending.symm.trans (agree.pending.trans pending'))
          exact ⟨agree_exec agree.control agree.comparable.unlatched agree.comparable.unlatched'
            agree.comparable.outcome compared.unlatched compared.unlatched' compared.outcome,
            rfl, agree.stamped, compared⟩
  | assignEffort other same =>
      cases moved
      cases moved'
      refine ⟨{ agree.control with effortCommands := ?_ }, agree.pending, agree.stamped, compared⟩
      by_cases this : other = axis
      · subst this
        simp [same rfl]
      · simpa [Function.update_of_ne (Ne.symm this)] using agree.control.effortCommands
  | @feedback other message message' same =>
      by_cases this : axis = other
      · subst this
        obtain rfl := same rfl
        exact agree_deliver_same agree moved moved' compared
      · obtain ⟨left, pending, free⟩ := agree_deliver_other this moved compared.unlatched
        obtain ⟨right, pending', free'⟩ := agree_deliver_other this moved' compared.unlatched'
        exact ⟨left.symm.trans (agree.control.trans right),
          pending.trans (agree.pending.trans pending'.symm),
          fun _ _ => iff_of_false (free _ _) (free' _ _), compared⟩
  | mask same =>
      cases moved
      cases moved'
      refine ⟨{ agree.control with enabled := ?_ }, agree.pending, agree.stamped, compared⟩
      simp only [activeAxisMaskCallback, axisEnabled_kAllAxesMask, same]
  | store => exact agree_store agree moved moved' compared

/-- **Axes do not interfere.**  Two runs of the two threads take the same steps at the
same times, alike on one axis.  If no publish throws, neither run ever has the latch
set, and every `on_activate` comes to the same in both, then after every step the
messages on the axis's lever topic, its position state and its velocity state are the
same, whatever the other axes are sent. -/
theorem axis_isolated {stod : Stod} {baseOk : Bool} {info : HardwareInfo} {indices : List Axis}
    {hw : LeverHardware} {clock : Time} {events events' : List (Time × Label)}
    (init : onInit stod baseOk info = .ok (P, indices, hw))
    (alike : List.Forall₂ (AlikeOn axis) events events')
    (unlatched : ∀ μ ∈ trace (step P noThrow) (Machine.start clock hw) events,
      μ.hw.feedbackFaultLatched = false)
    (unlatched' : ∀ μ ∈ trace (step P noThrow) (Machine.start clock hw) events',
      μ.hw.feedbackFaultLatched = false)
    (outcomes : (trace (step P noThrow) (Machine.start clock hw) events).map
        (·.locals.feedbackReady) =
      (trace (step P noThrow) (Machine.start clock hw) events').map (·.locals.feedbackReady)) :
    (trace (step P noThrow) (Machine.start clock hw) events).map (axisView axis) =
      (trace (step P noThrow) (Machine.start clock hw) events').map (axisView axis) := by
  obtain ⟨-, -, rfl⟩ := onInit_eq_ok init
  have meets : List.Forall₂ Comparable
      (trace (step P noThrow) (Machine.start clock (initialHardware P)) events)
      (trace (step P noThrow) (Machine.start clock (initialHardware P)) events') := by
    rw [← List.forall₂_eq_eq_eq, List.forall₂_map_left_iff, List.forall₂_map_right_iff] at outcomes
    refine List.forall₂_iff_zip.mpr ⟨outcomes.length_eq, ?_⟩
    intro μ μ' both
    obtain ⟨member, member'⟩ := List.of_mem_zip both
    exact ⟨unlatched _ member, unlatched' _ member', List.forall₂_zip outcomes both⟩
  have agree := trace_forall₂ (fun _ _ _ _ _ _ => agree_step) alike meets (agree_start axis clock)
  rw [← List.forall₂_eq_eq_eq, List.forall₂_map_left_iff, List.forall₂_map_right_iff]
  apply agree.imp
  intro μ μ' same
  simp only [axisView, same.control.messages, same.control.positionStates,
    same.control.velocityStates]

/-- Efforts on the boom and the arm and a message on the arm, then a `write` and a `read`. -/
def busyRun (effort angle : Double) : List (Time × Label) :=
  activation ++ ([(0, .assignEffort 2 effort), (0, .deliver (.feedback 2 (some angle)))] ++
    [(0, .assignEffort 1 (50 : ℚ)), (0, .store), (0, .call .write), (0, .advance), (0, .advance),
      (0, .advance), (0, .call .read), (0, .advance), (0, .advance)])

theorem alikeOn_busyRun (effort angle effort' angle' : Double) :
    List.Forall₂ (AlikeOn 1) (busyRun effort angle) (busyRun effort' angle') := by
  have same (events : List (Time × Label)) : List.Forall₂ (AlikeOn 1) events events :=
    List.forall₂_same.mpr fun event _ => .refl 1 event
  refine List.rel_append (same _) (List.rel_append ?_ (same _))
  refine .cons ⟨rfl, ?_⟩ (.cons ⟨rfl, ?_⟩ .nil)
  · exact .assignEffort 2 fun same => absurd same (by decide)
  · exact .feedback 2 fun same => absurd same (by decide)

theorem axis_isolated_boom :
    (trace (step defaultParameters noThrow) (Machine.start 0 (initialHardware defaultParameters))
        (busyRun (0 : ℚ) (90 : ℚ))).map (axisView 1) =
      (trace (step defaultParameters noThrow) (Machine.start 0 (initialHardware defaultParameters))
        (busyRun (-30 : ℚ) (60 : ℚ))).map (axisView 1) ∧
    ∃ μ ∈ trace (step defaultParameters noThrow)
        (Machine.start 0 (initialHardware defaultParameters)) (busyRun (0 : ℚ) (90 : ℚ)),
      (messagesOn 1 μ.hw.attempts).head? = some (Double.finite (-50)) := by
  refine ⟨?_, by decide +kernel⟩
  exact axis_isolated (onInit_unset fun _ => .ok (.nan, 0)) (alikeOn_busyRun _ _ _ _)
    (by decide +kernel) (by decide +kernel) (by decide +kernel)

end Run

end Tb20e.Hardware
