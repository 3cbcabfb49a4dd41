/-
# Hardware.FaultLatch -- a fault zeroes every lever, under every interleaving

While the hardware is active three things are faults: the executor thread
invalidating an axis, `read` getting a fault from the velocity estimator, and
`write` finding stale feedback or a non-finite effort (`Faults`).  The invariant
that carries the result is `Quenched`, which holds from a fault until an
`on_activate` succeeds:

* `shut`: the latch is set, or the hardware is inactive and no publish section
  with enabled output is left, or `read` is about to latch;
* `zeros`: every publish call since the fault was a zero;
* `settled`: every lever topic carries zero, or the call that found the fault
  still has its last section to run.

A write that passed its test before the fault is covered by the first case of
`shut`: the publish loop looks at the latch again for every axis.
-/
import Tb20e.Hardware.Threads

namespace Tb20e.Hardware

set_option autoImplicit false

open Tb20e.Theory Tb20e.Control
open Tb20e.Theory (Double)

/-- No publish call throws. -/
def noThrow : ℕ → Bool := fun _ => false

/-- A step that finds a fault while the hardware is active. -/
def Faults (P : Parameters) (σ : Machine) (now : Time) : Label → Prop
  | .deliver (.feedback axis message) =>
      σ.hw.active = true ∧ acceptedPosition P axis message = none
  | .advance =>
      σ.hw.active = true ∧
        ((σ.pending.head? = some .readFeedback ∧
            ∃ axis, (readVelocity P now σ.hw axis).2 = true) ∨
          (σ.pending.head? = some .writeTest ∧
            ∃ axis, σ.locals.fresh axis = false ∨ (σ.hw.effortCommands axis).isFinite = false))
  | _ => False

/-- A step that ends the wait of `on_activate` with success. -/
def activates (P : Parameters) (σ : Machine) (event : Time × Label) : Bool :=
  match event.2, σ.pending with
  | .advance, .waitForFeedback :: _ => allFeedbackIsFreshLocked P event.1 σ.hw
  | _, _ => false

/-- The steps of the machine, up to the next successful `on_activate`. -/
def stepUntilActivation (P : Parameters) (throws : ℕ → Bool) (σ : Machine)
    (event : Time × Label) : Option Machine :=
  if activates P σ event then none else step P throws σ event

theorem step_of_stepUntilActivation {P : Parameters} {throws : ℕ → Bool} {σ τ : Machine}
    {event : Time × Label} (taken : stepUntilActivation P throws σ event = some τ) :
    step P throws σ event = some τ := by
  simp only [stepUntilActivation, Option.ite_none_left_eq_some] at taken
  exact taken.2

/-- The call under way has come to its end at some state of a run. -/
def Finishes (P : Parameters) (throws : ℕ → Bool) (σ : Machine) (events : List (Time × Label)) :
    Prop :=
  ∃ first second τ, events = first ++ second ∧
    runs (stepUntilActivation P throws) σ first = some τ ∧ τ.pending = []

/-- Every lever topic carries zero. -/
def Settled (σ : Machine) : Prop := ∀ axis, lastMessage σ.hw.attempts axis = some 0

/-- Nothing that can publish a nonzero lever is left. -/
inductive Shut (σ : Machine) : Prop
  | latched (latched : σ.hw.feedbackFaultLatched = true)
  | inactive (inactive : σ.hw.active = false)
      (disabled : σ.pending = [.writePublish] → σ.locals.outputEnabled = false)
  | latching (pending : σ.pending = [.latchVelocityFault]) (active : σ.hw.active = true)
      (fault : axes.any σ.locals.velocityFault = true)

/-- What holds from a fault on, `before` being the publish calls up to it. -/
structure Quenched (before : List Attempt) (σ : Machine) : Prop where
  good : WellFormed σ
  shut : Shut σ
  zeros : ∃ calls, σ.hw.attempts = calls ++ before ∧ AllZero noThrow calls
  settled : Settled σ ∨ σ.pending = [.latchVelocityFault] ∧ axes.any σ.locals.velocityFault = true ∧
    σ.hw.active = true ∨ σ.pending = [.writePublish]

/-! ## The record of publish calls -/

theorem noThrow_quiet (n : ℕ) : noThrow n = false := rfl

theorem zeros_append {throws : ℕ → Bool} {before calls attempts : List Attempt}
    (zero : AllZero throws calls)
    (earlier : ∃ old, attempts = old ++ before ∧ AllZero throws old) :
    ∃ new, calls ++ attempts = new ++ before ∧ AllZero throws new := by
  obtain ⟨old, rfl, oldZero⟩ := earlier
  exact ⟨calls ++ old, by simp, allZero_append.mpr ⟨zero, oldZero⟩⟩

/-- Zeroing leaves every topic at zero. -/
theorem settled_zeroCalls {publishers : Axis → Bool} (all : ∀ axis, publishers axis = true)
    (calls : List Attempt) (n : ℕ) (axis : Axis) :
    lastMessage (zeroCalls noThrow publishers axes n ++ calls) axis = some 0 :=
  lastMessage_of_called noThrow_quiet (allZero_zeroCalls noThrow _ _ _)
    (exists_mem_zeroCalls noThrow (all axis) (mem_axes axis) n)

/-- A publish loop that is shut leaves every topic at zero. -/
theorem settled_loopCalls {P : Parameters} {c : Control}
    (shut : c.locals.outputEnabled = false ∨ c.hw.feedbackFaultLatched = true)
    (calls : List Attempt) (axis : Axis) :
    lastMessage (loopCalls P noThrow c ++ calls) axis = some 0 :=
  lastMessage_of_called noThrow_quiet (allZero_loopCalls P shut)
    (exists_mem_loopCalls P noThrow c axis)

/-! ## What keeps the machine shut

Which publish calls throw makes no difference to this part. -/

section Shut

variable {P : Parameters} {throws : ℕ → Bool} {σ τ : Machine}

/-- Only a successful `on_activate` and `on_configure` clear the latch. -/
theorem exec_latched {now : Time} {sec : Section} {c : Control}
    (latched : c.hw.feedbackFaultLatched = true) (keeps : sec ≠ .clearLatch)
    (waits : sec = .waitForFeedback → allFeedbackIsFreshLocked P now c.hw = false) :
    (sec.exec P throws now c).hw.feedbackFaultLatched = true := by
  cases sec with
  | waitForFeedback => simpa [Section.exec, waits rfl] using latched
  | clearLatch => exact absurd rfl keeps
  | startExecutor | refuseUnlessReady | latchVelocityFault | writeTest | writePublish =>
      simp only [Section.exec, latchVelocityFault, writeTest, writePublish_eq,
        latchFaultAndPublishZero, publishZeroToAllAxesLocked_eq]
      split <;> (try split) <;> first | rfl | exact latched
  | deactivate | clearCommands | clearStaleReported | resetFeedback | stopExecutor | readFeedback
  | writeSnapshot => exact latched
  | publishZeroToAllAxes => simpa [Section.exec] using latched

/-- A `read` that has a fault in its locals latches it while active. -/
theorem latchVelocityFault_hw {c : Control} (active : c.hw.active = true)
    (fault : axes.any c.locals.velocityFault = true) :
    (latchVelocityFault throws c).hw =
      { c.hw with
        feedbackFaultLatched := true
        attempts := zeroCalls throws c.hw.commandPublishers axes c.hw.attempts.length ++
          c.hw.attempts } := by
  have latches : (c.hw.active && axes.any c.locals.velocityFault) = true := by
    rw [active, fault]; rfl
  simp only [latchVelocityFault]
  rw [if_pos latches]
  simp only [latchFaultAndPublishZero, publishZeroToAllAxesLocked_eq]
  rw [if_pos active]

/-- A test of `write` that fails while active latches. -/
theorem writeTest_hw {c : Control} (active : c.hw.active = true)
    (bad : ∃ axis, c.locals.fresh axis = false ∨ (c.hw.effortCommands axis).isFinite = false) :
    (writeTest c).hw = { c.hw with feedbackFaultLatched := true } := by
  obtain ⟨axis, bad⟩ := bad
  have notAll : (axes.all c.locals.fresh && axes.all fun axis =>
      (c.hw.effortCommands axis).isFinite) = false := by
    rw [Bool.eq_false_iff, Ne, Bool.and_eq_true, all_axes_iff, all_axes_iff]
    rintro ⟨fresh, finite⟩
    rcases bad with stale | nonFinite
    · rw [fresh axis] at stale
      cases stale
    · rw [finite axis] at nonFinite
      cases nonFinite
  have latches : (c.hw.active && (!axes.all c.locals.fresh ||
      !axes.all fun axis => (c.hw.effortCommands axis).isFinite)) = true := by
    rw [active, ← Bool.not_and, notAll]
    rfl
  simp only [writeTest]
  rw [if_pos latches]

/-- An invalidation while active latches and zeroes. -/
theorem invalidateFeedback_active {axis : Axis} {s : LeverHardware} (active : s.active = true) :
    invalidateFeedback throws axis s =
      { s with
        feedback := Function.update s.feedback axis {}
        feedbackFaultLatched := true
        attempts := zeroCalls throws s.commandPublishers axes s.attempts.length ++ s.attempts } := by
  simp only [invalidateFeedback, publishZeroToAllAxesLocked_eq]
  rw [if_pos active]

/-- An invalidation while inactive only clears the sample. -/
theorem invalidateFeedback_inactive {axis : Axis} {s : LeverHardware} (inactive : s.active = false) :
    invalidateFeedback throws axis s =
      { s with feedback := Function.update s.feedback axis {} } := by
  simp only [invalidateFeedback]
  rw [if_neg (by simp [inactive])]

/-- **A shut machine stays shut** up to the next successful `on_activate`: a call
that clears the latch has deactivated, and the test of a later `write` sees it. -/
theorem shut_step {event : Time × Label} (sequenced : Sequenced σ) (shut : Shut σ)
    (taken : stepUntilActivation P throws σ event = some τ) : Shut τ := by
  obtain ⟨notActivating, taken⟩ : activates P σ event = false ∧ step P throws σ event = some τ := by
    simpa [stepUntilActivation] using taken
  obtain ⟨now, label⟩ := event
  obtain ⟨-, τ', moved, rfl⟩ := moved_of_step taken
  cases moved with
  | @call op idle =>
      rcases shut with latched | ⟨inactive, -⟩ | ⟨owed, -⟩
      · exact .latched latched
      · exact .inactive inactive fun left => absurd left (sections_ne_writePublish op)
      · rw [idle] at owed; cases owed
  | @advance sec rest pending joined =>
      have underway := sequenced.underway
      rw [pending] at underway
      have waits (this : sec = .waitForFeedback) : allFeedbackIsFreshLocked P now σ.hw = false := by
        simpa [activates, pending, this] using notActivating
      rcases shut with latched | ⟨inactive, -⟩ | ⟨owed, active, fault⟩
      · by_cases clears : sec = .clearLatch
        · subst clears
          refine .inactive (sequenced.deactivated _ rest pending rfl) fun (left : rest = _) => ?_
          rw [left] at underway
          cases writeTest_of_writePublish_left underway
        · exact .latched (exec_latched latched clears waits)
      · refine .inactive (exec_inactive inactive waits) fun (left : rest = _) => ?_
        rw [left] at underway
        obtain rfl := writeTest_of_writePublish_left underway
        simp [Section.exec, writeTest, inactive]
      · obtain ⟨rfl, -⟩ := List.cons.inj (pending.symm.trans owed)
        exact .latched
          (congrArg LeverHardware.feedbackFaultLatched (latchVelocityFault_hw active fault))
  | @invalidate axis message running free rejected =>
      cases active : σ.hw.active with
      | true =>
          exact .latched
            (congrArg LeverHardware.feedbackFaultLatched (invalidateFeedback_active active))
      | false =>
          rw [invalidateFeedback_inactive active]
          rcases shut with latched | ⟨inactive, disabled⟩ | ⟨-, stillActive, -⟩
          · exact .latched latched
          · exact .inactive inactive disabled
          · rw [active] at stillActive; cases stillActive
  | assignEffort | stamp | mask | store =>
      rcases shut with latched | ⟨inactive, disabled⟩ | ⟨owed, active, fault⟩
      · exact .latched latched
      · exact .inactive inactive disabled
      · exact .latching owed active fault

/-- The publish loop of a shut machine is closed, by the latch or by the test. -/
theorem closed_of_shut (shut : Shut σ) (pending : σ.pending = [.writePublish]) :
    σ.locals.outputEnabled = false ∨ σ.hw.feedbackFaultLatched = true := by
  rcases shut with latched | ⟨-, disabled⟩ | ⟨owed, -⟩
  · exact .inr latched
  · exact .inl (disabled pending)
  · rw [pending] at owed; cases owed

/-- A section publishes only zeros, unless it is a publish loop that is open. -/
theorem exec_zeros {now : Time} {sec : Section} {c : Control}
    (closed : sec = .writePublish →
      c.locals.outputEnabled = false ∨ c.hw.feedbackFaultLatched = true) :
    ∃ calls, (sec.exec P throws now c).hw.attempts = calls ++ c.hw.attempts ∧
      AllZero throws calls := by
  have silent : ∃ calls, c.hw.attempts = calls ++ c.hw.attempts ∧ AllZero throws calls :=
    ⟨[], rfl, by simp [AllZero]⟩
  have zeroed (n : ℕ) : ∃ calls, zeroCalls throws c.hw.commandPublishers axes n ++ c.hw.attempts =
      calls ++ c.hw.attempts ∧ AllZero throws calls :=
    ⟨_, rfl, allZero_zeroCalls throws _ _ _⟩
  cases sec with
  | deactivate | clearLatch | clearCommands | clearStaleReported | resetFeedback | stopExecutor
  | readFeedback | writeSnapshot => exact silent
  | startExecutor | waitForFeedback | writeTest =>
      simp only [Section.exec, writeTest]
      split <;> (try split) <;> exact silent
  | publishZeroToAllAxes =>
      simp only [Section.exec, publishZeroToAllAxesLocked_eq]
      exact zeroed _
  | refuseUnlessReady | latchVelocityFault =>
      simp only [Section.exec, latchVelocityFault, latchFaultAndPublishZero,
        publishZeroToAllAxesLocked_eq]
      split <;> (try split) <;> first | exact silent | exact zeroed _
  | writePublish =>
      have loop : AllZero throws (loopCalls P throws c) := allZero_loopCalls P (closed rfl)
      simp only [Section.exec, writePublish_eq, publishZeroToAllAxesLocked_eq]
      split
      · exact ⟨_ ++ loopCalls P throws c, by rw [List.append_assoc],
          allZero_append.mpr ⟨allZero_zeroCalls throws _ _ _, loop⟩⟩
      · exact ⟨_, rfl, loop⟩

/-- **A step publishes only zeros**, unless it is a publish loop that is open. -/
theorem zeros_step {event : Time × Label} (sequenced : Sequenced σ)
    (closed : σ.pending = [.writePublish] →
      σ.locals.outputEnabled = false ∨ σ.hw.feedbackFaultLatched = true)
    (taken : step P throws σ event = some τ) :
    ∃ calls, τ.hw.attempts = calls ++ σ.hw.attempts ∧ AllZero throws calls := by
  obtain ⟨now, label⟩ := event
  obtain ⟨-, τ', moved, rfl⟩ := moved_of_step taken
  cases moved with
  | @advance sec rest pending joined =>
      refine exec_zeros ?_
      rintro rfl
      have underway := sequenced.underway
      rw [pending] at underway
      exact closed (by rw [pending, writePublish_rest underway])
  | @invalidate axis message running free rejected =>
      cases active : σ.hw.active with
      | true =>
          rw [invalidateFeedback_active active]
          exact ⟨_, rfl, allZero_zeroCalls throws _ _ _⟩
      | false =>
          rw [invalidateFeedback_inactive active]
          exact ⟨[], rfl, by simp [AllZero]⟩
  | call | assignEffort | stamp | mask | store => exact ⟨[], rfl, by simp [AllZero]⟩

end Shut

/-! ## One step, and a run -/

section Run

variable {P : Parameters} {before : List Attempt} {σ τ : Machine}

/-- A call that still owes its last section puts every topic at zero there. -/
theorem settled_advance {now : Time} {sec : Section} {rest : List Section}
    (q : Quenched before σ) (pending : σ.pending = sec :: rest) :
    Settled σ ∨
      ∀ axis, lastMessage (sec.exec P noThrow now σ.control).hw.attempts axis = some 0 := by
  rcases q.settled with done | ⟨owed, fault, active⟩ | owed
  · exact .inl done
  · obtain ⟨rfl, -⟩ := List.cons.inj (pending.symm.trans owed)
    right
    intro axis
    rw [show Section.latchVelocityFault.exec P noThrow now σ.control =
      latchVelocityFault noThrow σ.control from rfl, latchVelocityFault_hw active fault]
    exact settled_zeroCalls q.good.publishers _ _ axis
  · obtain ⟨rfl, -⟩ := List.cons.inj (pending.symm.trans owed)
    right
    intro axis
    have attempts : (writePublish P noThrow σ.control).hw.attempts =
        loopCalls P noThrow σ.control ++ σ.hw.attempts := by
      simp only [writePublish_eq, any_threw_loopCalls P noThrow_quiet, Bool.false_eq_true, if_false]
    rw [show Section.writePublish.exec P noThrow now σ.control =
      writePublish P noThrow σ.control from rfl, attempts]
    exact settled_loopCalls (closed_of_shut q.shut owed) _ axis

/-- **One step while quenched**, up to the next successful `on_activate`. -/
theorem quenched_step {event : Time × Label} (q : Quenched before σ)
    (taken : stepUntilActivation P noThrow σ event = some τ) :
    Quenched before τ ∧ (Settled σ → Settled τ) := by
  have shut := shut_step q.good.sequenced q.shut taken
  replace taken : step P noThrow σ event = some τ := step_of_stepUntilActivation taken
  obtain ⟨calls, same, zero⟩ := zeros_step q.good.sequenced (closed_of_shut q.shut) taken
  have keep : Settled σ → Settled τ := fun old axis => by
    rw [same]; exact lastMessage_append_allZero zero (old axis)
  have zeros : ∃ calls, τ.hw.attempts = calls ++ before ∧ AllZero noThrow calls := by
    rw [same]; exact zeros_append zero q.zeros
  refine ⟨⟨wellFormed_step q.good taken, shut, zeros, ?_⟩, keep⟩
  -- Only a call's own last section may still be owed, and only that section pays it.
  obtain ⟨now, label⟩ := event
  obtain ⟨-, τ', moved, rfl⟩ := moved_of_step taken
  cases moved with
  | call idle | assignEffort idle => exact .inl (keep (by simpa [idle] using q.settled))
  | advance pending joined => exact .inl ((settled_advance q pending).elim keep id)
  | @invalidate axis message running free rejected =>
      rcases q.settled with done | ⟨-, -, active⟩ | owed
      · exact .inl (keep done)
      · left
        intro topic
        rw [Machine.hw, invalidateFeedback_active active]
        exact settled_zeroCalls q.good.publishers _ _ topic
      · exact .inr (.inr owed)
  | stamp | mask | store => exact q.settled

theorem quenched_run {events : List (Time × Label)} (q : Quenched before σ)
    (run : runs (stepUntilActivation P noThrow) σ events = some τ) :
    Quenched before τ ∧ (Settled σ → Settled τ) :=
  runs_invariant (I := fun ρ => Quenched before ρ ∧ (Settled σ → Settled ρ))
    (fun _ _ _ inv taken =>
      have next := quenched_step inv.1 taken
      ⟨next.1, next.2 ∘ inv.2⟩)
    run ⟨q, id⟩

/-! ## The latch is held -/

/-- The latch is set, or the hardware is inactive. -/
def Held (σ : Machine) : Prop := σ.hw.feedbackFaultLatched = true ∨ σ.hw.active = false

/-- Once held, the machine stays held: `on_configure` clears the latch, but it has
deactivated first. -/
theorem held_step {event : Time × Label} (good : WellFormed σ) (held : Held σ)
    (taken : stepUntilActivation P noThrow σ event = some τ) : Held τ := by
  obtain ⟨notActivating, taken⟩ : activates P σ event = false ∧ step P noThrow σ event = some τ := by
    simpa [stepUntilActivation] using taken
  obtain ⟨now, label⟩ := event
  obtain ⟨-, τ', moved, rfl⟩ := moved_of_step taken
  cases moved with
  | call | assignEffort | stamp | mask | store => exact held
  | @invalidate axis message running free rejected =>
      cases active : σ.hw.active with
      | true =>
          exact .inl (congrArg LeverHardware.feedbackFaultLatched (invalidateFeedback_active active))
      | false =>
          rw [Held, Machine.hw, invalidateFeedback_inactive active]
          exact .inr active
  | @advance sec rest pending joined =>
      have waits (this : sec = .waitForFeedback) : allFeedbackIsFreshLocked P now σ.hw = false := by
        simpa [activates, pending, this] using notActivating
      rcases held with latched | inactive
      · by_cases clears : sec = .clearLatch
        · subst clears
          exact .inr (good.deactivated _ rest pending rfl)
        · exact .inl (exec_latched latched clears waits)
      · exact .inr (exec_inactive inactive waits)

theorem held_run {events : List (Time × Label)} (good : WellFormed σ) (held : Held σ)
    (run : runs (stepUntilActivation P noThrow) σ events = some τ) : Held τ := by
  refine (runs_invariant (I := fun ρ => WellFormed ρ ∧ Held ρ) ?_ run ⟨good, held⟩).2
  intro ρ event ρ' inv taken
  have stepped := step_of_stepUntilActivation taken
  exact ⟨wellFormed_step inv.1 stepped, held_step inv.1 inv.2 taken⟩

/-- With nothing left of the call to run, being shut is being held. -/
theorem held_of_idle (q : Quenched before σ) (idle : σ.pending = []) : Held σ := by
  rcases q.shut with latched | ⟨inactive, -⟩ | ⟨owed, -⟩
  · exact .inl latched
  · exact .inr inactive
  · rw [idle] at owed; cases owed

/-- When the call under way has ended every topic is at zero. -/
theorem settled_of_idle (q : Quenched before σ) (idle : σ.pending = []) : Settled σ := by
  simpa [idle] using q.settled

/-- **A fault quenches**: the step that finds it leaves the invariant in force. -/
theorem quenched_of_fault {now : Time} {label : Label} (good : WellFormed σ)
    (fault : Faults P σ now label) (taken : step P noThrow σ (now, label) = some τ) :
    Quenched σ.hw.attempts τ ∧ (label ≠ .advance → Settled τ ∧ Held τ) := by
  have goodAfter := wellFormed_step good taken
  obtain ⟨-, τ', moved, rfl⟩ := moved_of_step taken
  cases moved with
  | call idle => exact fault.elim
  | assignEffort idle => exact fault.elim
  | mask running free subscribed => exact fault.elim
  | store holding => exact fault.elim
  | stamp running free accepted => rw [fault.2] at accepted; cases accepted
  | @invalidate axis message running free rejected =>
      rw [invalidateFeedback_active fault.1] at goodAfter ⊢
      have settled : Settled { σ with
          clock := now
          control.hw := { σ.hw with
            feedback := Function.update σ.hw.feedback axis {}
            feedbackFaultLatched := true
            attempts := zeroCalls noThrow σ.hw.commandPublishers axes σ.hw.attempts.length ++
              σ.hw.attempts } } :=
        fun axis => settled_zeroCalls good.publishers _ _ axis
      exact ⟨⟨goodAfter, .latched rfl, ⟨_, rfl, allZero_zeroCalls noThrow _ _ _⟩, .inl settled⟩,
        fun _ => ⟨settled, .inl rfl⟩⟩
  | @advance sec rest pending joined =>
      refine ⟨?_, fun notAdvance => absurd rfl notAdvance⟩
      obtain ⟨active, ⟨reads, axis, faulty⟩ | ⟨tests, axis, bad⟩⟩ := fault
      · -- `read` has the fault in its locals and latches in its next section.
        obtain rfl : sec = .readFeedback := by simpa [pending] using reads
        have underway := good.underway
        rw [pending] at underway
        obtain rfl := readFeedback_rest underway
        have any : axes.any (fun axis => (readVelocity P now σ.hw axis).2) = true :=
          any_axes_iff.mpr ⟨axis, faulty⟩
        exact ⟨goodAfter, .latching rfl active any, ⟨[], rfl, by simp [AllZero]⟩,
          .inr (.inl ⟨rfl, any, active⟩)⟩
      · -- `write` latches in its test and publishes zeros in its last section.
        obtain rfl : sec = .writeTest := by simpa [pending] using tests
        have underway := good.underway
        rw [pending] at underway
        obtain rfl := writeTest_rest underway
        have tested := writeTest_hw (c := σ.control) active ⟨axis, bad⟩
        refine ⟨goodAfter, .latched ?_, ⟨[], ?_, by simp [AllZero]⟩, .inr (.inr rfl)⟩
        · exact congrArg LeverHardware.feedbackFaultLatched tested
        · show (writeTest σ.control).hw.attempts = [] ++ σ.hw.attempts
          rw [tested]
          rfl

/-- Every reachable machine is well formed. -/
theorem wellFormed_reachable {stod : Stod} {baseOk : Bool} {info : HardwareInfo}
    {indices : List Axis} {hw : LeverHardware} {clock : Time} {throws : ℕ → Bool}
    {events : List (Time × Label)} (init : onInit stod baseOk info = .ok (P, indices, hw))
    (reached : runs (step P throws) (Machine.start clock hw) events = some σ) : WellFormed σ := by
  obtain ⟨-, -, rfl⟩ := onInit_eq_ok init
  exact runs_invariant (fun _ _ _ good taken => wellFormed_step good taken) reached
    (wellFormed_start P clock)

/-- **Fault latching over whole runs.**  From any state that a run of the two
threads reaches after a successful `on_init`, let a step find a fault while the
hardware is active.  Until an `on_activate` succeeds, every message published
from that step on is zero; and once the operation that found the fault has
finished, the last message on all four lever topics is zero, and the latch is
set or the hardware has been deactivated. -/
theorem fault_zeroes_every_lever {stod : Stod} {baseOk : Bool} {info : HardwareInfo}
    {indices : List Axis} {hw : LeverHardware} {clock now : Time} {label : Label}
    {earlier later : List (Time × Label)} {ρ : Machine}
    (init : onInit stod baseOk info = .ok (P, indices, hw))
    (reached : runs (step P noThrow) (Machine.start clock hw) earlier = some σ)
    (fault : Faults P σ now label) (taken : step P noThrow σ (now, label) = some τ)
    (onward : runs (stepUntilActivation P noThrow) τ later = some ρ) :
    (∃ calls, ρ.hw.attempts = calls ++ σ.hw.attempts ∧ ∀ call ∈ calls, call.data = 0) ∧
      (label ≠ .advance ∨ Finishes P noThrow τ later →
        (∀ axis, lastMessage ρ.hw.attempts axis = some 0) ∧
          (ρ.hw.feedbackFaultLatched = true ∨ ρ.hw.active = false)) := by
  obtain ⟨quenched, atOnce⟩ := quenched_of_fault (wellFormed_reachable init reached) fault taken
  have final := (quenched_run quenched onward).1
  constructor
  · obtain ⟨calls, same, zero⟩ := final.zeros
    exact ⟨calls, same, fun call member => (zero call member).1⟩
  · intro finished
    rcases finished with notAdvance | ⟨first, second, μ, rfl, toIdle, idle⟩
    · obtain ⟨settled, held⟩ := atOnce notAdvance
      exact ⟨(quenched_run quenched onward).2 settled, held_run quenched.good held onward⟩
    · obtain ⟨μ', toIdle', onward'⟩ := runs_append_eq_some.mp onward
      obtain rfl : μ = μ' := Option.some.inj (toIdle.symm.trans toIdle')
      have atIdle := (quenched_run quenched toIdle).1
      exact ⟨(quenched_run atIdle onward').2 (settled_of_idle atIdle idle),
        held_run atIdle.good (held_of_idle atIdle idle) onward'⟩

/-- An effort on the boom, and a write up to its publish loop. -/
def testedWrite : List (Time × Label) :=
  [(0, .assignEffort 1 (50 : ℚ)), (0, .call .write), (0, .advance), (0, .advance)]

/-- A message that is not a number arrives between the test and the publish loop. -/
theorem fault_zeroes_every_lever_in_tested_write :
    ∃ σ τ ρ : Machine,
      runs (step defaultParameters noThrow)
        (Machine.start 0 (initialHardware defaultParameters)) (activation ++ testedWrite) = some σ ∧
      σ.locals.outputEnabled = true ∧
      step defaultParameters noThrow σ (0, .deliver (.feedback 1 (some .nan))) = some τ ∧
      runs (stepUntilActivation defaultParameters noThrow) τ [(0, .advance)] = some ρ ∧
      ρ.pending = [] ∧ (∀ axis, lastMessage ρ.hw.attempts axis = some 0) ∧
        (ρ.hw.feedbackFaultLatched = true ∨ ρ.hw.active = false) := by
  obtain ⟨σ, reached, enabled, active, τ, taken, ρ, onward, idle⟩ :
      ∃ σ ∈ runs (step defaultParameters noThrow)
          (Machine.start 0 (initialHardware defaultParameters)) (activation ++ testedWrite),
        σ.locals.outputEnabled = true ∧ σ.hw.active = true ∧
          ∃ τ ∈ step defaultParameters noThrow σ (0, .deliver (.feedback 1 (some .nan))),
            ∃ ρ ∈ runs (stepUntilActivation defaultParameters noThrow) τ [(0, .advance)],
              ρ.pending = [] := by
    decide +kernel
  have fault : Faults defaultParameters σ 0 (.deliver (.feedback 1 (some .nan))) :=
    ⟨active, by decide +kernel⟩
  have shut := (fault_zeroes_every_lever (onInit_unset fun _ => .ok (.nan, 0)) reached fault taken
    onward).2 (.inl (by simp))
  exact ⟨σ, τ, ρ, reached, enabled, taken, onward, idle, shut⟩

end Run

end Tb20e.Hardware
