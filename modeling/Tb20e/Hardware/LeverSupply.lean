/-
# Hardware.LeverSupply -- what the hardware makes of its efforts

A lever message that is not zero is the lever of the effort that its axis has when the
publish loop comes to it.  So whatever holds of zero and of every effort that is assigned
holds of the efforts in every reachable state, and what follows from it for a lever holds
of every nonzero message (`Supplied`).  Which efforts those are is not the hardware's to
say: the two predicates are parameters.
-/
import Tb20e.Hardware.FaultLatch
import Tb20e.Hardware.LeverMessage

namespace Tb20e.Hardware

set_option autoImplicit false

open Tb20e.Theory Tb20e.Control
open Tb20e.Theory (Double)

variable {P : Parameters} {throws : ℕ → Bool}

/-- A zero effort has no direction, so neither has its lever. -/
theorem AxisConfig.lever_bounded_zero {config : AxisConfig} (valid : config.Valid)
    (direction : ℤ) : (config.lever (config.bounded 0) direction).1 = 0 := by
  by_contra nonzero
  obtain ⟨-, positive, negative, -⟩ := lever_meaning valid nonzero
  simp only [mul_zero, lt_irrefl, iff_false, not_lt] at positive negative
  exact nonzero (le_antisymm positive negative)

/-- A nonzero message of the publish loop is the lever of a finite effort. -/
theorem effort_of_leverMessage (valid : P.Valid) {c : Control} {axis : Axis}
    (nonzero : leverMessage P c axis ≠ 0) :
    ∃ effort : ℚ, c.hw.effortCommands axis = effort ∧
      leverMessage P c axis = Double.finite ((P.axisConfigs axis).lever
        ((P.axisConfigs axis).bounded effort) (c.hw.activeDirection axis)).1 := by
  let config := P.axisConfigs axis
  have isOpen : axisOpen P c.locals c.hw.feedbackFaultLatched c.hw.activeAxisMask
      (c.hw.effortCommands axis) axis = true := by
    by_contra closed
    rw [Bool.not_eq_true] at closed
    exact nonzero (by simp [leverMessage, leverOf, leverCommand_closed P closed])
  cases effort : c.hw.effortCommands axis with
  | finite value =>
      refine ⟨value, rfl, ?_⟩
      rw [effort] at isOpen
      simp [leverMessage, leverOf, effort, leverCommand_open valid isOpen]
  | inf _ | nan =>
      -- An effort that is not finite is bounded to zero, and zero stays zero.
      refine absurd ?_ nonzero
      rw [effort] at isOpen
      have still : config.lever 0 (c.hw.activeDirection axis) = (0, 0) := by
        have stop := (valid.axis axis).stop_nonneg
        simp [AxisConfig.lever, config, stop]
      simp [leverMessage, leverOf, effort, leverCommand, isOpen, boundedLeverCommand,
        compensatedLeverCommand_eq (valid.axis axis), config, still]

theorem threw_of_quiet {c : Control} {call : Attempt} (member : call ∈ loopCalls P throws c)
    (quiet : ∀ n, throws n = false) : call.threw = false := by
  have none := any_threw_loopCalls P quiet c
  simp only [List.any_eq_false, Bool.not_eq_true] at none
  exact none call member

/-- What a step or a section may publish: zeros, and the calls of the publish loop. -/
def Publishes (P : Parameters) (throws : ℕ → Bool) (c : Control) (loop : Prop)
    (before after : List Attempt) : Prop :=
  ∃ calls, after = calls ++ before ∧ ∀ call ∈ calls,
    ((∀ n, throws n = false) → call.threw = false) ∧
      (call.data ≠ 0 → loop ∧ call ∈ loopCalls P throws c)

theorem Publishes.of_zeros {c : Control} {loop : Prop} {before after : List Attempt}
    (zeros : ∃ calls, after = calls ++ before ∧ AllZero throws calls) :
    Publishes P throws c loop before after := by
  obtain ⟨calls, made, zero⟩ := zeros
  exact ⟨calls, made, fun call member =>
    ⟨(zero call member).2, fun nonzero => absurd (zero call member).1 nonzero⟩⟩

theorem exec_calls (P : Parameters) (throws : ℕ → Bool) (now : Time) (sec : Section)
    (c : Control) :
    Publishes P throws c (sec = .writePublish) c.hw.attempts (sec.exec P throws now c).hw.attempts := by
  by_cases publishing : sec = .writePublish
  · subst publishing
    have published (call : Attempt) (member : call ∈ loopCalls P throws c) :
        ((∀ n, throws n = false) → call.threw = false) ∧
          (call.data ≠ 0 → True ∧ call ∈ loopCalls P throws c) :=
      ⟨threw_of_quiet member, fun _ => ⟨trivial, member⟩⟩
    simp only [Section.exec, writePublish_eq, publishZeroToAllAxesLocked_eq]
    split
    · refine ⟨_ ++ loopCalls P throws c, (List.append_assoc ..).symm, ?_⟩
      intro call member
      rcases List.mem_append.mp member with zeroed | loop
      · have zero := allZero_zeroCalls throws _ _ _ call zeroed
        exact ⟨zero.2, fun nonzero => absurd zero.1 nonzero⟩
      · exact published call loop
    · exact ⟨_, rfl, published⟩
  · exact .of_zeros (exec_zeros fun same => absurd same publishing)

/-- **What a step publishes**: zeros, but for the publish loop of a write. -/
theorem step_calls {σ τ : Machine} {event : Time × Label}
    (taken : step P throws σ event = some τ) :
    Publishes P throws σ.control (event.2 = .advance ∧ ∃ rest, σ.pending = .writePublish :: rest)
      σ.hw.attempts τ.hw.attempts := by
  have silent : Publishes P throws σ.control
      (event.2 = .advance ∧ ∃ rest, σ.pending = .writePublish :: rest) σ.hw.attempts σ.hw.attempts :=
    ⟨[], rfl, by simp⟩
  obtain ⟨now, label⟩ := event
  obtain ⟨-, τ', moved, rfl⟩ := moved_of_step taken
  cases moved with
  | @advance sec rest pending =>
      obtain ⟨calls, attempts, made⟩ := exec_calls P throws now sec σ.control
      refine ⟨calls, attempts, fun call member => ⟨(made call member).1, fun nonzero => ?_⟩⟩
      obtain ⟨rfl, inLoop⟩ := (made call member).2 nonzero
      exact ⟨⟨rfl, rest, pending⟩, inLoop⟩
  | invalidate =>
      cases active : σ.hw.active with
      | true =>
          rw [invalidateFeedback_active active]
          exact .of_zeros ⟨_, rfl, allZero_zeroCalls throws _ _ _⟩
      | false =>
          rw [invalidateFeedback_inactive active]
          exact silent
  | call | assignEffort | stamp | mask | store => exact silent

/-- A section keeps the efforts, but for the one that clears them. -/
theorem exec_effortCommands (P : Parameters) (throws : ℕ → Bool) (now : Time)
    (sec : Section) (c : Control) :
    (sec.exec P throws now c).hw.effortCommands = c.hw.effortCommands ∨
      (sec = .clearCommands ∧ (sec.exec P throws now c).hw.effortCommands = fun _ => 0) := by
  cases sec with
  | clearCommands => exact .inr ⟨rfl, rfl⟩
  | publishZeroToAllAxes => simp [Section.exec]
  | startExecutor | waitForFeedback | refuseUnlessReady | latchVelocityFault | writeTest
  | writePublish =>
      simp only [Section.exec, latchVelocityFault, writeTest, writePublish_eq,
        latchFaultAndPublishZero, publishZeroToAllAxesLocked_eq, copyFeedbackToStatesLocked]
      split <;> (try split) <;> exact .inl rfl
  | deactivate | clearLatch | clearStaleReported | resetFeedback | stopExecutor | readFeedback
  | writeSnapshot => exact .inl rfl

/-- **What a step does to the efforts.** -/
theorem step_effortCommands {σ τ : Machine} {event : Time × Label}
    (taken : step P throws σ event = some τ) :
    τ.hw.effortCommands = σ.hw.effortCommands ∨
      (.clearCommands ∈ σ.pending ∧ τ.hw.effortCommands = fun _ => 0) ∨
      ∃ axis value, event.2 = .assignEffort axis value ∧
        τ.hw.effortCommands = Function.update σ.hw.effortCommands axis value := by
  obtain ⟨now, label⟩ := event
  obtain ⟨-, τ', moved, rfl⟩ := moved_of_step taken
  cases moved with
  | @advance sec rest pending =>
      rcases exec_effortCommands P throws now sec σ.control with same | ⟨clears, zero⟩
      · exact .inl same
      · exact .inr (.inl ⟨by simp [pending, clears], zero⟩)
  | @assignEffort axis value => exact .inr (.inr ⟨axis, value, rfl, rfl⟩)
  | @invalidate axis =>
      left
      cases active : σ.hw.active with
      | true => simp [invalidateFeedback_active active]
      | false => simp [invalidateFeedback_inactive active]
  | call | stamp | mask | store => exact .inl rfl

/-- The sections left after a step were left before it, or are those of a new call. -/
theorem mem_pending_step {σ τ : Machine} {event : Time × Label}
    (taken : step P throws σ event = some τ) {sec : Section} (left : sec ∈ τ.pending) :
    sec ∈ σ.pending ∨ ∃ op, event.2 = .call op ∧ sec ∈ op.sections := by
  obtain ⟨now, label⟩ := event
  obtain ⟨-, τ', moved, rfl⟩ := moved_of_step taken
  cases moved with
  | @call op => exact .inr ⟨op, rfl, left⟩
  | advance pending => exact .inl (pending ▸ List.mem_cons_of_mem _ left)
  | assignEffort | invalidate | stamp | mask | store => exact .inl left

/-- What holds of the efforts and of the calls they are made into. -/
structure Supplied (P : Parameters) (Effort : Axis → Double → Prop)
    (Call : Attempt → Prop) (σ : Machine) : Prop where
  effort : ∀ axis, Effort axis (σ.hw.effortCommands axis)
  call : ∀ call ∈ σ.hw.attempts, call.data ≠ 0 → Call call

/-- **One step of the hardware**: efforts are assigned or zeroed, and a nonzero call is the
lever of an effort. -/
theorem supplied_step {Effort : Axis → Double → Prop} {Call : Attempt → Prop}
    (zero : ∀ axis, Effort axis 0)
    (made : ∀ (c : Control), (∀ axis, Effort axis (c.hw.effortCommands axis)) →
      ∀ call ∈ loopCalls P throws c, call.data ≠ 0 → Call call)
    {σ τ : Machine} {event : Time × Label}
    (assigned : ∀ axis value, event.2 = .assignEffort axis value → Effort axis value)
    (supplied : Supplied P Effort Call σ) (taken : step P throws σ event = some τ) :
    Supplied P Effort Call τ := by
  constructor
  · intro axis
    rcases step_effortCommands taken with same | ⟨-, cleared⟩ | ⟨other, value, label, updated⟩
    · rw [same]
      exact supplied.effort axis
    · rw [cleared]
      exact zero axis
    · rw [updated]
      by_cases same : axis = other
      · subst same
        simpa using assigned axis value label
      · simpa [same] using supplied.effort axis
  · obtain ⟨calls, attempts, published⟩ := step_calls taken
    rw [attempts]
    intro call member nonzero
    rcases List.mem_append.mp member with new | old
    · exact made σ.control supplied.effort call ((published call new).2 nonzero).2 nonzero
    · exact supplied.call call old nonzero

/-- Efforts that are assigned between two calls are there, and nothing else changes. -/
theorem runs_assignEffort {σ τ : Machine} {now : Time} {assigned : List Axis} {effort : Axis → Double}
    (run : runs (step P throws) σ
      (assigned.map fun axis => (now, .assignEffort axis (effort axis))) = some τ) :
    τ.hw.attempts = σ.hw.attempts ∧ τ.pending = σ.pending ∧ (assigned ≠ [] → σ.pending = []) ∧
      ∀ axis, τ.hw.effortCommands axis =
        if axis ∈ assigned then effort axis else σ.hw.effortCommands axis := by
  induction assigned generalizing σ with
  | nil => cases run; simp
  | cons head rest ih =>
      obtain ⟨σ', taken, later⟩ := runs_cons_eq_some.mp run
      obtain ⟨-, τ', moved, rfl⟩ := moved_of_step taken
      cases moved with
      | assignEffort idle =>
          obtain ⟨attempts, pending, -, efforts⟩ := ih later
          refine ⟨attempts, pending, fun _ => idle, ?_⟩
          intro axis
          rw [efforts]
          by_cases later : axis ∈ rest
          · simp [later]
          · by_cases first : axis = head <;> simp [later, first]

/-! ## Efforts at rest -/

/-- With every effort zero, the publish loop sends zeros. -/
theorem allZero_loopCalls_of_still (valid : P.Valid) {c : Control}
    (still : ∀ axis, c.hw.effortCommands axis = 0) : AllZero throws (loopCalls P throws c) := by
  have zero (axis : Axis) : leverMessage P c axis = 0 := by
    by_contra nonzero
    obtain ⟨effort, isEffort, made⟩ := effort_of_leverMessage valid nonzero
    obtain rfl : effort = 0 := Double.finite.inj (isEffort.symm.trans (still axis))
    rw [made, AxisConfig.lever_bounded_zero (valid.axis axis)] at nonzero
    exact nonzero rfl
  intro call member
  simp only [loopCalls, zero, List.mem_cons, List.not_mem_nil, or_false] at member
  rcases member with rfl | rfl | rfl | rfl <;> exact ⟨rfl, fun quiet => quiet _⟩

/-- A step publishes only zeros while every effort is zero. -/
theorem zeros_step_of_still (valid : P.Valid) {σ τ : Machine} {event : Time × Label}
    (still : ∀ axis, σ.hw.effortCommands axis = 0) (taken : step P throws σ event = some τ) :
    ∃ calls, τ.hw.attempts = calls ++ σ.hw.attempts ∧ AllZero throws calls := by
  obtain ⟨calls, attempts, made⟩ := step_calls taken
  refine ⟨calls, attempts, fun call member => ⟨?_, (made call member).1⟩⟩
  by_contra nonzero
  have inLoop := ((made call member).2 nonzero).2
  exact nonzero (allZero_loopCalls_of_still valid still call inLoop).1

/-! ## A write calls every topic -/

/-- Since some calls every topic has been called. -/
def Called (before : List Attempt) (σ : Machine) : Prop :=
  ∃ calls, σ.hw.attempts = calls ++ before ∧ ∀ axis, ∃ call ∈ calls, call.axis = axis

/-- Every topic has been called, or a publish loop is still to come. -/
def Calling (before : List Attempt) (σ : Machine) : Prop :=
  Called before σ ∨ (before <:+ σ.hw.attempts ∧ .writePublish ∈ σ.pending)

section Calling

variable {before : List Attempt} {σ τ : Machine} {event : Time × Label}

/-- Calls are only added. -/
theorem suffix_step (suffix : before <:+ σ.hw.attempts) (taken : step P throws σ event = some τ) :
    before <:+ τ.hw.attempts := by
  obtain ⟨calls, attempts, -⟩ := step_calls taken
  exact suffix.trans ⟨calls, attempts.symm⟩

theorem called_step (called : Called before σ) (taken : step P throws σ event = some τ) :
    Called before τ := by
  obtain ⟨calls, attempts, -⟩ := step_calls taken
  obtain ⟨earlier, split, each⟩ := called
  refine ⟨calls ++ earlier, by rw [attempts, split, List.append_assoc], fun axis => ?_⟩
  obtain ⟨call, member, same⟩ := each axis
  exact ⟨call, List.mem_append_right _ member, same⟩

/-- The publish section calls every topic, whether or not it fails. -/
theorem called_writePublish (P : Parameters) (throws : ℕ → Bool) {c : Control}
    (suffix : before <:+ c.hw.attempts) :
    ∃ calls, (writePublish P throws c).hw.attempts = calls ++ before ∧
      ∀ axis, ∃ call ∈ calls, call.axis = axis := by
  obtain ⟨earlier, split⟩ := suffix
  have each (later : List Attempt) (axis : Axis) :
      ∃ call ∈ later ++ loopCalls P throws c ++ earlier, call.axis = axis := by
    obtain ⟨call, member, same⟩ := exists_mem_loopCalls P throws c axis
    exact ⟨call, by simp [member], same⟩
  rw [writePublish_eq]
  dsimp only
  split
  · refine ⟨zeroCalls throws c.hw.commandPublishers axes (loopCalls P throws c ++ c.hw.attempts).length ++
      loopCalls P throws c ++ earlier, ?_, each _⟩
    simp [← split]
  · refine ⟨[] ++ loopCalls P throws c ++ earlier, ?_, each []⟩
    simp [← split]

/-- The publish loop that was still to come calls every topic. -/
theorem calling_step (calling : Calling before σ) (taken : step P throws σ event = some τ) :
    Calling before τ := by
  rcases calling with called | ⟨suffix, owed⟩
  · exact .inl (called_step called taken)
  · have suffix' := suffix_step suffix taken
    obtain ⟨-, τ', moved, rfl⟩ := moved_of_step taken
    generalize event.2 = label at moved
    cases moved with
    | @advance sec rest pending =>
        rw [pending] at owed
        rcases List.mem_cons.mp owed with rfl | later
        · exact .inl (called_writePublish P throws suffix)
        · exact .inr ⟨suffix', later⟩
    | call idle | assignEffort idle => rw [idle] at owed; cases owed
    | invalidate | stamp | mask | store => exact .inr ⟨suffix', owed⟩

end Calling

end Tb20e.Hardware
