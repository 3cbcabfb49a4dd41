/-
# Hardware.Threads -- the control thread and the executor thread, interleaved

A `Machine` is the hardware together with where each thread is: the sections the
control thread's current call still has to run, and the sample the executor
thread has stamped but not stored yet.  One step is one section of the control
thread or one step of the executor thread, at a reading of the clock that never
goes back.  `feedback_callback` is two steps, because it reads the clock before
it takes the feedback lock; an invalidation is one, because it holds both locks.

`WellFormed` is the part of the reachable states that the thread structure alone
gives: which call is under way, and that a call which clears the fault latch has
deactivated first.
-/
import Tb20e.Theory.Runs
import Tb20e.Hardware.Sections

namespace Tb20e.Hardware

set_option autoImplicit false

open Tb20e.Theory Tb20e.Control
open Tb20e.Theory (Double)

structure Machine where
  clock : Time
  control : Control
  pending : List Section
  stamped : Option (Axis × Double × Time)

namespace Machine

abbrev hw (σ : Machine) : LeverHardware := σ.control.hw
abbrev locals (σ : Machine) : Locals := σ.control.locals

/-- The machine that `on_init` leaves. -/
def start (clock : Time) (hw : LeverHardware) : Machine where
  clock := clock
  control := { hw, locals := {} }
  pending := []
  stamped := none

end Machine

inductive Label where
  /-- The control thread starts a call. -/
  | call (op : ControlOp)
  /-- The control thread runs the next section of its call. -/
  | advance
  /-- A controller assigns an effort between two calls. -/
  | assignEffort (axis : Axis) (value : Double)
  /-- The executor thread takes a message: all of the callback, except that an
  accepted sample is only stamped. -/
  | deliver (callback : Callback)
  /-- The executor thread stores the stamped sample. -/
  | store

/-- What the executor thread does with a message up to the feedback lock. -/
def deliver (P : Parameters) (throws : ℕ → Bool) (now : Time) (σ : Machine) :
    Callback → Machine
  | .feedback axis message =>
      match acceptedPosition P axis message with
      | none => { σ with control.hw := invalidateFeedback throws axis σ.hw }
      | some positionRad => { σ with stamped := some (axis, positionRad, now) }
  | .mask data => { σ with control.hw := activeAxisMaskCallback data σ.hw }

/-- A step that is not yet timed; `none` when the thread cannot take it. -/
def move (P : Parameters) (throws : ℕ → Bool) (now : Time) (σ : Machine) :
    Label → Option Machine
  | .call op =>
      if σ.pending = [] then
        some { σ with control.locals := {}, pending := op.sections }
      else none
  | .advance =>
      match σ.pending with
      | [] => none
      | sec :: rest =>
          -- Joining the executor thread waits for its current callback.
          if sec = .stopExecutor ∧ σ.stamped.isSome then none
          else some { σ with control := sec.exec P throws now σ.control, pending := rest }
  | .assignEffort axis value =>
      if σ.pending = [] then
        some { σ with control.hw.effortCommands := Function.update σ.hw.effortCommands axis value }
      else none
  | .deliver callback =>
      if σ.hw.executorRunning ∧ σ.stamped = none ∧ callback.subscribed P then
        some (deliver P throws now σ callback)
      else none
  | .store =>
      match σ.stamped with
      | none => none
      | some (axis, positionRad, stamp) =>
          some { σ with control.hw := storeSample axis positionRad stamp σ.hw, stamped := none }

/-- One step of either thread, at a clock reading that is not in the past. -/
def step (P : Parameters) (throws : ℕ → Bool) (σ : Machine) (event : Time × Label) :
    Option Machine :=
  if event.1 < σ.clock then none
  else (move P throws event.1 σ event.2).map fun τ => { τ with clock := event.1 }

theorem step_eq_some {P : Parameters} {throws : ℕ → Bool} {σ τ : Machine} {now : Time}
    {label : Label} :
    step P throws σ (now, label) = some τ ↔
      σ.clock ≤ now ∧ ∃ τ', move P throws now σ label = some τ' ∧ τ = { τ' with clock := now } := by
  unfold step
  by_cases past : now < σ.clock
  · simp [past, not_le.mpr past]
  · simp [past, not_lt.mp past, eq_comm]

/-! ## What one step can do -/

/-- The steps, one constructor for each thing a thread can do. -/
inductive Moved (P : Parameters) (throws : ℕ → Bool) (now : Time) (σ : Machine) :
    Label → Machine → Prop
  | call {op : ControlOp} (idle : σ.pending = []) :
      Moved P throws now σ (.call op) { σ with control.locals := {}, pending := op.sections }
  | advance {sec : Section} {rest : List Section} (pending : σ.pending = sec :: rest)
      (joined : sec = .stopExecutor → σ.stamped = none) :
      Moved P throws now σ .advance
        { σ with control := sec.exec P throws now σ.control, pending := rest }
  | assignEffort {axis : Axis} {value : Double} (idle : σ.pending = []) :
      Moved P throws now σ (.assignEffort axis value)
        { σ with control.hw.effortCommands := Function.update σ.hw.effortCommands axis value }
  | invalidate {axis : Axis} {message : Option Double} (running : σ.hw.executorRunning = true)
      (free : σ.stamped = none) (rejected : acceptedPosition P axis message = none) :
      Moved P throws now σ (.deliver (.feedback axis message))
        { σ with control.hw := invalidateFeedback throws axis σ.hw }
  | stamp {axis : Axis} {message : Option Double} {positionRad : Double}
      (running : σ.hw.executorRunning = true) (free : σ.stamped = none)
      (accepted : acceptedPosition P axis message = some positionRad) :
      Moved P throws now σ (.deliver (.feedback axis message))
        { σ with stamped := some (axis, positionRad, now) }
  | mask {data : BitVec 8} (running : σ.hw.executorRunning = true) (free : σ.stamped = none)
      (subscribed : (Callback.mask data).subscribed P = true) :
      Moved P throws now σ (.deliver (.mask data))
        { σ with control.hw := activeAxisMaskCallback data σ.hw }
  | store {axis : Axis} {positionRad : Double} {stamp : Time}
      (holding : σ.stamped = some (axis, positionRad, stamp)) :
      Moved P throws now σ .store
        { σ with control.hw := storeSample axis positionRad stamp σ.hw, stamped := none }

theorem moved_of_move {P : Parameters} {throws : ℕ → Bool} {now : Time} {σ τ : Machine}
    {label : Label} (moved : move P throws now σ label = some τ) : Moved P throws now σ label τ := by
  cases label with
  | call op =>
      simp only [move, Option.ite_none_right_eq_some, Option.some.injEq] at moved
      obtain ⟨idle, rfl⟩ := moved
      exact .call idle
  | advance =>
      cases pending : σ.pending with
      | nil => simp [move, pending] at moved
      | cons sec rest =>
          simp only [move, pending, Option.ite_none_left_eq_some, Option.some.injEq] at moved
          obtain ⟨blocked, rfl⟩ := moved
          refine .advance pending ?_
          intro stops
          simpa [stops] using blocked
  | assignEffort axis value =>
      simp only [move, Option.ite_none_right_eq_some, Option.some.injEq] at moved
      obtain ⟨idle, rfl⟩ := moved
      exact .assignEffort idle
  | deliver callback =>
      simp only [move, Option.ite_none_right_eq_some, Option.some.injEq] at moved
      obtain ⟨⟨running, free, subscribed⟩, rfl⟩ := moved
      cases callback with
      | mask data => exact .mask running free subscribed
      | feedback axis message =>
          cases position : acceptedPosition P axis message with
          | none => simpa only [deliver, position] using .invalidate running free position
          | some positionRad => simpa only [deliver, position] using .stamp running free position
  | store =>
      cases holding : σ.stamped with
      | none => simp [move, holding] at moved
      | some sample =>
          simp only [move, holding, Option.some.injEq] at moved
          subst moved
          exact .store holding

/-- **Inversion of a step**: the clock does not go back, and one thread moved. -/
theorem moved_of_step {P : Parameters} {throws : ℕ → Bool} {σ τ : Machine}
    {event : Time × Label} (taken : step P throws σ event = some τ) :
    σ.clock ≤ event.1 ∧ ∃ τ', Moved P throws event.1 σ event.2 τ' ∧
      τ = { τ' with clock := event.1 } := by
  obtain ⟨forward, τ', moved, same⟩ := step_eq_some.mp taken
  exact ⟨forward, τ', moved_of_move moved, same⟩

/-! ## The call under way -/

/-- The sections left of a call are an end of its body. -/
def Underway (pending : List Section) : Prop := ∃ op : ControlOp, pending <:+ op.sections

theorem underway_tail {sec : Section} {rest : List Section} (underway : Underway (sec :: rest)) :
    Underway rest := by
  obtain ⟨op, suffix⟩ := underway
  exact ⟨op, (List.suffix_cons sec rest).trans suffix⟩

/-- The sections that a call runs only after it has deactivated, and before it
may activate. -/
def Section.deactivated : Section → Bool
  | .clearLatch | .clearCommands | .clearStaleReported | .resetFeedback | .startExecutor _
  | .stopExecutor | .publishZeroToAllAxes | .waitForFeedback => true
  | _ => false

/-- Such a section is preceded by the deactivation or by another one of them. -/
theorem deactivated_of_next {sec next : Section} {rest : List Section}
    (underway : Underway (sec :: next :: rest)) (later : next.deactivated = true) :
    sec = .deactivate ∨ (sec.deactivated = true ∧ sec ≠ .waitForFeedback) := by
  obtain ⟨op, suffix⟩ := underway
  cases op <;> simp only [ControlOp.sections, List.suffix_cons_iff, List.cons.injEq] at suffix <;>
    grind [Section.deactivated]

/-- Only `writeTest` comes right before the publish section alone is left. -/
theorem writeTest_of_writePublish_left {sec : Section}
    (underway : Underway [sec, .writePublish]) : sec = .writeTest := by
  obtain ⟨op, suffix⟩ := underway
  cases op <;> simp_all [ControlOp.sections, List.suffix_cons_iff]

theorem readFeedback_rest {rest : List Section} (underway : Underway (.readFeedback :: rest)) :
    rest = [.latchVelocityFault] := by
  obtain ⟨op, suffix⟩ := underway
  cases op <;> simp_all [ControlOp.sections, List.suffix_cons_iff]

theorem writeTest_rest {rest : List Section} (underway : Underway (.writeTest :: rest)) :
    rest = [.writePublish] := by
  obtain ⟨op, suffix⟩ := underway
  cases op <;> simp_all [ControlOp.sections, List.suffix_cons_iff]

theorem writePublish_rest {rest : List Section} (underway : Underway (.writePublish :: rest)) :
    rest = [] := by
  obtain ⟨op, suffix⟩ := underway
  cases op <;> simp_all [ControlOp.sections, List.suffix_cons_iff]

/-- The wait of `on_activate` is its last section but one. -/
theorem waitForFeedback_rest {rest : List Section}
    (underway : Underway (.waitForFeedback :: rest)) : rest = [.refuseUnlessReady] := by
  obtain ⟨op, suffix⟩ := underway
  cases op <;> simp_all [ControlOp.sections, List.suffix_cons_iff]

/-- No call starts with its publish section. -/
theorem sections_ne_writePublish (op : ControlOp) : op.sections ≠ [.writePublish] := by
  cases op <;> simp [ControlOp.sections]

theorem exec_commandPublishers (P : Parameters) (throws : ℕ → Bool) (now : Time) (sec : Section)
    (c : Control) :
    (sec.exec P throws now c).hw.commandPublishers = c.hw.commandPublishers := by
  cases sec <;> simp only [Section.exec, readFeedback, latchVelocityFault, writeSnapshot,
    writeTest, writePublish_eq, resetFeedback, copyFeedbackToStatesLocked,
    latchFaultAndPublishZero, publishZeroToAllAxesLocked_eq] <;> (try split) <;> (try split) <;> rfl

/-- Only a wait that ends with fresh feedback sets the hardware active. -/
theorem exec_inactive {P : Parameters} {throws : ℕ → Bool} {now : Time} {sec : Section}
    {c : Control} (inactive : c.hw.active = false)
    (waits : sec = .waitForFeedback → allFeedbackIsFreshLocked P now c.hw = false) :
    (sec.exec P throws now c).hw.active = false := by
  cases sec with
  | waitForFeedback => simpa [Section.exec, waits rfl] using inactive
  | deactivate => rfl
  | startExecutor | refuseUnlessReady | latchVelocityFault | writeTest | writePublish =>
      simp only [Section.exec, latchVelocityFault, writeTest, writePublish_eq,
        latchFaultAndPublishZero, publishZeroToAllAxesLocked_eq]
      split <;> (try split) <;> exact inactive
  | clearLatch | clearCommands | clearStaleReported | resetFeedback | stopExecutor | readFeedback
  | writeSnapshot => exact inactive
  | publishZeroToAllAxes => simpa [Section.exec] using inactive

/-- The sections left of the call under way, and when they run: a call that clears
or waits has deactivated first. -/
structure Sequenced (σ : Machine) : Prop where
  underway : Underway σ.pending
  deactivated : ∀ sec rest, σ.pending = sec :: rest → sec.deactivated = true → σ.hw.active = false

theorem sequenced_step {P : Parameters} {throws : ℕ → Bool} {σ τ : Machine}
    {event : Time × Label} (good : Sequenced σ) (taken : step P throws σ event = some τ) :
    Sequenced τ := by
  obtain ⟨-, τ', moved, rfl⟩ := moved_of_step taken
  obtain ⟨underway, deactivated⟩ := good
  generalize event.2 = label at moved
  cases moved with
  | @call op idle =>
      refine ⟨⟨op, List.suffix_refl _⟩, ?_⟩
      intro sec rest starts later
      cases op <;> simp only [ControlOp.sections, List.cons.injEq] at starts <;>
        (obtain ⟨rfl, -⟩ := starts; cases later)
  | @advance sec rest pending joined =>
      rw [pending] at underway
      refine ⟨underway_tail underway, ?_⟩
      intro next later left follows
      obtain rfl : rest = next :: later := left
      rcases deactivated_of_next underway follows with rfl | ⟨quiet, notWait⟩
      · rfl
      · exact exec_inactive (deactivated sec _ pending quiet) fun waits => absurd waits notWait
  | invalidate running free rejected =>
      refine ⟨underway, ?_⟩
      intro sec rest next quiet
      simp only [invalidateFeedback, publishZeroToAllAxesLocked_eq]
      split <;> exact deactivated sec rest next quiet
  | assignEffort | stamp | mask | store => exact ⟨underway, deactivated⟩

/-- What the thread structure alone guarantees of a reachable machine. -/
structure WellFormed (σ : Machine) : Prop where
  publishers : ∀ axis, σ.hw.commandPublishers axis = true
  underway : Underway σ.pending
  deactivated : ∀ sec rest, σ.pending = sec :: rest → sec.deactivated = true → σ.hw.active = false

theorem WellFormed.sequenced {σ : Machine} (good : WellFormed σ) : Sequenced σ :=
  ⟨good.underway, good.deactivated⟩

theorem wellFormed_start (P : Parameters) (clock : Time) :
    WellFormed (Machine.start clock (initialHardware P)) where
  publishers := fun _ => rfl
  underway := ⟨.read, List.nil_suffix⟩
  deactivated := fun _ _ impossible => by cases impossible

theorem wellFormed_step {P : Parameters} {throws : ℕ → Bool} {σ τ : Machine}
    {event : Time × Label} (good : WellFormed σ) (taken : step P throws σ event = some τ) :
    WellFormed τ := by
  obtain ⟨underway, deactivated⟩ := sequenced_step good.sequenced taken
  refine ⟨?_, underway, deactivated⟩
  obtain ⟨-, τ', moved, rfl⟩ := moved_of_step taken
  generalize event.2 = label at moved
  intro axis
  cases moved with
  | advance =>
      rw [Machine.hw, exec_commandPublishers]
      exact good.publishers axis
  | invalidate =>
      simp only [invalidateFeedback, publishZeroToAllAxesLocked_eq]
      split <;> exact good.publishers axis
  | call | assignEffort | stamp | mask | store => exact good.publishers axis

/-- `on_configure`, feedback on every axis, and `on_activate`, all at one instant. -/
def activation : List (Time × Label) :=
  let labels : List Label :=
    .call (.onConfigure true) :: List.replicate 6 .advance ++
      [.deliver (.feedback 0 (some 0)), .store, .deliver (.feedback 1 (some 0)), .store,
        .deliver (.feedback 2 (some (90 : ℚ))), .store, .deliver (.feedback 3 (some 0)), .store,
        .call .onActivate] ++ List.replicate 6 .advance
  labels.map fun label => (0, label)

end Tb20e.Hardware
