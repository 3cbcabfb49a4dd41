/-
# Hardware.Lifecycle -- the hardware as a managed component

The resource manager keeps a primary state for each hardware component and calls the
lifecycle callbacks by it, as ROS 2 documents for managed nodes: a callback is only called
in a state that allows it, a callback, `read` or `write` that fails is answered by
`on_error`, and the object may be destroyed between two calls.  `Component` is the machine
of `Hardware.Threads` under that caller.

What a call comes to is an outline over `Flags`, the part of the machine that the lifecycle
depends on.  `leads_callback`, `leads_error` and `leads_destructor` are computed for every
call and every flags; from them the members agree with the primary state between any two
calls (`members_follow_primary`), whatever the executor thread does in between, and only
the write of an active component publishes anything but zero
(`nonzero_only_from_active_write`).
-/
import Tb20e.Theory.Outline
import Tb20e.Hardware.LeverSupply

namespace Tb20e.Hardware

set_option autoImplicit false

open Tb20e.Theory Tb20e.Control
open Tb20e.Theory (Double)

/-! ## The caller -/

/-- The primary states, and the state of an object that is gone. -/
inductive Primary where
  | unconfigured
  | inactive
  | active
  | finalized
  | destroyed
  deriving DecidableEq

/-- The calls that may be made in a primary state. -/
def Primary.allows : Primary → ControlOp → Bool
  | .unconfigured, .onConfigure _ => true
  | .inactive, .onActivate | .inactive, .onCleanup => true
  | .active, .onDeactivate => true
  | .unconfigured, .onShutdown | .inactive, .onShutdown | .active, .onShutdown => true
  | .inactive, .read | .inactive, .write | .active, .read | .active, .write => true
  | _, _ => false

/-- What the control thread runs: a callback, or `~Tb20eLeverHardware`. -/
inductive Task where
  | callback (op : ControlOp)
  | destructor
  deriving DecidableEq

def Task.sections : Task → List Section
  | .callback op => op.sections
  | .destructor => [.deactivate, .publishZeroToAllAxes, .stopExecutor]

/-- The primary state after a task that did not fail. -/
def Task.after (primary : Primary) : Task → Primary
  | .callback (.onConfigure _) | .callback .onDeactivate => .inactive
  | .callback .onCleanup | .callback .onError => .unconfigured
  | .callback .onActivate => .active
  | .callback .onShutdown => .finalized
  | .callback .read | .callback .write => primary
  | .destructor => .destroyed

structure Component where
  machine : Machine
  primary : Primary
  calling : Option Task

inductive Component.Label where
  | call (op : ControlOp)
  | destroy
  /-- The task under way returns; `on_error` is called if it failed. -/
  | returns
  /-- A section of the task under way, an effort assigned between two tasks, or a step of
  the executor thread. -/
  | thread (label : Hardware.Label)

namespace Component

section Step

variable (P : Parameters) (throws : ℕ → Bool)

/-- Start a task on the machine. -/
def begin (task : Task) (σ : Component) : Component :=
  { σ with
    machine := { σ.machine with control.locals := {}, pending := task.sections }
    calling := some task }

def step (σ : Component) (event : Time × Label) : Option Component :=
  match event.2, σ.calling with
  | .call op, none => if σ.primary.allows op then some (begin (.callback op) σ) else none
  | .destroy, none => if σ.primary = .destroyed then none else some (begin .destructor σ)
  | .returns, some task =>
      if σ.machine.pending ≠ [] then none
      else if σ.machine.locals.returned = .ok then
        some { σ with primary := task.after σ.primary, calling := none }
      -- The answer to an `on_error` that fails is the finalized state.
      else if task = .callback .onError then
        some { σ with primary := .finalized, calling := none }
      else some (begin (.callback .onError) σ)
  | .thread (.assignEffort axis value), none =>
      if σ.primary = .destroyed then none
      else (Hardware.step P throws σ.machine (event.1, .assignEffort axis value)).map fun machine =>
        { σ with machine }
  | .thread .advance, some _ =>
      (Hardware.step P throws σ.machine (event.1, .advance)).map fun machine => { σ with machine }
  | .thread (.deliver callback), _ =>
      (Hardware.step P throws σ.machine (event.1, .deliver callback)).map fun machine =>
        { σ with machine }
  | .thread .store, _ =>
      (Hardware.step P throws σ.machine (event.1, .store)).map fun machine => { σ with machine }
  | _, _ => none

/-- The component that `on_init` leaves. -/
def start (clock : Time) (hw : LeverHardware) : Component where
  machine := Machine.start clock hw
  primary := .unconfigured
  calling := none

end Step

end Component

/-! ## What the lifecycle depends on -/

/-- The part of the machine that decides what a call comes to. -/
structure Flags where
  active : Bool
  running : Bool
  ready : Bool
  /-- Whether output may be enabled for the publish loop. -/
  enabled : Bool
  failed : Bool
  /-- Whether every lever topic is known to carry zero, or nothing. -/
  resting : Bool
  /-- Whether everything received is known to be forgotten. -/
  cleared : Bool
  deriving DecidableEq

/-- What a section may leave of the flags. -/
def Section.outcomes : Section → Flags → List Flags
  | .deactivate, f => [{ f with active := false }]
  | .resetFeedback, f => [{ f with cleared := !f.running }]
  | .startExecutor starts, f =>
      if f.running then [f]
      else if starts then [{ f with running := true, cleared := false }]
      else [{ f with failed := true }]
  | .stopExecutor, f => [{ f with running := false }]
  | .publishZeroToAllAxes, f => [{ f with resting := true }]
  | .waitForFeedback, f =>
      [{ f with active := true, ready := true, cleared := false }, { f with ready := false }]
  | .refuseUnlessReady, f => [if f.ready then f else { f with failed := true, resting := true }]
  | .readFeedback, f => [{ f with cleared := false }]
  | .writeTest, f => [{ f with enabled := f.active }]
  | .writePublish, f =>
      [false, true].map fun failed => { f with failed, resting := f.resting && !f.enabled }
  | .clearLatch, f | .clearCommands, f | .clearStaleReported, f | .latchVelocityFault, f
  | .writeSnapshot, f => [f]

/-- The flags when a call starts. -/
def Flags.called (f : Flags) : Flags := { f with ready := false, enabled := false, failed := false }

/-- What the flags are between two calls. -/
def Primary.Agrees (primary : Primary) (f : Flags) : Prop :=
  f.active = decide (primary = .active) ∧
    f.running = decide (primary = .inactive ∨ primary = .active) ∧
    (primary ≠ .active → f.resting = true) ∧ (primary = .unconfigured → f.cleared = true)
  deriving Decidable

/-- The publish loop may be enabled only in a write of an active component. -/
def Task.Safe (primary : Primary) (task : Task) (sec : Section) (f : Flags) : Prop :=
  sec = .writePublish → f.enabled = true → primary = .active ∧ task = .callback .write
  deriving Decidable

/-- What holds at the end of a task. -/
def Task.Done (primary : Primary) (task : Task) (f : Flags) : Prop :=
  if f.failed then task ≠ .callback .onError ∧ task ≠ .destructor
  else (task.after primary).Agrees f
  deriving Decidable

/-- **Every call the primary state allows** comes to what its state after it asks for. -/
theorem leads_callback {primary : Primary} {op : ControlOp} {f : Flags}
    (allowed : primary.allows op = true) (agrees : primary.Agrees f) :
    Leads Section.outcomes (Task.Safe primary (.callback op)) (Task.Done primary (.callback op))
      op.sections f.called := by
  obtain ⟨active, running, ready, enabled, failed, resting, cleared⟩ := f
  cases primary <;> cases op <;> first
    | contradiction
    | (clear allowed; revert agrees; decide +revert +kernel)

/-- **`on_error`** makes an unconfigured component from any flags. -/
theorem leads_error (primary : Primary) (f : Flags) :
    Leads Section.outcomes (Task.Safe primary (.callback .onError))
      (Task.Done primary (.callback .onError)) ControlOp.onError.sections f.called := by
  obtain ⟨active, running, ready, enabled, failed, resting, cleared⟩ := f
  cases primary <;> decide +revert +kernel

/-- **The destructor** leaves nothing running. -/
theorem leads_destructor (primary : Primary) (f : Flags) :
    Leads Section.outcomes (Task.Safe primary .destructor) (Task.Done primary .destructor)
      Task.destructor.sections f.called := by
  obtain ⟨active, running, ready, enabled, failed, resting, cleared⟩ := f
  cases primary <;> decide +revert +kernel

/-! ## The flags describe the machine -/

/-- Everything received is forgotten. -/
structure Cleared (hw : LeverHardware) : Prop where
  feedback : hw.feedback = fun _ => {}
  feedbackVelocity : hw.feedbackVelocity = fun _ => {}
  positionStates : hw.positionStates = fun _ => 0
  velocityStates : hw.velocityStates = fun _ => 0

theorem cleared_resetFeedback (hw : LeverHardware) : Cleared (resetFeedback hw) := ⟨rfl, rfl, rfl, rfl⟩

theorem Cleared.of_same {hw hw' : LeverHardware} (cleared : Cleared hw)
    (feedback : hw'.feedback = hw.feedback) (velocity : hw'.feedbackVelocity = hw.feedbackVelocity)
    (positions : hw'.positionStates = hw.positionStates)
    (velocities : hw'.velocityStates = hw.velocityStates) : Cleared hw' :=
  ⟨feedback.trans cleared.feedback, velocity.trans cleared.feedbackVelocity,
    positions.trans cleared.positionStates, velocities.trans cleared.velocityStates⟩

/-- No lever topic carries anything but zero. -/
def AtRest (hw : LeverHardware) : Prop :=
  ∀ axis value, lastMessage hw.attempts axis = some value → value = 0

/-- Zeros keep the topics at rest. -/
theorem AtRest.append {hw hw' : LeverHardware} {calls : List Attempt} (rest : AtRest hw)
    (attempts : hw'.attempts = calls ++ hw.attempts) (zero : ∀ call ∈ calls, call.data = 0) :
    AtRest hw' := by
  intro axis value last
  unfold lastMessage at last
  rw [attempts, List.find?_append] at last
  cases found : calls.find? fun call => call.axis = axis && !call.threw with
  | none => exact rest axis value (by simpa [found, lastMessage] using last)
  | some call =>
      simp only [found, Option.some_or, Option.map_some, Option.some.injEq] at last
      exact last ▸ zero call (List.mem_of_find?_eq_some found)

/-- Zeroing every axis puts the topics at rest. -/
theorem atRest_publishZeroToAllAxesLocked {throws : ℕ → Bool} (quiet : ∀ n, throws n = false)
    {hw : LeverHardware} (publishers : ∀ axis, hw.commandPublishers axis = true) :
    AtRest (publishZeroToAllAxesLocked throws hw) := by
  intro axis value last
  rw [publishZeroToAllAxesLocked_eq, lastMessage_of_called quiet (allZero_zeroCalls throws _ _ _)
    (exists_mem_zeroCalls throws (publishers axis) (mem_axes axis) _)] at last
  exact (Option.some.inj last).symm

/-- What the flags say of the members, and of the sample the executor thread holds. -/
structure Describes (throws : ℕ → Bool) (f : Flags) (c : Control)
    (stamped : Option (Axis × Double × Time)) : Prop where
  publishers : ∀ axis, c.hw.commandPublishers axis = true
  joined : c.hw.executorRunning = false → stamped = none
  active : c.hw.active = f.active
  running : c.hw.executorRunning = f.running
  ready : c.locals.feedbackReady = f.ready
  enabled : c.locals.outputEnabled = true → f.enabled = true
  returned : c.locals.returned = if f.failed then .error else .ok
  resting : f.resting = true → (∀ n, throws n = false) → AtRest c.hw
  cleared : f.cleared = true → f.running = false ∧ Cleared c.hw

section Describes

variable {P : Parameters} {throws : ℕ → Bool} {now : Time} {f : Flags} {c : Control}
  {stamped : Option (Axis × Double × Time)}

/-- A section keeps topics at rest, unless it is the publish loop with output enabled. -/
theorem atRest_exec {sec : Section} (rest : AtRest c.hw)
    (shut : sec = .writePublish → c.locals.outputEnabled = false) :
    AtRest (sec.exec P throws now c).hw := by
  obtain ⟨calls, attempts, made⟩ := exec_calls P throws now sec c
  refine rest.append attempts fun call member => ?_
  by_contra nonzero
  obtain ⟨publishes, inLoop⟩ := (made call member).2 nonzero
  exact nonzero (allZero_loopCalls P (.inl (shut publishes)) call inLoop).1

theorem Describes.forgets (d : Describes throws f c stamped) {hw : LeverHardware}
    (feedback : hw.feedback = c.hw.feedback) (velocity : hw.feedbackVelocity = c.hw.feedbackVelocity)
    (positions : hw.positionStates = c.hw.positionStates)
    (velocities : hw.velocityStates = c.hw.velocityStates) (cleared : f.cleared = true) :
    f.running = false ∧ Cleared hw :=
  ⟨(d.cleared cleared).1, (d.cleared cleared).2.of_same feedback velocity positions velocities⟩

/-- Zeroing every axis, with the latch set or not. -/
theorem Describes.zeroed (d : Describes throws f c stamped) (latched : Bool) :
    Describes throws { f with resting := true }
      { c with hw := publishZeroToAllAxesLocked throws { c.hw with feedbackFaultLatched := latched } }
      stamped := by
  have rest (quiet : ∀ n, throws n = false) :
      AtRest (publishZeroToAllAxesLocked throws { c.hw with feedbackFaultLatched := latched }) :=
    atRest_publishZeroToAllAxesLocked quiet d.publishers
  rw [publishZeroToAllAxesLocked_eq] at rest ⊢
  exact { d with resting := fun _ => rest, cleared := d.forgets rfl rfl rfl rfl }

theorem Describes.weaken (d : Describes throws f c stamped) {resting : Bool}
    (less : resting = true → f.resting = true) : Describes throws { f with resting } c stamped :=
  { d with resting := fun known => d.resting (less known) }

/-- The publish section: topics at rest stay so if output is not enabled. -/
theorem describes_writePublish (d : Describes throws f c stamped) :
    ∃ failed, Describes throws { f with failed, resting := f.resting && !f.enabled }
      (writePublish P throws c) stamped := by
  have rests (known : (f.resting && !f.enabled) = true) (quiet : ∀ n, throws n = false) :
      AtRest (Section.writePublish.exec P throws 0 c).hw := by
    simp only [Bool.and_eq_true, Bool.not_eq_true'] at known
    refine atRest_exec (d.resting known.1 quiet) fun _ => ?_
    by_contra enabled
    have := d.enabled (by simpa using enabled)
    simp [known.2] at this
  change _ → _ → AtRest (writePublish P throws c).hw at rests
  rw [writePublish_eq] at rests ⊢
  dsimp only at rests ⊢
  split at rests
  · next failed =>
      rw [if_pos failed]
      rw [publishZeroToAllAxesLocked_eq] at rests ⊢
      exact ⟨true, { d with returned := rfl, resting := rests, cleared := d.forgets rfl rfl rfl rfl }⟩
  · next failed =>
      rw [if_neg failed]
      exact ⟨false, { d with returned := rfl, resting := rests, cleared := d.forgets rfl rfl rfl rfl }⟩

/-- **A section's outcomes** are what it can do. -/
theorem describes_exec {sec : Section} (d : Describes throws f c stamped)
    (joins : sec = .stopExecutor → stamped = none) :
    ∃ g ∈ sec.outcomes f, Describes throws g (sec.exec P throws now c) stamped := by
  cases sec with
  | deactivate =>
      exact ⟨_, List.mem_singleton_self _,
        { d with active := rfl, cleared := d.forgets rfl rfl rfl rfl }⟩
  | clearLatch | clearCommands | clearStaleReported | writeSnapshot =>
      exact ⟨_, List.mem_singleton_self _, { d with cleared := d.forgets rfl rfl rfl rfl }⟩
  | resetFeedback =>
      exact ⟨_, List.mem_singleton_self _,
        { d with cleared := fun stopped => ⟨by simpa using stopped, cleared_resetFeedback _⟩ }⟩
  | startExecutor starts =>
      simp only [Section.exec, Section.outcomes, d.running]
      cases running : f.running with
      | true => exact ⟨f, List.mem_singleton_self _, d⟩
      | false =>
          cases starts with
          | true =>
              exact ⟨_, List.mem_singleton_self _, { d with
                joined := fun stopped => by cases stopped
                running := rfl
                cleared := fun cleared => by cases cleared }⟩
          | false =>
              exact ⟨_, List.mem_singleton_self _, { d with
                running := d.running.trans running
                returned := rfl
                cleared := fun cleared => ⟨rfl, (d.cleared cleared).2⟩ }⟩
  | stopExecutor =>
      exact ⟨_, List.mem_singleton_self _, { d with
        joined := fun _ => joins rfl
        running := rfl
        cleared := fun cleared => ⟨rfl, (d.cleared cleared).2.of_same rfl rfl rfl rfl⟩ }⟩
  | publishZeroToAllAxes =>
      exact ⟨_, List.mem_singleton_self _, d.zeroed c.hw.feedbackFaultLatched⟩
  | waitForFeedback =>
      simp only [Section.exec, Section.outcomes]
      split
      · exact ⟨_, List.mem_cons_self, { d with
          active := rfl
          ready := rfl
          cleared := fun cleared => by cases cleared }⟩
      · exact ⟨_, List.mem_cons_of_mem _ List.mem_cons_self, { d with ready := rfl }⟩
  | refuseUnlessReady =>
      simp only [Section.exec, Section.outcomes, d.ready]
      cases ready : f.ready with
      | true => exact ⟨f, List.mem_singleton_self _, d⟩
      | false =>
          rw [if_neg Bool.false_ne_true, if_neg Bool.false_ne_true]
          exact ⟨_, List.mem_singleton_self _,
            { d.zeroed c.hw.feedbackFaultLatched with returned := rfl, ready := rfl }⟩
  | readFeedback =>
      exact ⟨_, List.mem_singleton_self _, { d with cleared := fun cleared => by cases cleared }⟩
  | latchVelocityFault =>
      refine ⟨f, List.mem_singleton_self _, ?_⟩
      simp only [Section.exec, latchVelocityFault, latchFaultAndPublishZero]
      split
      · split
        · exact (d.zeroed true).weaken fun _ => rfl
        · exact d
      · exact d
  | writeTest =>
      refine ⟨_, List.mem_singleton_self _, ?_⟩
      have enabled (rest : Bool) (passed : (c.hw.active && rest) = true) : f.active = true :=
        d.active ▸ (Bool.and_eq_true_iff.mp passed).1
      simp only [Section.exec, writeTest, Bool.and_assoc]
      split <;> exact { d with enabled := enabled _, cleared := d.forgets rfl rfl rfl rfl }
  | writePublish =>
      obtain ⟨failed, published⟩ := describes_writePublish (P := P) d
      exact ⟨_, List.mem_map_of_mem (by cases failed <;> simp), published⟩

/-- **Interference**: a step of the executor thread, or an effort that is assigned, keeps
what the flags say. -/
theorem describes_interfere {σ τ : Machine} {label : Label} (d : Describes throws f σ.control σ.stamped)
    (moved : Moved P throws now σ label τ) (called : ∀ op, label ≠ .call op)
    (advanced : label ≠ .advance) :
    Describes throws f τ.control τ.stamped ∧ τ.pending = σ.pending := by
  -- A running executor thread is not summarised as having forgotten.
  have kept (running : σ.hw.executorRunning = true) : f.cleared ≠ true := by
    intro cleared
    have := (d.cleared cleared).1
    rw [← d.running, running] at this
    cases this
  cases moved with
  | @call op => exact absurd rfl (called op)
  | advance => exact absurd rfl advanced
  | assignEffort => exact ⟨{ d with cleared := d.forgets rfl rfl rfl rfl }, rfl⟩
  | @invalidate axis message running =>
      refine ⟨?_, rfl⟩
      have stays : f.cleared = true → f.running = false ∧ Cleared (invalidateFeedback throws axis σ.hw) :=
        fun cleared => absurd cleared (kept running)
      have rest (known : f.resting = true) (quiet : ∀ n, throws n = false) :
          AtRest (invalidateFeedback throws axis σ.hw) := by
        simp only [invalidateFeedback, publishZeroToAllAxesLocked_eq]
        split
        · exact (d.resting known quiet).append rfl fun call member =>
            (allZero_zeroCalls throws _ _ _ call member).1
        · exact d.resting known quiet
      simp only [invalidateFeedback, publishZeroToAllAxesLocked_eq] at stays rest ⊢
      cases active : σ.hw.active <;>
        simp only [active, if_true, Bool.false_eq_true, if_false] at stays rest ⊢ <;>
        exact { d with resting := rest, cleared := stays, active := active ▸ d.active }
  | stamp running =>
      exact ⟨{ d with joined := fun stopped => absurd (running.symm.trans stopped) (by simp) }, rfl⟩
  | mask => exact ⟨{ d with cleared := d.forgets rfl rfl rfl rfl }, rfl⟩
  | store holding =>
      have running : σ.hw.executorRunning = true := by
        by_contra stopped
        rw [d.joined (by simpa using stopped)] at holding
        cases holding
      exact ⟨{ d with joined := fun _ => rfl, cleared := fun cleared => absurd cleared (kept running) },
        rfl⟩

end Describes

/-! ## The component -/

namespace Component

section Component

variable {P : Parameters} {throws : ℕ → Bool} {σ τ : Component} {event : Time × Label}

/-- The steps, one constructor for each thing the caller or a thread can do. -/
inductive Moved (P : Parameters) (throws : ℕ → Bool) (σ : Component) :
    Time × Label → Component → Prop
  | call {now : Time} {op : ControlOp} (idle : σ.calling = none)
      (allowed : σ.primary.allows op = true) : Moved P throws σ (now, .call op) (begin (.callback op) σ)
  | destroy {now : Time} (idle : σ.calling = none) (present : σ.primary ≠ .destroyed) :
      Moved P throws σ (now, .destroy) (begin .destructor σ)
  | succeeds {now : Time} {task : Task} (calling : σ.calling = some task)
      (finished : σ.machine.pending = []) (ok : σ.machine.locals.returned = .ok) :
      Moved P throws σ (now, .returns) { σ with primary := task.after σ.primary, calling := none }
  | fails {now : Time} {task : Task} (calling : σ.calling = some task)
      (finished : σ.machine.pending = []) (error : σ.machine.locals.returned ≠ .ok)
      (first : task ≠ .callback .onError) :
      Moved P throws σ (now, .returns) (begin (.callback .onError) σ)
  | errorFails {now : Time} (calling : σ.calling = some (.callback .onError))
      (finished : σ.machine.pending = []) (error : σ.machine.locals.returned ≠ .ok) :
      Moved P throws σ (now, .returns) { σ with primary := .finalized, calling := none }
  | advance {now : Time} {task : Task} {machine : Machine} (calling : σ.calling = some task)
      (taken : Hardware.step P throws σ.machine (now, .advance) = some machine) :
      Moved P throws σ (now, .thread .advance) { σ with machine }
  | other {now : Time} {label : Hardware.Label} {machine : Machine}
      (called : ∀ op, label ≠ .call op) (advanced : label ≠ .advance)
      (present : ∀ axis value, label = .assignEffort axis value → σ.primary ≠ .destroyed)
      (taken : Hardware.step P throws σ.machine (now, label) = some machine) :
      Moved P throws σ (now, .thread label) { σ with machine }

/-- **Inversion of a step.** -/
theorem moved_of_step (taken : step P throws σ event = some τ) : Moved P throws σ event τ := by
  obtain ⟨now, label⟩ := event
  cases label with
  | call op =>
      cases calling : σ.calling with
      | some task => simp [step, calling] at taken
      | none =>
          simp only [step, calling, Option.ite_none_right_eq_some, Option.some.injEq] at taken
          obtain ⟨allowed, rfl⟩ := taken
          exact .call calling allowed
  | destroy =>
      cases calling : σ.calling with
      | some task => simp [step, calling] at taken
      | none =>
          simp only [step, calling, Option.ite_none_left_eq_some, Option.some.injEq] at taken
          obtain ⟨present, rfl⟩ := taken
          exact .destroy calling present
  | returns =>
      cases calling : σ.calling with
      | none => simp [step, calling] at taken
      | some task =>
          simp only [step, calling, ne_eq, Option.ite_none_left_eq_some, not_not] at taken
          obtain ⟨finished, taken⟩ := taken
          split at taken
          · next ok => exact Option.some.inj taken ▸ .succeeds calling finished ok
          · next error =>
              split at taken
              · next last =>
                  exact Option.some.inj taken ▸ .errorFails (last ▸ calling) finished error
              · next first => exact Option.some.inj taken ▸ .fails calling finished error first
  | thread label =>
      have lift {label : Hardware.Label} (called : ∀ op, label ≠ .call op)
          (advanced : label ≠ .advance)
          (present : ∀ axis value, label = .assignEffort axis value → σ.primary ≠ .destroyed)
          (stepped : (Hardware.step P throws σ.machine (now, label)).map
            (fun machine => { σ with machine }) = some τ) :
          Moved P throws σ (now, .thread label) τ := by
        obtain ⟨machine, own, rfl⟩ := Option.map_eq_some_iff.mp stepped
        exact .other called advanced present own
      cases label with
      | call op => simp [step] at taken
      | advance =>
          cases calling : σ.calling with
          | none => simp [step, calling] at taken
          | some task =>
              simp only [step, calling] at taken
              obtain ⟨machine, own, same⟩ := Option.map_eq_some_iff.mp taken
              rw [← calling] at same
              exact same ▸ .advance calling own
      | assignEffort axis value =>
          cases calling : σ.calling with
          | some task => simp [step, calling] at taken
          | none =>
              simp only [step, calling, Option.ite_none_left_eq_some] at taken
              exact lift (by simp) (by simp) (fun _ _ _ => taken.1) (by rw [calling]; exact taken.2)
      | deliver callback => exact lift (by simp) (by simp) (by simp) (by simpa [step] using taken)
      | store => exact lift (by simp) (by simp) (by simp) (by simpa [step] using taken)

/-- Between two tasks the flags agree with the primary state; in a task they lead to what
the task is for. -/
def Kept (throws : ℕ → Bool) (σ : Component) : Prop :=
  match σ.calling with
  | none => σ.machine.pending = [] ∧
      ∃ f, Describes throws f σ.machine.control σ.machine.stamped ∧ σ.primary.Agrees f
  | some task =>
      Outlined Section.outcomes (task.Safe σ.primary) (task.Done σ.primary)
        (fun f machine => Describes throws f machine.control machine.stamped) σ.machine.pending
        σ.machine

theorem kept_idle (idle : σ.calling = none) :
    Kept throws σ ↔ σ.machine.pending = [] ∧
      ∃ f, Describes throws f σ.machine.control σ.machine.stamped ∧ σ.primary.Agrees f := by
  simp [Kept, idle]

theorem kept_calling {task : Task} (calling : σ.calling = some task) :
    Kept throws σ ↔ Outlined Section.outcomes (task.Safe σ.primary) (task.Done σ.primary)
      (fun f machine => Describes throws f machine.control machine.stamped) σ.machine.pending
      σ.machine := by
  simp [Kept, calling]

/-- A task that starts is outlined by the flags it starts from. -/
theorem kept_begin {f : Flags} {task : Task}
    (d : Describes throws f σ.machine.control σ.machine.stamped)
    (leads : Leads Section.outcomes (task.Safe σ.primary) (task.Done σ.primary) task.sections
      f.called) : Kept throws (begin task σ) :=
  ⟨f.called, { d with
    ready := rfl
    enabled := fun enabled => by cases enabled
    returned := rfl
    cleared := d.forgets rfl rfl rfl rfl }, leads⟩

theorem kept_start (P : Parameters) (clock : Time) : Kept throws (start clock (initialHardware P)) := by
  have agrees : Primary.unconfigured.Agrees ⟨false, false, false, false, false, true, true⟩ := by
    decide
  refine ⟨rfl, _, ?_, agrees⟩
  exact {
    publishers := fun _ => rfl
    joined := fun _ => rfl
    active := rfl
    running := rfl
    ready := rfl
    enabled := fun enabled => by cases enabled
    returned := rfl
    resting := fun _ _ axis value last => by cases last
    cleared := fun _ => ⟨rfl, rfl, rfl, rfl, rfl⟩ }

/-- **One step keeps the component outlined.** -/
theorem kept_step (kept : Kept throws σ) (taken : step P throws σ event = some τ) :
    Kept throws τ := by
  cases moved_of_step taken with
  | call idle allowed =>
      obtain ⟨-, f, d, agrees⟩ := (kept_idle idle).mp kept
      exact kept_begin d (leads_callback allowed agrees)
  | destroy idle =>
      obtain ⟨-, f, d, -⟩ := (kept_idle idle).mp kept
      exact kept_begin d (leads_destructor σ.primary f)
  | succeeds calling finished ok =>
      have outlined := (kept_calling calling).mp kept
      rw [finished] at outlined
      obtain ⟨f, d, done⟩ := outlined.finish
      refine (kept_idle rfl).mpr ⟨finished, f, d, ?_⟩
      have succeeded : f.failed ≠ true := fun failed => by
        have := d.returned
        rw [if_pos failed, ok] at this
        cases this
      rwa [Task.Done, if_neg succeeded] at done
  | fails calling finished =>
      have outlined := (kept_calling calling).mp kept
      rw [finished] at outlined
      obtain ⟨f, d, -⟩ := outlined.finish
      exact kept_begin d (leads_error σ.primary f)
  | errorFails calling finished error =>
      have outlined := (kept_calling calling).mp kept
      rw [finished] at outlined
      obtain ⟨f, d, done⟩ := outlined.finish
      have failed : f.failed = true := by
        by_contra succeeded
        exact error (d.returned.trans (if_neg succeeded))
      rw [Task.Done, if_pos failed] at done
      exact absurd rfl done.1
  | advance calling own =>
      have outlined := (kept_calling calling).mp kept
      obtain ⟨-, machine, moved, rfl⟩ := Hardware.moved_of_step own
      cases moved with
      | advance pending joined =>
          rw [pending] at outlined
          refine (kept_calling ?_).mpr (outlined.advance fun f d => describes_exec d joined)
          exact calling
  | other called advanced _ own =>
      obtain ⟨-, machine, moved, rfl⟩ := Hardware.moved_of_step own
      cases calling : σ.calling with
      | none =>
          obtain ⟨finished, f, d, agrees⟩ := (kept_idle calling).mp kept
          obtain ⟨after, same⟩ := describes_interfere d moved called advanced
          exact (kept_idle rfl).mpr ⟨same.trans finished, f, after, agrees⟩
      | some task =>
          have outlined := (kept_calling calling).mp kept
          obtain ⟨f, d, -⟩ := id outlined
          have same := (describes_interfere d moved called advanced).2
          rw [← same] at outlined
          exact (kept_calling rfl).mpr
            (outlined.interfere fun f d => (describes_interfere d moved called advanced).1)

/-- **The members follow the primary state.**  Started from a successful `on_init`, and
between any two calls that the resource manager makes, the hardware is active exactly in
the active state and listens exactly in the inactive and active states; an unconfigured
component has forgotten all it received, no lever topic carries anything but zero unless
the component is active, and a component that has been destroyed takes no step any more. -/
theorem members_follow_primary {stod : Stod} {baseOk : Bool} {info : HardwareInfo}
    {indices : List Axis} {hw : LeverHardware}
    (init : onInit stod baseOk info = .ok (P, indices, hw)) {clock : Time}
    {events : List (Time × Label)}
    (run : runs (step P throws) (start clock hw) events = some σ) (idle : σ.calling = none) :
    (σ.machine.hw.active = true ↔ σ.primary = .active) ∧
      (σ.machine.hw.executorRunning = true ↔ σ.primary = .inactive ∨ σ.primary = .active) ∧
      (σ.primary = .unconfigured → Cleared σ.machine.hw) ∧
      (σ.primary ≠ .active → (∀ n, throws n = false) → AtRest σ.machine.hw) ∧
      (σ.primary = .destroyed → ∀ event, step P throws σ event = none) := by
  obtain ⟨-, -, rfl⟩ := onInit_eq_ok init
  have kept : Kept throws σ :=
    runs_invariant (fun _ _ _ => kept_step) run (kept_start P clock)
  obtain ⟨-, f, d, active, running, resting, cleared⟩ := (kept_idle idle).mp kept
  refine ⟨?_, ?_, fun unconfigured => (d.cleared (cleared unconfigured)).2,
    fun inactive => d.resting (resting inactive), ?_⟩
  · rw [d.active, active, decide_eq_true_iff]
  · rw [d.running, running, decide_eq_true_iff]
  · intro gone event
    have stopped : σ.machine.hw.executorRunning = false := by
      rw [d.running, running, gone]
      rfl
    by_contra taken
    obtain ⟨τ, taken⟩ := Option.ne_none_iff_exists'.mp taken
    cases moved_of_step taken with
    | call _ allowed => simp [gone, Primary.allows] at allowed
    | destroy _ present => exact present gone
    | succeeds calling | fails calling | errorFails calling | advance calling =>
        rw [idle] at calling
        cases calling
    | other called advanced present own =>
        obtain ⟨-, machine, moved, rfl⟩ := Hardware.moved_of_step own
        cases moved with
        | @call op => exact called op rfl
        | advance => exact advanced rfl
        | assignEffort => exact present _ _ rfl gone
        | invalidate alive | stamp alive | mask alive => simp [stopped] at alive
        | store holding => simp [d.joined stopped] at holding

/-- A whole call of so many sections. -/
def wholeCall (op : ControlOp) : List Label :=
  .call op :: op.sections.map (fun _ => .thread .advance) ++ [.returns]

/-- The component is configured and activated with fresh feedback, and a write with an
effort on the swing has come to its publish loop. -/
def activateAndPush : List (Time × Label) :=
  let feedback (axis : Axis) (degrees : ℚ) : List Label :=
    [.thread (.deliver (.feedback axis (some (degrees : Double)))), .thread .store]
  let labels : List Label :=
    wholeCall (.onConfigure true) ++ feedback 0 0 ++ feedback 1 0 ++ feedback 2 90 ++ feedback 3 0 ++
      wholeCall .onActivate ++ [.thread (.assignEffort 0 (50 : ℚ)), .call .write, .thread .advance,
        .thread .advance]
  labels.map fun label => (0, label)

theorem members_follow_primary_deactivated :
    ∃ σ, runs (step defaultParameters noThrow) (start 0 (initialHardware defaultParameters))
        (activateAndPush ++ (.thread .advance :: .returns :: wholeCall .onDeactivate).map
          fun label => (0, label)) = some σ ∧
      (∃ call ∈ σ.machine.hw.attempts, call.data ≠ 0) ∧ σ.machine.hw.active = false ∧
      σ.machine.hw.executorRunning = true ∧ AtRest σ.machine.hw := by
  obtain ⟨σ, run, moved, idle, inactive⟩ :
      ∃ σ ∈ runs (step defaultParameters noThrow) (start 0 (initialHardware defaultParameters))
          (activateAndPush ++ (.thread .advance :: .returns :: wholeCall .onDeactivate).map
            fun label => (0, label)),
        (∃ call ∈ σ.machine.hw.attempts, call.data ≠ 0) ∧ σ.calling = none ∧
          σ.primary = .inactive := by
    decide +kernel
  obtain ⟨active, running, -, rest, -⟩ :=
    members_follow_primary (onInit_unset fun _ => .error "") run idle
  rw [inactive] at active running rest
  exact ⟨σ, run, moved, by simpa using active, by simpa using running, rest (by simp) fun _ => rfl⟩

/-- **Only the write of an active component moves a lever**: a step of a reachable component
publishes nothing but zero, unless it is the publish loop of a write in the active state. -/
theorem nonzero_only_from_active_write {stod : Stod} {baseOk : Bool} {info : HardwareInfo}
    {indices : List Axis} {hw : LeverHardware}
    (init : onInit stod baseOk info = .ok (P, indices, hw)) {clock : Time}
    {events : List (Time × Label)}
    (run : runs (step P throws) (start clock hw) events = some σ)
    (taken : step P throws σ event = some τ) :
    ∃ calls, τ.machine.hw.attempts = calls ++ σ.machine.hw.attempts ∧
      ∀ call ∈ calls, call.data ≠ 0 →
        σ.primary = .active ∧ σ.calling = some (.callback .write) ∧ event.2 = .thread .advance := by
  obtain ⟨-, -, rfl⟩ := onInit_eq_ok init
  have kept : Kept throws σ :=
    runs_invariant (fun _ _ _ => kept_step) run (kept_start P clock)
  cases moved_of_step taken with
  | call | destroy | succeeds | fails | errorFails => exact ⟨[], rfl, by simp⟩
  | advance calling own =>
      have outlined := (kept_calling calling).mp kept
      obtain ⟨calls, attempts, made⟩ := step_calls own
      refine ⟨calls, attempts, fun call member nonzero => ?_⟩
      obtain ⟨⟨-, rest, pending⟩, inLoop⟩ := (made call member).2 nonzero
      rw [pending] at outlined
      obtain ⟨f, d, safe⟩ := outlined.isSafe
      have enabled : f.enabled = true := by
        refine d.enabled ?_
        by_contra shut
        exact nonzero (allZero_loopCalls P (.inl (by simpa using shut)) call inLoop).1
      obtain ⟨active, rfl⟩ := safe rfl enabled
      exact ⟨active, calling, rfl⟩
  | other called advanced _ own =>
      obtain ⟨calls, attempts, made⟩ := step_calls own
      exact ⟨calls, attempts, fun call member nonzero =>
        absurd ((made call member).2 nonzero).1.1 advanced⟩

theorem nonzero_only_from_active_write_push :
    ∃ σ τ calls, runs (step defaultParameters noThrow) (start 0 (initialHardware defaultParameters))
        activateAndPush = some σ ∧
      step defaultParameters noThrow σ (0, .thread .advance) = some τ ∧
      τ.machine.hw.attempts = calls ++ σ.machine.hw.attempts ∧
      lastMessage τ.machine.hw.attempts 0 = some (Double.finite 50) ∧
      ∀ call ∈ calls, call.data ≠ 0 → σ.primary = .active ∧ σ.calling = some (.callback .write) := by
  obtain ⟨σ, run, τ, taken, pushed⟩ :
      ∃ σ ∈ runs (step defaultParameters noThrow) (start 0 (initialHardware defaultParameters))
          activateAndPush,
        ∃ τ ∈ step defaultParameters noThrow σ (0, .thread .advance),
          lastMessage τ.machine.hw.attempts 0 = some (Double.finite 50) := by
    decide +kernel
  obtain ⟨calls, attempts, made⟩ :=
    nonzero_only_from_active_write (onInit_unset fun _ => .error "") run taken
  exact ⟨σ, τ, calls, run, taken, attempts, pushed,
    fun call member nonzero => ⟨(made call member nonzero).1, (made call member nonzero).2.1⟩⟩

end Component

end Component

end Tb20e.Hardware
