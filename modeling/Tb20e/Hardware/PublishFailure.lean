/-
# Hardware.PublishFailure -- what a publish call that throws leaves behind

A `publish` may throw at any call, in the loop of `write` and in the zeroing.  The
model of `Hardware.Sections` has each `try` block folded into a flag;
`writePublishThrowing` is the same code with its exceptions, and
`writePublishThrowing_eq` says that none leaves it.

After a failed write the latch is set and no call is under way, so the machine is
`Muted`: whatever is published from there on is zero, until an `on_activate` has
returned success.  The invariant is kept by every step for every pattern of failures
(`muted_step`), so it does not matter which calls throw later.
-/
import Tb20e.Hardware.FaultLatch

namespace Tb20e.Hardware

set_option autoImplicit false

open Tb20e.Theory Tb20e.Control
open Tb20e.Theory (Double)

/-! ## The publish section of `write`, with its exceptions -/

/-- Code that reads and writes the members and may throw. -/
abbrev Throwing := EStateM String LeverHardware

section Throwing

variable (P : Parameters) (throws : ℕ → Bool)

def publishThrowing (axis : Axis) (data : Double) : Throwing Unit := fun s =>
  let (s, threw) := publish throws axis data s
  if threw then .error "publish" s else .ok () s

/-- A `try` block around a statement: whether the statement threw. -/
def threw (statement : Throwing Unit) : Throwing Bool :=
  tryCatch (do statement; pure false) fun _ => pure true

/-- The loop body of `write`: whether a publish has failed, so far and after it. -/
def writeAxisThrowing (locals : Locals) (mask : BitVec 8) (publishFailed : Bool) (axis : Axis) :
    Throwing Bool := do
  let s ← get
  let (command, direction) := leverCommand P locals s.feedbackFaultLatched mask
    (s.effortCommands axis) (s.activeDirection axis) axis
  set { s with
    activeDirection := Function.update s.activeDirection axis direction
    staleReported := Function.update s.staleReported axis
      (staleAfter locals s.feedbackFaultLatched (s.staleReported axis) axis) }
  let failed ← threw (publishThrowing throws axis (if command.isFinite then command else 0))
  return publishFailed || failed

def publishZeroThrowing (axis : Axis) : Throwing Unit := do
  if (← get).commandPublishers axis then
    let _ ← threw (publishThrowing throws axis 0)

def publishZeroToAllAxesThrowing : Throwing Unit := axes.forM (publishZeroThrowing throws)

def writePublishThrowing (locals : Locals) : Throwing ReturnCode := do
  let mask := (← get).activeAxisMask
  let publishFailed ← axes.foldlM (writeAxisThrowing P throws locals mask) false
  if publishFailed then
    modify fun s => { s with feedbackFaultLatched := true }
    publishZeroToAllAxesThrowing throws
    return .error
  else return .ok

end Throwing

section Run

variable (P : Parameters) (throws : ℕ → Bool)

/-- After a statement that did not throw, the rest runs from the state it left. -/
theorem run_bind {α β : Type} (first : Throwing α) {rest : α → Throwing β} {s s' : LeverHardware}
    {a : α} (ran : first.run s = .ok a s') : (first >>= rest).run s = (rest a).run s' := by
  simp only [EStateM.run] at ran ⊢
  simp only [bind, EStateM.bind, ran]

theorem threw_publishThrowing_run (axis : Axis) (data : Double) (s : LeverHardware) :
    (threw (publishThrowing throws axis data)).run s =
      .ok (publish throws axis data s).2 (publish throws axis data s).1 := by
  have answer : publishThrowing throws axis data s =
      if (publish throws axis data s).2 then .error "publish" (publish throws axis data s).1
      else .ok () (publish throws axis data s).1 := rfl
  simp only [threw, EStateM.run, bind, EStateM.bind, tryCatch, tryCatchThe,
    MonadExceptOf.tryCatch, EStateM.tryCatch, answer]
  cases (publish throws axis data s).2 <;> rfl

theorem writeAxisThrowing_run (locals : Locals) (mask : BitVec 8) (publishFailed : Bool)
    (axis : Axis) (s : LeverHardware) :
    (writeAxisThrowing P throws locals mask publishFailed axis).run s =
      .ok (writeAxis P throws locals mask (s, publishFailed) axis).2
        (writeAxis P throws locals mask (s, publishFailed) axis).1 := by
  unfold writeAxisThrowing
  rw [run_bind get rfl, run_bind (set _) rfl,
    run_bind _ (threw_publishThrowing_run throws axis _ _)]
  rfl

theorem publishZeroThrowing_run (axis : Axis) (s : LeverHardware) :
    (publishZeroThrowing throws axis).run s = .ok () (publishZero throws s axis) := by
  unfold publishZeroThrowing publishZero
  rw [run_bind get rfl]
  split
  · rw [run_bind _ (threw_publishThrowing_run throws axis 0 s)]
    rfl
  · rfl

/-- A loop whose body never throws never throws. -/
theorem foldlM_run {β : Type} {body : β → Axis → Throwing β}
    {model : LeverHardware × β → Axis → LeverHardware × β}
    (each : ∀ b axis s, (body b axis).run s = .ok (model (s, b) axis).2 (model (s, b) axis).1)
    (visited : List Axis) (b : β) (s : LeverHardware) :
    (visited.foldlM body b).run s =
      .ok (visited.foldl model (s, b)).2 (visited.foldl model (s, b)).1 := by
  induction visited generalizing b s with
  | nil => rfl
  | cons axis rest ih =>
      rw [List.foldlM_cons, run_bind _ (each b axis s)]
      exact ih _ _

theorem forM_run {body : Axis → Throwing Unit} {model : LeverHardware → Axis → LeverHardware}
    (each : ∀ axis s, (body axis).run s = .ok () (model s axis)) (visited : List Axis)
    (s : LeverHardware) : (visited.forM body).run s = .ok () (visited.foldl model s) := by
  induction visited generalizing s with
  | nil => rfl
  | cons axis rest ih => exact (run_bind _ (each axis s)).trans (ih _)

/-- **No exception leaves the publish section**, and it does what the model says. -/
theorem writePublishThrowing_eq (c : Control) :
    (writePublishThrowing P throws c.locals).run c.hw =
      .ok (writePublish P throws c).locals.returned (writePublish P throws c).hw := by
  unfold writePublishThrowing writePublish
  rw [run_bind get rfl, run_bind _ (foldlM_run
    (writeAxisThrowing_run P throws c.locals c.hw.activeAxisMask) axes false c.hw)]
  generalize axes.foldl (writeAxis P throws c.locals c.hw.activeAxisMask) (c.hw, false) = looped
  obtain ⟨s, publishFailed⟩ := looped
  cases publishFailed with
  | true =>
      exact (run_bind (modify _) rfl).trans
        (run_bind _ (forM_run (publishZeroThrowing_run throws) axes _))
  | false => rfl

/-- A publish section in whose loop no call threw. -/
theorem writePublish_of_ok {c : Control} (ok : (loopCalls P throws c).any (·.threw) = false) :
    (writePublish P throws c).locals.returned = .ok ∧
      (writePublish P throws c).hw.attempts = loopCalls P throws c ++ c.hw.attempts := by
  simp [writePublish_eq, ok]

/-- A publish section in whose loop some call threw. -/
theorem writePublish_of_failed {c : Control}
    (failed : (loopCalls P throws c).any (·.threw) = true) :
    (writePublish P throws c).locals.returned = .error ∧
      (writePublish P throws c).hw.feedbackFaultLatched = true ∧
      (writePublish P throws c).hw.attempts =
        zeroCalls throws c.hw.commandPublishers axes
          (loopCalls P throws c ++ c.hw.attempts).length ++
          (loopCalls P throws c ++ c.hw.attempts) := by
  simp [writePublish_eq, failed]

/-! ## After a failed write -/

/-- A step that returns from `on_activate` with success. -/
def succeeds (σ : Machine) (event : Time × Label) : Bool :=
  match event.2, σ.pending with
  | .advance, [.refuseUnlessReady] => σ.locals.feedbackReady
  | _, _ => false

/-- The steps of the machine, up to the next return of success from `on_activate`. -/
def stepUntilSuccess (σ : Machine) (event : Time × Label) : Option Machine :=
  if succeeds σ event then none else step P throws σ event

/-- What holds after a failed write, `before` being the publish calls up to it: the
machine is shut, or an `on_activate` has ended its wait with success and only has to
return. -/
structure Muted (before : List Attempt) (σ : Machine) : Prop where
  sequenced : Sequenced σ
  quiet : Shut σ ∨ σ.pending = [.refuseUnlessReady] ∧ σ.locals.feedbackReady = true
  zeros : ∃ calls, σ.hw.attempts = calls ++ before ∧ AllZero throws calls

variable {P throws}

/-- An `on_activate` that waits with success has only to return. -/
theorem ready_of_activates {σ τ : Machine} {event : Time × Label} (sequenced : Sequenced σ)
    (activating : activates P σ event = true) (taken : step P throws σ event = some τ) :
    τ.pending = [.refuseUnlessReady] ∧ τ.locals.feedbackReady = true := by
  obtain ⟨now, label⟩ := event
  obtain ⟨-, τ', moved, rfl⟩ := moved_of_step taken
  cases moved with
  | @advance sec rest pending joined =>
      have underway := sequenced.underway
      rw [pending] at underway
      cases sec <;> simp only [activates, pending, Bool.false_eq_true] at activating
      obtain rfl := waitForFeedback_rest underway
      exact ⟨rfl, by simp [Section.exec, activating]⟩
  | call | assignEffort | invalidate | stamp | mask | store => cases activating

/-- **One step while muted**, up to a return of success from `on_activate`. -/
theorem muted_step {before : List Attempt} {σ τ : Machine} {event : Time × Label}
    (m : Muted throws before σ) (taken : stepUntilSuccess P throws σ event = some τ) :
    Muted throws before τ := by
  obtain ⟨notSucceeding, taken⟩ : succeeds σ event = false ∧ step P throws σ event = some τ := by
    simpa [stepUntilSuccess] using taken
  have closed (left : σ.pending = [.writePublish]) :
      σ.locals.outputEnabled = false ∨ σ.hw.feedbackFaultLatched = true := by
    rcases m.quiet with shut | ⟨returning, -⟩
    · exact closed_of_shut shut left
    · rw [left] at returning; cases returning
  obtain ⟨calls, same, zero⟩ := zeros_step m.sequenced closed taken
  refine ⟨sequenced_step m.sequenced taken, ?_, same ▸ zeros_append zero m.zeros⟩
  rcases m.quiet with shut | ⟨returning, ready⟩
  · by_cases activating : activates P σ event = true
    · exact .inr (ready_of_activates m.sequenced activating taken)
    · have stepped : stepUntilActivation P throws σ event = some τ := by
        simpa [stepUntilActivation, activating] using taken
      exact .inl (shut_step m.sequenced shut stepped)
  · -- The control thread can only return, and that step is excluded.
    right
    obtain ⟨now, label⟩ := event
    obtain ⟨-, τ', moved, rfl⟩ := moved_of_step taken
    cases moved with
    | call idle | assignEffort idle => rw [idle] at returning; cases returning
    | advance => simp [succeeds, returning, ready] at notSucceeding
    | invalidate | stamp | mask | store => exact ⟨returning, ready⟩

theorem muted_run {before : List Attempt} {σ τ : Machine} {events : List (Time × Label)}
    (m : Muted throws before σ) (run : runs (stepUntilSuccess P throws) σ events = some τ) :
    Muted throws before τ :=
  runs_invariant (fun _ _ _ muted taken => muted_step muted taken) run m

/-- **A publish failure leaves zero on every lever.**  Take any state in which a
`write` enters its publish section, and any pattern of publish calls that throw.  No
exception leaves the section, each axis is attempted once in the loop, and `write`
returns the error exactly when one of those calls threw.  Then the latch is set, every
axis with a publisher is attempted once more with zero, and every later call is zero
until an `on_activate` has returned success. -/
theorem failed_publish_leaves_zero {σ τ : Machine} {now : Time}
    (publishing : σ.pending = [.writePublish])
    (taken : step P throws σ (now, .advance) = some τ) :
    (writePublishThrowing P throws σ.locals).run σ.hw = .ok τ.locals.returned τ.hw ∧
    ∃ loop zeros : List Attempt,
      τ.hw.attempts = zeros ++ (loop ++ σ.hw.attempts) ∧
      loop.map (·.axis) = axes.reverse ∧
      (τ.locals.returned = .error ↔ ∃ call ∈ loop, call.threw = true) ∧
      (τ.locals.returned = .error →
        τ.hw.feedbackFaultLatched = true ∧
        (∀ axis, σ.hw.commandPublishers axis = true →
          ∃ call ∈ zeros, call.axis = axis ∧ call.data = 0) ∧
        ∀ later ρ, runs (stepUntilSuccess P throws) τ later = some ρ →
          ∃ calls, ρ.hw.attempts = calls ++ τ.hw.attempts ∧ ∀ call ∈ calls, call.data = 0) := by
  have sequenced : Sequenced σ := by
    refine ⟨⟨.write, by rw [publishing]; exact ⟨[.writeSnapshot, .writeTest], rfl⟩⟩, ?_⟩
    intro sec rest next later
    obtain ⟨rfl, -⟩ := List.cons.inj (next.symm.trans publishing)
    cases later
  have sequencedAfter := sequenced_step sequenced taken
  obtain ⟨-, τ', moved, rfl⟩ := moved_of_step taken
  cases moved with
  | @advance sec rest pending joined =>
      obtain ⟨rfl, rfl⟩ := List.cons.inj (publishing.symm.trans pending)
      have threwIff : (loopCalls P throws σ.control).any (·.threw) = true ↔
          ∃ call ∈ loopCalls P throws σ.control, call.threw = true := List.any_eq_true
      refine ⟨writePublishThrowing_eq P throws σ.control, loopCalls P throws σ.control, ?_⟩
      cases failed : (loopCalls P throws σ.control).any (·.threw) with
      | false =>
          obtain ⟨returned, attempts⟩ := writePublish_of_ok P throws failed
          have notError : (writePublish P throws σ.control).locals.returned ≠ .error := by
            simp [returned]
          refine ⟨[], attempts, rfl, ?_, fun isError => absurd isError notError⟩
          rw [← threwIff, failed]
          exact iff_of_false notError Bool.false_ne_true
      | true =>
          obtain ⟨returned, latched, attempts⟩ := writePublish_of_failed P throws failed
          refine ⟨_, attempts, rfl, iff_of_true returned (threwIff.mp failed), ?_⟩
          refine fun _ => ⟨latched, ?_, ?_⟩
          · intro axis created
            obtain ⟨call, member, same⟩ := exists_mem_zeroCalls throws created (mem_axes axis)
              (loopCalls P throws σ.control ++ σ.hw.attempts).length
            exact ⟨call, member, same, (allZero_zeroCalls throws _ _ _ call member).1⟩
          · intro later ρ run
            obtain ⟨calls, same, zero⟩ := (muted_run
              ⟨sequencedAfter, .inl (.latched latched), ⟨[], rfl, by simp [AllZero]⟩⟩ run).zeros
            exact ⟨calls, same, fun call member => (zero call member).1⟩

/-- The third call of a publish loop fails, and so does the second of its zeroing. -/
def twoFailures : ℕ → Bool := fun n => n = 6 ∨ n = 9

theorem failed_publish_leaves_zero_in_tested_write :
    ∃ σ τ ρ : Machine,
      runs (step defaultParameters twoFailures)
        (Machine.start 0 (initialHardware defaultParameters)) (activation ++ testedWrite) = some σ ∧
      step defaultParameters twoFailures σ (0, .advance) = some τ ∧
      runs (stepUntilSuccess defaultParameters twoFailures) τ
        [(0, .call .write), (0, .advance), (0, .advance), (0, .advance)] = some ρ ∧
      (τ.hw.attempts.take 8).map (·.threw) = [false, false, true, false, false, true, false, false] ∧
      τ.locals.returned = .error ∧ τ.hw.feedbackFaultLatched = true ∧
      ∃ calls, ρ.hw.attempts = calls ++ τ.hw.attempts ∧ ∀ call ∈ calls, call.data = 0 := by
  obtain ⟨σ, reached, publishing, τ, taken, returned, threw, onward⟩ :
      ∃ σ ∈ runs (step defaultParameters twoFailures)
          (Machine.start 0 (initialHardware defaultParameters)) (activation ++ testedWrite),
        σ.pending = [.writePublish] ∧
          ∃ τ ∈ step defaultParameters twoFailures σ (0, .advance),
            τ.locals.returned = .error ∧
            (τ.hw.attempts.take 8).map (·.threw) =
              [false, false, true, false, false, true, false, false] ∧
            (runs (stepUntilSuccess defaultParameters twoFailures) τ
              [(0, .call .write), (0, .advance), (0, .advance), (0, .advance)]).isSome = true := by
    decide +kernel
  obtain ⟨ρ, onward⟩ := Option.isSome_iff_exists.mp onward
  obtain ⟨-, loop, zeros, -, -, -, failure⟩ := failed_publish_leaves_zero publishing taken
  obtain ⟨latched, -, after⟩ := failure returned
  exact ⟨σ, τ, ρ, reached, taken, onward, threw, returned, latched, after _ ρ onward⟩

end Run

end Tb20e.Hardware
