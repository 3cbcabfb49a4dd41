/-
# Hardware.Sequential -- whole calls and whole messages, one after another

A `System` is the hardware and the clock.  One step is a whole call of the
control thread, a whole subscription callback or the assignment of an effort, at
a reading of the clock that never goes back.  The one call that messages arrive
in is `on_activate`, which waits for them before it reads the clock.

This is the view in which a statement says "after any sequence of calls and
messages".  It is not a second model: `interleaved_of_runs` turns every run of a
`System` into a run of the two threads of `Hardware.Threads`, so what holds under
every interleaving holds here, and every call is the list of sections it is
there.

* `step_messages` and `runs_messages` carry an invariant that speaks of the
  messages received so far;
* `Ran` says what can happen between two lifecycle calls;
* `activated_of_call` says what a successful `on_activate` leaves.
-/
import Tb20e.Hardware.Stamps

namespace Tb20e.Hardware

set_option autoImplicit false

open Tb20e.Theory Tb20e.Control
open Tb20e.Theory (Double)

/-- The sections that read the clock. -/
def Section.readsClock : Section → Bool
  | .waitForFeedback | .readFeedback | .writeSnapshot => true
  | _ => false

/-- What a call does before it reads the clock. -/
def ControlOp.beforeClock (op : ControlOp) : List Section :=
  op.sections.takeWhile fun sec => !sec.readsClock

/-- What a call does from its reading of the clock on. -/
def ControlOp.fromClock (op : ControlOp) : List Section :=
  op.sections.dropWhile fun sec => !sec.readsClock

theorem beforeClock_append_fromClock (op : ControlOp) :
    op.beforeClock ++ op.fromClock = op.sections :=
  List.takeWhile_append_dropWhile

structure System where
  clock : Time
  hw : LeverHardware

inductive Op where
  /-- A call, and the messages that arrive while it waits. -/
  | call (op : ControlOp) (waited : List (Time × Callback))
  /-- A controller assigns an effort between two calls. -/
  | assignEffort (axis : Axis) (value : Double)
  | deliver (callback : Callback)

section Step

variable (P : Parameters) (throws : ℕ → Bool)

/-- Sections in order, nothing coming between them. -/
def execAll (now : Time) (sections : List Section) (c : Control) : Control :=
  sections.foldl (fun c sec => sec.exec P throws now c) c

namespace System

/-- The system that `on_init` leaves. -/
def start (clock : Time) (hw : LeverHardware) : System := { clock, hw }

/-- The executor thread takes one message, from its clock reading to its end. -/
def take (σ : System) (message : Time × Callback) : Option System :=
  if σ.clock ≤ message.1 ∧ σ.hw.executorRunning = true ∧ message.2.subscribed P = true then
    some { clock := message.1, hw := message.2.exec P throws message.1 σ.hw }
  else none

/-- A call that reads the clock at `now`. -/
def call (σ : System) (op : ControlOp) (waited : List (Time × Callback)) (now : Time) :
    Option System :=
  if op ≠ .onActivate ∧ waited ≠ [] then none
  else
    let c := execAll P throws σ.clock op.beforeClock { hw := σ.hw, locals := {} }
    (runs (take P throws) { σ with hw := c.hw } waited).bind fun σ' =>
      if now < σ'.clock then none
      else some { clock := now
                  hw := (execAll P throws now op.fromClock { c with hw := σ'.hw }).hw }

def step (σ : System) (event : Time × Op) : Option System :=
  match event.2 with
  | .call op waited => call P throws σ op waited event.1
  | .assignEffort axis value =>
      if event.1 < σ.clock then none
      else some { clock := event.1
                  hw := { σ.hw with
                    effortCommands := Function.update σ.hw.effortCommands axis value } }
  | .deliver callback => take P throws σ (event.1, callback)

end System

end Step

variable {P : Parameters} {throws : ℕ → Bool} {σ τ : System} {now : Time}

namespace System

theorem take_eq_some {message : Time × Callback} :
    take P throws σ message = some τ ↔
      (σ.clock ≤ message.1 ∧ σ.hw.executorRunning = true ∧ message.2.subscribed P = true) ∧
        τ = { clock := message.1, hw := message.2.exec P throws message.1 σ.hw } := by
  unfold take
  split
  · next allowed => simp [allowed, eq_comm]
  · next refused => simp [refused]

theorem call_eq_some {op : ControlOp} {waited : List (Time × Callback)} :
    call P throws σ op waited now = some τ ↔
      (op ≠ .onActivate → waited = []) ∧ ∃ σ',
        runs (take P throws)
            { σ with hw :=
              (execAll P throws σ.clock op.beforeClock { hw := σ.hw, locals := {} }).hw }
            waited = some σ' ∧ σ'.clock ≤ now ∧
          τ = { clock := now
                hw := (execAll P throws now op.fromClock
                  { execAll P throws σ.clock op.beforeClock { hw := σ.hw, locals := {} } with
                    hw := σ'.hw }).hw } := by
  unfold call
  by_cases intruded : op ≠ .onActivate ∧ waited ≠ []
  · rw [if_pos intruded]
    simp [intruded]
  · rw [if_neg intruded]
    have quiet : op ≠ .onActivate → waited = [] := by simpa using intruded
    rw [and_iff_right quiet, Option.bind_eq_some_iff]
    simp only [Option.ite_none_left_eq_some, not_lt, Option.some.injEq, @eq_comm _ τ]

/-- A call that nothing arrives in runs its sections at one clock reading or
before it. -/
theorem call_nil_eq_some {op : ControlOp} :
    call P throws σ op [] now = some τ ↔
      σ.clock ≤ now ∧
        τ = { clock := now
              hw := (execAll P throws now op.fromClock
                (execAll P throws σ.clock op.beforeClock { hw := σ.hw, locals := {} })).hw } := by
  rw [call_eq_some]
  constructor
  · rintro ⟨-, σ', waitless, forward, same⟩
    cases waitless
    exact ⟨forward, same⟩
  · rintro ⟨forward, same⟩
    exact ⟨fun _ => rfl, _, rfl, forward, same⟩

end System

/-! ## Invariants that speak of the messages -/

/-- The messages that a step takes, with their clock readings. -/
def received (event : Time × Op) : List (Time × Callback) :=
  match event.2 with
  | .call _ waited => waited
  | .assignEffort _ _ => []
  | .deliver callback => [(event.1, callback)]

/-- The messages of a run, oldest first. -/
def messages (events : List (Time × Op)) : List (Time × Callback) := events.flatMap received

/-- What has to be shown of a property of the hardware and of the messages that
it has received: it is kept by every section, by an effort and by a message. -/
structure KeptWithMessages (P : Parameters) (throws : ℕ → Bool)
    (Inv : List (Time × Callback) → LeverHardware → Prop) : Prop where
  exec : ∀ past (sec : Section) now (c : Control), Inv past c.hw →
    Inv past (sec.exec P throws now c).hw
  effort : ∀ past s axis value, Inv past s →
    Inv past { s with effortCommands := Function.update s.effortCommands axis value }
  callback : ∀ past s now (callback : Callback), callback.subscribed P = true → Inv past s →
    Inv (past ++ [(now, callback)]) (callback.exec P throws now s)

section Messages

variable {Inv : List (Time × Callback) → LeverHardware → Prop}
  (kept : KeptWithMessages P throws Inv)
include kept

theorem execAll_messages {past : List (Time × Callback)} (sections : List Section) {c : Control}
    (before : Inv past c.hw) : Inv past (execAll P throws now sections c).hw := by
  induction sections generalizing c with
  | nil => exact before
  | cons sec rest ih => exact ih (kept.exec past sec now c before)

theorem take_messages {past : List (Time × Callback)} {message : Time × Callback}
    (taken : System.take P throws σ message = some τ) (before : Inv past σ.hw) :
    Inv (past ++ [message]) τ.hw := by
  obtain ⟨⟨-, -, subscribed⟩, rfl⟩ := System.take_eq_some.mp taken
  exact kept.callback past σ.hw message.1 message.2 subscribed before

theorem step_messages {past : List (Time × Callback)} {event : Time × Op}
    (taken : System.step P throws σ event = some τ) (before : Inv past σ.hw) :
    Inv (past ++ received event) τ.hw := by
  obtain ⟨now, op⟩ := event
  cases op with
  | call op waited =>
      obtain ⟨-, σ', waits, -, rfl⟩ := System.call_eq_some.mp taken
      have waiting := runs_history_invariant (I := fun past σ => Inv past σ.hw)
        (fun _ _ _ _ before taken => take_messages kept taken before) past waits
        (execAll_messages kept op.beforeClock before)
      exact execAll_messages kept op.fromClock waiting
  | assignEffort axis value =>
      simp only [System.step, Option.ite_none_left_eq_some, Option.some.injEq] at taken
      obtain ⟨-, rfl⟩ := taken
      simpa [received] using kept.effort past σ.hw axis value before
  | deliver callback => exact take_messages kept taken before

/-- **Invariants with messages**: what each section and each message keeps, every
run keeps. -/
theorem runs_messages {events : List (Time × Op)}
    (run : runs (System.step P throws) σ events = some τ) (start : Inv [] σ.hw) :
    Inv (messages events) τ.hw := by
  refine runs_history_invariant (I := fun events (σ : System) => Inv (messages events) σ.hw)
    ?_ [] run start
  intro earlier _ event _ before taken
  simpa [messages] using step_messages kept taken before

end Messages

/-! ## A sequential run is an interleaving -/

/-- A machine whose executor thread is between two callbacks, in the system's state. -/
structure Follows (M : Machine) (σ : System) : Prop where
  hw : M.hw = σ.hw
  clock : M.clock ≤ σ.clock
  free : M.stamped = none

/-- The control thread runs the next sections of its call undisturbed. -/
theorem interleaved_sections (P : Parameters) (throws : ℕ → Bool) (now : Time)
    {sections rest : List Section} {M : Machine}
    (pending : M.pending = sections ++ rest) (free : M.stamped = none) (forward : M.clock ≤ now) :
    ∃ labels M', runs (step P throws) M labels = some M' ∧
      M'.control = execAll P throws now sections M.control ∧ M'.pending = rest ∧
      M'.stamped = none ∧ M'.clock ≤ now := by
  induction sections generalizing M with
  | nil => exact ⟨[], M, rfl, rfl, pending, free, forward⟩
  | cons sec sections ih =>
      let M₁ : Machine :=
        { M with clock := now, control := sec.exec P throws now M.control,
                 pending := sections ++ rest }
      have first : step P throws M (now, .advance) = some M₁ :=
        step_eq_some.mpr ⟨forward, { M₁ with clock := M.clock }, by simp [move, pending, free, M₁],
          rfl⟩
      obtain ⟨labels, M', later, control, left, free', clock⟩ := ih (M := M₁) rfl free le_rfl
      exact ⟨(now, .advance) :: labels, M', runs_cons_eq_some.mpr ⟨M₁, first, later⟩, control, left,
        free', clock⟩

/-- The executor thread takes one message; an accepted sample is two steps. -/
theorem interleaved_take {message : Time × Callback} {M : Machine} (follows : Follows M σ)
    (taken : System.take P throws σ message = some τ) :
    ∃ labels M', runs (step P throws) M labels = some M' ∧ Follows M' τ ∧
      M'.locals = M.locals ∧ M'.pending = M.pending := by
  obtain ⟨stamp, callback⟩ := message
  obtain ⟨⟨forward, running, subscribed⟩, rfl⟩ := System.take_eq_some.mp taken
  have past : M.clock ≤ stamp := follows.clock.trans forward
  have allowed : M.hw.executorRunning = true ∧ M.stamped = none ∧ callback.subscribed P = true :=
    ⟨follows.hw ▸ running, follows.free, subscribed⟩
  have delivered : step P throws M (stamp, .deliver callback) =
      some { deliver P throws stamp M callback with clock := stamp } :=
    step_eq_some.mpr ⟨past, _, if_pos allowed, rfl⟩
  cases callback with
  | mask data =>
      exact ⟨[_], _, runs_singleton.trans delivered,
        ⟨congrArg (activeAxisMaskCallback data) follows.hw, le_rfl, follows.free⟩, rfl, rfl⟩
  | feedback axis message =>
      cases position : acceptedPosition P axis message with
      | none =>
          simp only [deliver, position] at delivered
          refine ⟨[_], _, runs_singleton.trans delivered, ⟨?_, le_rfl, follows.free⟩, rfl, rfl⟩
          simp [Callback.exec, position, ← follows.hw, Machine.hw]
      | some positionRad =>
          simp only [deliver, position] at delivered
          have stored : step P throws
              { M with clock := stamp, stamped := some (axis, positionRad, stamp) }
              (stamp, .store) = some
                { M with clock := stamp, stamped := none,
                         control.hw := storeSample axis positionRad stamp M.hw } :=
            step_eq_some.mpr ⟨le_rfl, _, rfl, rfl⟩
          refine ⟨[_, _], _, runs_cons_eq_some.mpr ⟨_, delivered, runs_singleton.trans stored⟩,
            ⟨?_, le_rfl, rfl⟩, rfl, rfl⟩
          simp [Callback.exec, position, ← follows.hw, Machine.hw]

theorem interleaved_wait {waited : List (Time × Callback)} {M : Machine} (follows : Follows M σ)
    (waits : runs (System.take P throws) σ waited = some τ) :
    ∃ labels M', runs (step P throws) M labels = some M' ∧ Follows M' τ ∧
      M'.locals = M.locals ∧ M'.pending = M.pending := by
  induction waited generalizing σ M with
  | nil =>
      cases waits
      exact ⟨[], M, rfl, follows, rfl, rfl⟩
  | cons message rest ih =>
      obtain ⟨σ', taken, later⟩ := runs_cons_eq_some.mp waits
      obtain ⟨first, M₁, run₁, follows₁, locals₁, pending₁⟩ := interleaved_take follows taken
      obtain ⟨second, M₂, run₂, follows₂, locals₂, pending₂⟩ := ih follows₁ later
      exact ⟨first ++ second, M₂, runs_append_eq_some.mpr ⟨M₁, run₁, run₂⟩, follows₂,
        locals₂.trans locals₁, pending₂.trans pending₁⟩

theorem interleaved_step {event : Time × Op} {M : Machine} (follows : Follows M σ)
    (idle : M.pending = []) (taken : System.step P throws σ event = some τ) :
    ∃ labels M', runs (step P throws) M labels = some M' ∧ Follows M' τ ∧ M'.pending = [] := by
  obtain ⟨now, op⟩ := event
  cases op with
  | call op waited =>
      obtain ⟨-, σ', waits, forward, rfl⟩ := System.call_eq_some.mp taken
      let M₁ : Machine :=
        { M with clock := σ.clock, control.locals := {}, pending := op.sections }
      have called : step P throws M (σ.clock, .call op) = some M₁ :=
        step_eq_some.mpr ⟨follows.clock, { M₁ with clock := M.clock }, if_pos idle, rfl⟩
      have control₁ : M₁.control = { hw := σ.hw, locals := {} } :=
        congrArg (fun hw => Control.mk hw {}) follows.hw
      obtain ⟨labels₂, M₂, run₂, control₂, pending₂, free₂, clock₂⟩ := interleaved_sections P throws
        σ.clock (M := M₁) (beforeClock_append_fromClock op).symm follows.free le_rfl
      rw [control₁] at control₂
      obtain ⟨labels₃, M₃, run₃, follows₃, locals₃, pending₃⟩ := interleaved_wait
        (σ := { σ with hw := _ }) (M := M₂) ⟨congrArg Control.hw control₂, clock₂, free₂⟩ waits
      obtain ⟨labels₄, M₄, run₄, control₄, pending₄, free₄, clock₄⟩ := interleaved_sections P throws
        now (M := M₃) (by rw [pending₃, pending₂, List.append_nil]) follows₃.free
        (follows₃.clock.trans forward)
      refine ⟨(σ.clock, .call op) :: (labels₂ ++ (labels₃ ++ labels₄)), M₄,
        runs_cons_eq_some.mpr ⟨M₁, called, runs_append_eq_some.mpr ⟨M₂, run₂,
          runs_append_eq_some.mpr ⟨M₃, run₃, run₄⟩⟩⟩, ⟨?_, clock₄, free₄⟩, pending₄⟩
      have control₃ : M₃.control =
          { execAll P throws σ.clock op.beforeClock { hw := σ.hw, locals := {} } with
            hw := σ'.hw } := by
        rw [← control₂, ← follows₃.hw]
        exact congrArg (Control.mk M₃.control.hw) locals₃
      rw [Machine.hw, control₄, control₃]
  | assignEffort axis value =>
      simp only [System.step, Option.ite_none_left_eq_some, Option.some.injEq, not_lt] at taken
      obtain ⟨forward, rfl⟩ := taken
      refine ⟨[(now, .assignEffort axis value)], _, runs_singleton.trans (step_eq_some.mpr
        ⟨follows.clock.trans forward, _, if_pos idle, rfl⟩), ⟨?_, le_rfl, follows.free⟩, idle⟩
      simp [Machine.hw, ← follows.hw]
  | deliver callback =>
      obtain ⟨labels, M', run, follows', -, pending⟩ := interleaved_take follows taken
      exact ⟨labels, M', run, follows', pending.trans idle⟩

/-- **A sequential run is an interleaving** of the two threads, which ends
between two calls and between two callbacks. -/
theorem interleaved_of_runs {clock : Time} {hw : LeverHardware} {events : List (Time × Op)}
    (run : runs (System.step P throws) (System.start clock hw) events = some σ) :
    ∃ labels M, runs (step P throws) (Machine.start clock hw) labels = some M ∧ Follows M σ ∧
      M.pending = [] := by
  refine runs_invariant (I := fun σ => ∃ labels M,
      runs (step P throws) (Machine.start clock hw) labels = some M ∧ Follows M σ ∧ M.pending = [])
    ?_ run ⟨[], _, rfl, ⟨rfl, le_rfl, rfl⟩, rfl⟩
  rintro σ event τ ⟨labels, M, before, follows, idle⟩ taken
  obtain ⟨labels', M', after, follows', idle'⟩ := interleaved_step follows idle taken
  exact ⟨labels ++ labels', M', runs_append_eq_some.mpr ⟨M, before, after⟩, follows', idle'⟩

/-- What the threads keep of the samples and the estimators, a system keeps. -/
theorem stampedAt_reachable {clock : Time} {events : List (Time × Op)}
    (run : runs (System.step P throws) (System.start clock (initialHardware P)) events = some σ) :
    StampedAt σ.clock σ.hw := by
  obtain ⟨labels, M, interleaved, follows, -⟩ := interleaved_of_runs run
  have stamped : Stamped M := runs_invariant (fun _ _ _ inv taken => stamped_step inv taken)
    interleaved (stamped_start P clock)
  exact follows.hw ▸ stamped.hw.mono (stamped.horizon_le.trans follows.clock)

/-! ## Between two lifecycle calls -/

/-- The steps that are not a lifecycle call. -/
def Op.running : Op → Bool
  | .call .read _ | .call .write _ | .assignEffort _ _ | .deliver _ => true
  | _ => false

/-- The hardware after a whole `read`. -/
def afterRead (P : Parameters) (throws : ℕ → Bool) (now : Time) (s : LeverHardware) :
    LeverHardware :=
  (latchVelocityFault throws (readFeedback P now { hw := s, locals := {} })).hw

/-- The state that the publish loop of a whole `write` starts in. -/
def beforePublish (P : Parameters) (now : Time) (s : LeverHardware) : Control :=
  writeTest (writeSnapshot P now { hw := s, locals := {} })

/-- A whole `read` gives the samples to the estimators and copies the received ones. -/
theorem afterRead_frame (P : Parameters) (throws : ℕ → Bool) (now : Time) (s : LeverHardware) :
    let s' := afterRead P throws now s
    s'.active = s.active ∧ s'.feedback = s.feedback ∧
      (∀ a, s'.feedbackVelocity a = (readVelocity P now s a).1) ∧
      ∀ a, s'.positionStates a =
        if (s.feedback a).received then (s.feedback a).positionRad else s.positionStates a := by
  simp only [afterRead, latchVelocityFault, readFeedback, latchFaultAndPublishZero,
    publishZeroToAllAxesLocked_eq]
  split
  · split <;> exact ⟨rfl, rfl, fun _ => rfl, fun _ => rfl⟩
  · exact ⟨rfl, rfl, fun _ => rfl, fun _ => rfl⟩

/-- A whole `write` leaves the samples, the estimators and the states, and does not
clear the latch. -/
theorem write_frame (P : Parameters) (throws : ℕ → Bool) (now : Time) (s : LeverHardware) :
    let s' := (writePublish P throws (beforePublish P now s)).hw
    s'.active = s.active ∧ s'.feedback = s.feedback ∧ s'.feedbackVelocity = s.feedbackVelocity ∧
      s'.positionStates = s.positionStates ∧
      (s.feedbackFaultLatched = true → s'.feedbackFaultLatched = true) := by
  have tested : (beforePublish P now s).hw = s ∨
      (beforePublish P now s).hw = { s with feedbackFaultLatched := true } := by
    simp only [beforePublish, writeTest, writeSnapshot]
    split
    · exact .inr rfl
    · exact .inl rfl
  rw [writePublish_eq]
  generalize (beforePublish P now s) = c at tested
  simp only [publishZeroToAllAxesLocked_eq]
  rcases tested with same | latched
  · split <;> simp [same]
  · split <;> simp [latched]

theorem step_read_eq_some :
    System.step P throws σ (now, .call .read []) = some τ ↔
      σ.clock ≤ now ∧ τ = { clock := now, hw := afterRead P throws now σ.hw } :=
  System.call_nil_eq_some

theorem step_write_eq_some :
    System.step P throws σ (now, .call .write []) = some τ ↔
      σ.clock ≤ now ∧
        τ = { clock := now, hw := (writePublish P throws (beforePublish P now σ.hw)).hw } :=
  System.call_nil_eq_some

/-- The running steps, with what each does to the hardware. -/
inductive Ran (P : Parameters) (throws : ℕ → Bool) (now : Time) (s : LeverHardware) :
    Op → LeverHardware → Prop
  | read : Ran P throws now s (.call .read []) (afterRead P throws now s)
  | write : Ran P throws now s (.call .write [])
      (writePublish P throws (beforePublish P now s)).hw
  | assignEffort {axis : Axis} {value : Double} :
      Ran P throws now s (.assignEffort axis value)
        { s with effortCommands := Function.update s.effortCommands axis value }
  | deliver {callback : Callback} :
      Ran P throws now s (.deliver callback) (callback.exec P throws now s)

/-- **Inversion of a running step.** -/
theorem ran_of_step {event : Time × Op} (running : event.2.running = true)
    (taken : System.step P throws σ event = some τ) :
    σ.clock ≤ event.1 ∧ τ.clock = event.1 ∧ Ran P throws event.1 σ.hw event.2 τ.hw := by
  obtain ⟨now, op⟩ := event
  cases op with
  | call op waited =>
      cases op with
      | read =>
          obtain rfl : waited = [] := (System.call_eq_some.mp taken).1 (by simp)
          obtain ⟨forward, rfl⟩ := step_read_eq_some.mp taken
          exact ⟨forward, rfl, .read⟩
      | write =>
          obtain rfl : waited = [] := (System.call_eq_some.mp taken).1 (by simp)
          obtain ⟨forward, rfl⟩ := step_write_eq_some.mp taken
          exact ⟨forward, rfl, .write⟩
      | onConfigure | onCleanup | onActivate | onDeactivate | onShutdown | onError =>
          simp [Op.running] at running
  | assignEffort axis value =>
      simp only [System.step, Option.ite_none_left_eq_some, Option.some.injEq, not_lt] at taken
      obtain ⟨forward, rfl⟩ := taken
      exact ⟨forward, rfl, .assignEffort⟩
  | deliver callback =>
      obtain ⟨⟨forward, -, -⟩, rfl⟩ := System.take_eq_some.mp taken
      exact ⟨forward, rfl, .deliver⟩

/-! ## Activation -/

/-- What a successful `on_activate` leaves. -/
structure Activated (s : LeverHardware) : Prop where
  active : s.active = true
  unlatched : s.feedbackFaultLatched = false
  received : ∀ axis, (s.feedback axis).received = true
  estimator : ∀ axis, s.feedbackVelocity axis =
    FeedbackVelocity.reset (s.feedback axis).positionRad (s.feedback axis).receivedAt
  direction : ∀ axis, s.activeDirection axis = 0

/-- While inactive, no message activates or touches the compensation. -/
theorem exec_of_inactive (P : Parameters) (throws : ℕ → Bool) (now : Time) (callback : Callback)
    {s : LeverHardware} (inactive : s.active = false) :
    (callback.exec P throws now s).active = false ∧
      (callback.exec P throws now s).activeDirection = s.activeDirection := by
  cases callback with
  | mask data => exact ⟨inactive, rfl⟩
  | feedback axis message =>
      cases position : acceptedPosition P axis message with
      | none => simp [Callback.exec, position, invalidateFeedback, inactive]
      | some positionRad => simp [Callback.exec, position, storeSample, inactive]

/-- **What `on_activate` does**: it deactivates and clears the commands, takes what
arrives while it waits, and then either copies fresh feedback and activates, or
publishes zeros and refuses. -/
theorem activation_cases {waited : List (Time × Callback)}
    (taken : System.step P throws σ (now, .call .onActivate waited) = some τ) :
    ∃ s σ', s.active = false ∧ s.feedback = σ.hw.feedback ∧ s.activeDirection = (fun _ => 0) ∧
      runs (System.take P throws) { σ with hw := s } waited = some σ' ∧ σ'.clock ≤ now ∧
      ((allFeedbackIsFreshLocked P now σ'.hw = true ∧
          τ = { clock := now
                hw := { copyFeedbackToStatesLocked σ'.hw with
                  feedbackFaultLatched := false, active := true } }) ∨
        (allFeedbackIsFreshLocked P now σ'.hw = false ∧
          τ = { clock := now, hw := publishZeroToAllAxesLocked throws σ'.hw })) := by
  obtain ⟨-, σ', waits, forward, rfl⟩ := System.call_eq_some.mp taken
  refine ⟨_, σ', ?_, ?_, ?_, waits, forward, ?_⟩
  · simp [ControlOp.beforeClock, ControlOp.sections, Section.readsClock, execAll, Section.exec]
  · simp [ControlOp.beforeClock, ControlOp.sections, Section.readsClock, execAll, Section.exec]
  · simp [ControlOp.beforeClock, ControlOp.sections, Section.readsClock, execAll, Section.exec]
  · cases fresh : allFeedbackIsFreshLocked P now σ'.hw <;>
      simp [ControlOp.fromClock, ControlOp.sections, Section.readsClock, execAll, Section.exec, fresh]

/-- While `on_activate` waits, no message activates or touches the compensation. -/
theorem wait_of_inactive {waited : List (Time × Callback)}
    (waits : runs (System.take P throws) σ waited = some τ) (inactive : σ.hw.active = false) :
    τ.hw.active = false ∧ τ.hw.activeDirection = σ.hw.activeDirection := by
  refine runs_invariant (I := fun ρ : System =>
    ρ.hw.active = false ∧ ρ.hw.activeDirection = σ.hw.activeDirection) ?_ waits ⟨inactive, rfl⟩
  rintro ρ message ρ' ⟨still, direction⟩ took
  obtain ⟨-, rfl⟩ := System.take_eq_some.mp took
  have next := exec_of_inactive P throws message.1 message.2 still
  exact ⟨next.1, next.2.trans direction⟩

theorem received_of_fresh {s : LeverHardware} (fresh : allFeedbackIsFreshLocked P now s = true)
    (axis : Axis) : (s.feedback axis).received = true := by
  have this := all_axes_iff.mp fresh axis
  simp only [feedbackIsFresh, Bool.and_eq_true] at this
  exact this.1

/-- `on_activate` activates only with fresh feedback on every axis, which it
gives to the estimators, and with every compensation at rest. -/
theorem activated_of_call {waited : List (Time × Callback)}
    (taken : System.step P throws σ (now, .call .onActivate waited) = some τ)
    (active : τ.hw.active = true) : Activated τ.hw := by
  obtain ⟨s, σ', inactive, -, direction, waits, -, ⟨fresh, rfl⟩ | ⟨-, rfl⟩⟩ := activation_cases taken
  · have still := wait_of_inactive waits inactive
    exact ⟨rfl, rfl, received_of_fresh fresh, fun axis => if_pos (received_of_fresh fresh axis),
      fun axis => congrFun (still.2.trans direction) axis⟩
  · rw [publishZeroToAllAxesLocked_eq] at active
    rw [(wait_of_inactive waits inactive).1] at active
    cases active

/-- Feedback on every axis, inside the joint ranges. -/
def reports : List (Time × Callback) :=
  [(0, .feedback 0 (some 0)), (0, .feedback 1 (some 0)), (0, .feedback 2 (some (90 : ℚ))),
    (0, .feedback 3 (some 0))]

/-- `on_configure`, and an `on_activate` during whose wait every axis reports. -/
def activationCalls : List (Time × Op) :=
  [(0, .call (.onConfigure true) []), (0, .call .onActivate reports)]

end Tb20e.Hardware
