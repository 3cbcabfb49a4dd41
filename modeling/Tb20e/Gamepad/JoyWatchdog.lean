/-
# Gamepad.JoyWatchdog -- two watchdogs, one meaning

The node stops on a silent Joy in two places: a tick that finds the last message
too old zeroes the command and resets the gate, and the gate resets itself on a
message that comes too late.  Which of the two acts first depends on the timer.

`reference` has neither a timer nor a tick: it is a gate that is fed the Joy
messages alone.  `Simulates` relates it to the node.  The node's gate and the
reference answer every later message alike, because a tick resets the node's
gate only when the reference has nothing to remember or its next message is
after a gap.
-/
import Tb20e.Gamepad.Node
import Mathlib.Tactic.Linarith

namespace Tb20e.Gamepad

set_option autoImplicit false

open Tb20e.Theory Tb20e.Control
open Tb20e.Theory (Double)

section Reference

variable (params : Parameters)

/-- One Joy message, taken by a gate that no tick touches. -/
def referenceStep (gate : NeutralToggleGate × Bool) (received : Time × Joy) :
    NeutralToggleGate × Bool :=
  if received.2.wellFormed params then
    gate.1.update received.2.axes params.mapping received.2.togglePressed (received.1 : Double)
  else (gate.1.reset, false)

/-- The reference gate after a history, and what it returned on the last message. -/
def reference (history : List (Time × Joy)) : NeutralToggleGate × Bool :=
  history.foldl (referenceStep params)
    (NeutralToggleGate.fresh params.neutralHoldSec params.joyTimeoutSec, false)

/-- What the last message commands, if it is in time. -/
def referenceAnswer (history : List (Time × Joy)) (message : Joy) : Axis → Double :=
  if (reference params history).2 then mapAxes message.axes params.mapping else fun _ => 0

/-- The command at an instant, from the Joy history alone. -/
def referenceCommand (history : List (Time × Joy)) (now : Time) : Axis → Double :=
  match history.getLast? with
  | none => fun _ => 0
  | some (received, message) =>
      if !message.wellFormed params then fun _ => 0
      else if ((now - received : ℚ) : Double) > params.joyTimeoutSec then fun _ => 0
      else referenceAnswer params history message

/-- The Joy messages among the events of a run. -/
def joyHistory (events : List (Time × Event)) : List (Time × Joy) :=
  events.filterMap fun event =>
    match event with
    | (now, .joy message) => some (now, message)
    | _ => none

end Reference

section Simulation

variable {params : Parameters}

theorem reference_concat (history : List (Time × Joy)) (received : Time × Joy) :
    reference params (history ++ [received]) =
      referenceStep params (reference params history) received := by
  simp [reference]

theorem reset_reference (history : List (Time × Joy)) :
    (reference params history).1.reset =
      NeutralToggleGate.fresh params.neutralHoldSec params.joyTimeoutSec := by
  induction history using List.reverseRecOn with
  | nil => rfl
  | append_singleton history received ih =>
      rw [reference_concat, referenceStep]
      split
      · rw [NeutralToggleGate.reset_update, ih]
      · exact ih

theorem timeoutSec_reference (history : List (Time × Joy)) :
    (reference params history).1.timeoutSec = params.joyTimeoutSec :=
  congrArg NeutralToggleGate.timeoutSec (reset_reference history)

/-- The node and the reference after one Joy history. -/
structure Simulates (params : Parameters) (history : List (Time × Joy)) (g : ClockedNode) :
    Prop where
  agree : NeutralToggleGate.AgreeFrom params.mapping g.clock g.node.safetyGate
    (reference params history).1
  /-- The reference has nothing to remember, or it holds the time of the last message. -/
  remembers : (reference params history).1.reset = (reference params history).1 ∨
    ∃ earlier received message, history = earlier ++ [(received, message)] ∧
      message.wellFormed params = true ∧
      (reference params history).1.lastSampleTime = Double.finite received
  silent : history = [] → g.node.haveValidJoy = false
  last : ∀ earlier received message, history = earlier ++ [(received, message)] →
    received ≤ g.clock ∧ g.node.haveValidJoy = message.wellFormed params ∧
      (message.wellFormed params = true → g.node.lastJoyTime = received ∧
        (g.node.latestCommand = referenceAnswer params history message ∨
          (g.node.latestCommand = fun _ => 0) ∧
            params.joyTimeoutSec < Double.finite (g.clock - received)))

theorem simulates_start (joyTime positionTime clock : Time) :
    Simulates params [] (start params joyTime positionTime clock) where
  agree := .refl ..
  remembers := .inl rfl
  silent _ := rfl
  last earlier received message impossible := by simp at impossible

/-- Time passes, and the Joy members stay as they are. -/
theorem Simulates.later {history : List (Time × Joy)} {g : ClockedNode} {now : Time} {s : Node}
    {timeout : ℚ} (isTimeout : params.joyTimeoutSec = timeout)
    (sim : Simulates params history g) (forward : g.clock ≤ now) (same : g.node.SameJoy s) :
    Simulates params history { clock := now, node := s } where
  agree := by simpa only [same.safetyGate] using sim.agree.mono forward
  remembers := sim.remembers
  silent none := same.haveValidJoy.trans (sim.silent none)
  last earlier received message split := by
    obtain ⟨past, valid, held⟩ := sim.last earlier received message split
    refine ⟨past.trans forward, same.haveValidJoy.trans valid, ?_⟩
    intro wellFormed
    obtain ⟨lastTime, answer⟩ := held wellFormed
    refine ⟨same.lastJoyTime.trans lastTime, ?_⟩
    rw [same.latestCommand]
    refine answer.imp_right fun ⟨zero, late⟩ => ⟨zero, ?_⟩
    rw [isTimeout, Double.finite_lt_finite] at late ⊢
    linarith

/-- A Joy message leaves the node's gate and the reference equal. -/
theorem Simulates.joy {history : List (Time × Joy)} {g : ClockedNode} {now : Time}
    (sim : Simulates params history g) (forward : g.clock ≤ now) (message : Joy) :
    Simulates params (history ++ [(now, message)])
      { clock := now, node := joyCallback params message now g.node } := by
  have sameEnd {earlier : List (Time × Joy)} {received : Time} {message' : Joy}
      (split : history ++ [(now, message)] = earlier ++ [(received, message')]) :
      received = now ∧ message' = message := by
    have := (List.append_inj' split rfl).2
    simp only [List.cons.injEq, Prod.mk.injEq, and_true] at this
    exact ⟨this.1.symm, this.2.symm⟩
  cases wellFormed : message.wellFormed params with
  | false =>
      have ref : reference params (history ++ [(now, message)]) =
          ((reference params history).1.reset, false) := by
        simp [reference_concat, referenceStep, wellFormed]
      have node : joyCallback params message now g.node = { g.node with
          latestCommand := fun _ => 0, haveValidJoy := false
          safetyGate := g.node.safetyGate.reset } := by
        simp [joyCallback, wellFormed]
      refine ⟨?_, ?_, fun impossible => by simp at impossible, ?_⟩
      · rw [ref, node, sim.agree.reset_eq]
        exact .refl ..
      · rw [ref]
        exact .inl rfl
      · intro earlier received message' split
        obtain ⟨rfl, rfl⟩ := sameEnd split
        rw [node]
        exact ⟨le_rfl, wellFormed.symm, fun impossible => by rw [wellFormed] at impossible; cases impossible⟩
  | true =>
      have ref : reference params (history ++ [(now, message)]) =
          (reference params history).1.update message.axes params.mapping message.togglePressed
            (now : Double) := by
        simp [reference_concat, referenceStep, wellFormed]
      have node : joyCallback params message now g.node = { g.node with
          safetyGate := (reference params (history ++ [(now, message)])).1
          latestCommand := referenceAnswer params (history ++ [(now, message)]) message
          lastJoyTime := now
          haveValidJoy := true } := by
        simp [joyCallback, wellFormed, referenceAnswer, ref, sim.agree.update_eq _ _ now forward]
      refine ⟨?_, ?_, fun impossible => by simp at impossible, ?_⟩
      · rw [node]
        exact .refl ..
      · rw [ref]
        refine (NeutralToggleGate.update_reset_or_last ..).imp ?_ fun last =>
          ⟨history, now, message, rfl, wellFormed, last⟩
        intro isReset
        rw [isReset]
        rfl
      · intro earlier received message' split
        obtain ⟨rfl, rfl⟩ := sameEnd split
        rw [node]
        exact ⟨le_rfl, wellFormed.symm, fun _ => ⟨rfl, .inl rfl⟩⟩

/-- A tick, whether or not it finds the Joy too old. -/
theorem Simulates.tick {history : List (Time × Joy)} {g : ClockedNode} {now : Time} {timeout : ℚ}
    (isTimeout : params.joyTimeoutSec = timeout) (sim : Simulates params history g)
    (forward : g.clock ≤ now) :
    Simulates params history { clock := now, node := (publishJoy params now g.node).1 } := by
  cases stale : timedOut params now g.node with
  | false =>
      have node : (publishJoy params now g.node).1 = g.node := by simp [publishJoy, stale]
      rw [node]
      exact sim.later isTimeout forward ⟨rfl, rfl, rfl, rfl⟩
  | true =>
      have node : (publishJoy params now g.node).1 = { g.node with
          latestCommand := fun _ => 0, safetyGate := g.node.safetyGate.reset } := by
        simp [publishJoy, stale]
      -- A valid Joy that timed out is older than the timeout.
      have late (valid : g.node.haveValidJoy = true) : timeout < now - g.node.lastJoyTime := by
        simpa [timedOut, valid, isTimeout] using stale
      rw [node]
      refine ⟨sim.agree.reset ?_, sim.remembers, sim.silent, ?_⟩
      · rcases sim.remembers with isReset | ⟨earlier, received, message, split, wellFormed, holds⟩
        · exact .inl isReset
        · refine .inr ?_
          intro later after
          obtain ⟨-, valid, held⟩ := sim.last earlier received message split
          have age := late (valid.trans wellFormed)
          rw [(held wellFormed).1] at age
          simp [NeutralToggleGate.isGap, holds, timeoutSec_reference, isTimeout]
          exact .inr (by linarith)
      · intro earlier received message split
        obtain ⟨past, valid, held⟩ := sim.last earlier received message split
        refine ⟨past.trans forward, valid, fun wellFormed => ⟨(held wellFormed).1, .inr ⟨rfl, ?_⟩⟩⟩
        have age := late (valid.trans wellFormed)
        rw [(held wellFormed).1] at age
        rw [isTimeout, Double.finite_lt_finite]
        exact age

/-- **The simulation**, along any step. -/
theorem simulates_step {past : List (Time × Event)} {g g' : ClockedNode} {event : Time × Event}
    {timeout : ℚ} (isTimeout : params.joyTimeoutSec = timeout)
    (sim : Simulates params (joyHistory past) g) (taken : step params g event = some g') :
    Simulates params (joyHistory (past ++ [event])) g' := by
  obtain ⟨forward, -, rfl⟩ := step_eq_some.mp taken
  obtain ⟨now, event⟩ := event
  cases event with
  | joy message => simpa [joyHistory, Event.exec] using sim.joy forward message
  | simFeedback axis data =>
      have kept := sim.later isTimeout forward (sameJoy_simFeedback params axis data now g.node)
      simpa [joyHistory, Event.exec] using kept
  | tick =>
      have ticked := (sim.tick isTimeout forward).later isTimeout le_rfl
        (sameJoy_publishCommand params now g.node)
      simpa [joyHistory, Event.exec] using ticked

theorem simulates_run {joyTime positionTime clock : Time} {events : List (Time × Event)}
    {g : ClockedNode} (accepted : params.Accepted)
    (reached : runs (step params) (start params joyTime positionTime clock) events = some g) :
    Simulates params (joyHistory events) g := by
  obtain ⟨timeout, isTimeout, -⟩ := accepted.joyTimeout
  exact runs_history_invariant (I := fun past g => Simulates params (joyHistory past) g)
    (fun _ _ _ _ sim taken => simulates_step isTimeout sim taken) [] reached
    (simulates_start joyTime positionTime clock)

/-! ## What a tick publishes -/

theorem publishJoy_eq_reference {history : List (Time × Joy)} {g : ClockedNode} {now : Time}
    {timeout : ℚ} (isTimeout : params.joyTimeoutSec = timeout) (sim : Simulates params history g)
    (forward : g.clock ≤ now) :
    (publishJoy params now g.node).2 = referenceCommand params history now := by
  rcases List.eq_nil_or_concat history with rfl | ⟨earlier, ⟨received, message⟩, rfl⟩
  · have stale : timedOut params now g.node = true := by simp [timedOut, sim.silent rfl]
    simp [publishJoy, stale, referenceCommand]
  · obtain ⟨past, valid, held⟩ := sim.last earlier received message List.concat_eq_append
    have isLast : (earlier.concat (received, message)).getLast? = some (received, message) := by
      simp
    simp only [referenceCommand, isLast]
    cases wellFormed : message.wellFormed params with
    | false =>
        have stale : timedOut params now g.node = true := by simp [timedOut, valid, wellFormed]
        simp [publishJoy, stale]
    | true =>
        obtain ⟨lastTime, answer⟩ := held wellFormed
        have stale : timedOut params now g.node = decide (timeout < now - received) := by
          simp [timedOut, valid, wellFormed, lastTime, isTimeout]
        by_cases late : timeout < now - received
        · simp [publishJoy, stale, late, isTimeout]
        · simp only [publishJoy, stale, late, decide_false, Bool.false_eq_true, if_false,
            Bool.not_true, isTimeout, gt_iff_lt, Double.finite_lt_finite]
          refine answer.resolve_right fun older => late ?_
          rw [isTimeout, Double.finite_lt_finite] at older
          linarith [older.2]

/-- What a gate lets through is finite and within the scales. -/
theorem exists_mapAxes_eq_of_allowed (accepted : params.Accepted) (gate : NeutralToggleGate)
    (message : Joy) (now : Time)
    (allowed : (gate.update message.axes params.mapping message.togglePressed (now : Double)).2 =
      true) (axis : Axis) :
    ∃ q : ℚ, mapAxes message.axes params.mapping axis = Double.finite q ∧ |q| ≤ 100 := by
  have readable := NeutralToggleGate.readable_of_allowed _ allowed
  simp only [NeutralToggleGate.isReadable, Bool.and_eq_true, List.all_eq_true] at readable
  obtain ⟨deadzone, isDeadzone, -, below⟩ := accepted.deadzone
  choose scale isScale small using accepted.scale
  obtain ⟨q, isFinite, bound⟩ := exists_mapAxes_eq isDeadzone below isScale readable.2 axis
  exact ⟨q, isFinite, bound.trans (small axis)⟩

theorem exists_referenceAnswer_eq (accepted : params.Accepted) (earlier : List (Time × Joy))
    (received : Time) (message : Joy) (axis : Axis) :
    ∃ q : ℚ, referenceAnswer params (earlier ++ [(received, message)]) message axis =
      Double.finite q ∧ |q| ≤ 100 := by
  unfold referenceAnswer
  split
  · rename_i allowed
    rw [reference_concat, referenceStep] at allowed
    split at allowed
    · exact exists_mapAxes_eq_of_allowed accepted _ message received allowed axis
    · cases allowed
  · exact ⟨0, rfl, by norm_num⟩

theorem exists_referenceCommand_eq (accepted : params.Accepted) (history : List (Time × Joy))
    (now : Time) (axis : Axis) :
    ∃ q : ℚ, referenceCommand params history now axis = Double.finite q ∧ |q| ≤ 100 := by
  rcases List.eq_nil_or_concat history with rfl | ⟨earlier, ⟨received, message⟩, rfl⟩
  · exact ⟨0, rfl, by norm_num⟩
  · have isLast : (earlier ++ [(received, message)]).getLast? = some (received, message) := by simp
    simp only [List.concat_eq_append, referenceCommand, isLast]
    split
    · exact ⟨0, rfl, by norm_num⟩
    · split
      · exact ⟨0, rfl, by norm_num⟩
      · exact exists_referenceAnswer_eq accepted earlier received message axis

/-- **Published commands depend on the Joy history and the instant alone.**  The
command a tick publishes is the tick-free reference's, it is finite and within
`[-100, 100]`, and so another run with the same Joy messages and other ticks
publishes the same. -/
theorem published_command_eq_reference {joyTime positionTime clock now : Time}
    {events : List (Time × Event)} {g : ClockedNode}
    (passed : validateParameters params = .ok ())
    (reached : runs (step params) (start params joyTime positionTime clock) events = some g)
    (forward : g.clock ≤ now) :
    (publishCommand params now g.node).2.command =
        referenceCommand params (joyHistory events) now ∧
      (∀ axis, ∃ q : ℚ, (publishCommand params now g.node).2.command axis = Double.finite q ∧
        -100 ≤ q ∧ q ≤ 100) ∧
      ∀ (joyTime' positionTime' clock' : Time) (events' : List (Time × Event)) (g' : ClockedNode),
        runs (step params) (start params joyTime' positionTime' clock') events' = some g' →
        g'.clock ≤ now → joyHistory events' = joyHistory events →
        (publishCommand params now g'.node).2.command =
          (publishCommand params now g.node).2.command := by
  have accepted := accepted_of_validate passed
  obtain ⟨timeout, isTimeout, -⟩ := accepted.joyTimeout
  simp only [command_publishCommand]
  have same := publishJoy_eq_reference isTimeout (simulates_run accepted reached) forward
  refine ⟨same, ?_, ?_⟩
  · intro axis
    obtain ⟨q, isFinite, bound⟩ := exists_referenceCommand_eq accepted (joyHistory events) now axis
    exact ⟨q, by rw [same, isFinite], abs_le.mp bound⟩
  · intro joyTime' positionTime' clock' events' g' reached' forward' sameHistory
    rw [publishJoy_eq_reference isTimeout (simulates_run accepted reached') forward', sameHistory,
      same]

/-- Sticks at rest and the Start button after half a second, then full swing, with
a tick between the messages. -/
def armThenSwing : List (Time × Event) :=
  let message (swing : ℚ) (start : ℤ) : Event :=
    .joy { axes := [swing, 0, 0, 0], buttons := List.replicate 9 0 ++ [start] }
  [(0, message 0 0), (1 / 4, message 0 0), (1 / 2, message 0 0), (3 / 4, message 0 1),
    (4 / 5, .tick), (1, message 1 0)]

theorem published_command_armThenSwing :
    ∃ g, runs (step {}) (start {} 0 0 0) armThenSwing = some g ∧
      (publishCommand {} (11 / 10) g.node).2.command =
        referenceCommand {} (joyHistory armThenSwing) (11 / 10) ∧
      referenceCommand {} (joyHistory armThenSwing) (11 / 10) 0 = Double.finite 100 := by
  obtain ⟨g, reached, forward⟩ :
      ∃ g ∈ runs (step {}) (start {} 0 0 0) armThenSwing, g.clock ≤ 11 / 10 := by
    decide +kernel
  exact ⟨g, reached,
    (published_command_eq_reference (validateParameters_default false) reached forward).1,
    by decide +kernel⟩

end Simulation

end Tb20e.Gamepad
