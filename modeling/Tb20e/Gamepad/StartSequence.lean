/-
# Gamepad.StartSequence -- the operator can always start and stop

The sequence that the node asks for in its log: all sticks at rest and Start released for
the hold time, then Start.  `allowed_iff_armed` says what it takes to be armed; here the
question is what the sequence does to a node in any state that it can be in.  It toggles
it: a node that was not armed is armed, and one that was has stopped (`start_toggles`).  So
there is no state from which the operator cannot start, or cannot stop.

What ticks and messages have done to the gate before does not matter.  The sequence is
played to the reference gate, which no tick touches, and `Simulates` carries the outcome
over to the node.
-/
import Tb20e.Gamepad.JoyOrigin
import Tb20e.Gamepad.Disarming

namespace Tb20e.Gamepad

set_option autoImplicit false

open Tb20e.Theory Tb20e.Control
open Tb20e.Theory (Double)

/-! ## The gate -/

section Gate

variable {mapping : Mapping} {holdSec timeoutSec : Double} {calls : ℕ → GateCall} {a p : ℕ}

/-- **A press after a rest** arms the gate, or stops it if it was armed. -/
theorem press_toggles (positive : 0 < timeoutSec) (before : a < p)
    (chained : Chained mapping timeoutSec calls a p) (resting : Resting mapping calls a (p - 1))
    (held : holdSec ≤ Double.finite ((calls (p - 1)).time - (calls a).time))
    (neutral : (calls p).neutral mapping = true) (pressed : (calls p).pressed = true) :
    (gateAt mapping holdSec timeoutSec calls (p + 1)).armed =
        !(gateAt mapping holdSec timeoutSec calls p).armed ∧
      allowedAt mapping holdSec timeoutSec calls p = false ∧
      (gateAt mapping holdSec timeoutSec calls p).isGap (Double.finite (calls p).time) = false := by
  obtain ⟨q, rfl⟩ := Nat.exists_eq_succ_of_ne_zero (Nat.ne_zero_of_lt before)
  have within := Nat.lt_succ_iff.mp before
  have released := (resting q within le_rfl).2
  have readable := chained.readable q within q.le_succ
  have sampled : (calls (q + 1)).apply mapping
      (gateAt mapping holdSec timeoutSec calls (q + 1)) = _ := apply_of_inTime positive readable
    (chained.readable (q + 1) before.le le_rfl) (chained.inTime q within q.lt_succ_self)
  have follows := follows_gateAt holdSec positive readable
  have previous := follows.previous
  have noGap : (gateAt mapping holdSec timeoutSec calls (q + 1)).isGap
      (Double.finite (calls (q + 1)).time) = false := by
    have inTime := chained.inTime q within q.lt_succ_self
    rw [← follows.timeout] at positive inTime
    exact (isGap_eq_false_iff follows.last positive).mpr inTime
  rw [gateAt, allowedAt, Nat.succ_eq_add_one, sampled, NeutralToggleGate.sample, ← and_assoc]
  refine ⟨?_, noGap⟩
  cases armed : (gateAt mapping holdSec timeoutSec calls (q + 1)).armed with
  | true =>
      have active : (gateAt mapping holdSec timeoutSec calls (q + 1)).state = .active := by
        simpa [NeutralToggleGate.armed] using armed
      simp [active, previous, released, pressed, NeutralToggleGate.armed]
  | false =>
      have waiting := waitingPress_of_armed positive before le_rfl
        ⟨chained, resting, held, neutral, pressed, armed, fun i after upTo =>
          absurd after (not_lt.mpr upTo)⟩
      simp [waiting, previous, released, pressed, neutral, NeutralToggleGate.armed]

end Gate

/-! ## The sequence -/

/-- Messages at rest for the hold time, and then one that presses Start. -/
structure StartSequence (params : Parameters) (rest : List (Time × Joy)) (press : Time × Joy) :
    Prop where
  readable : ∀ received ∈ rest ++ [press], (gateCall params received).readable params.mapping = true
  neutral : ∀ received ∈ rest ++ [press], (gateCall params received).neutral params.mapping = true
  released : ∀ received ∈ rest, (gateCall params received).pressed = false
  pressed : (gateCall params press).pressed = true
  inTime : (rest ++ [press]).IsChain fun earlier later =>
    InTime params.joyTimeoutSec (gateCall params earlier) (gateCall params later)
  held : ∃ first ∈ rest.head?, ∃ last ∈ rest.getLast?, params.neutralHoldSec ≤
    Double.finite ((gateCall params last).time - (gateCall params first).time)

section Sequence

variable {params : Parameters} {earlier rest : List (Time × Joy)} {press : Time × Joy}

theorem gateCalls_append (earlier messages : List (Time × Joy)) {i : ℕ}
    (inside : i < messages.length) :
    gateCalls params (earlier ++ messages) (earlier.length + i) = gateCall params messages[i] := by
  simp [gateCalls, inside]

/-- The calls of a start sequence make a chain, whatever came before. -/
theorem StartSequence.chained (sequence : StartSequence params rest press)
    (earlier : List (Time × Joy)) :
    Chained params.mapping params.joyTimeoutSec (gateCalls params (earlier ++ (rest ++ [press])))
      earlier.length (earlier.length + rest.length) where
  readable := by
    intro i start stop
    obtain ⟨j, rfl⟩ := Nat.exists_eq_add_of_le start
    rw [gateCalls_append earlier _ (i := j) (by rw [List.length_append, List.length_singleton]; omega)]
    exact sequence.readable _ (List.getElem_mem _)
  inTime := by
    intro i start stop
    obtain ⟨j, rfl⟩ := Nat.exists_eq_add_of_le start
    have inside : j + 1 < (rest ++ [press]).length := by
      rw [List.length_append, List.length_singleton]
      omega
    rw [Nat.add_assoc, gateCalls_append earlier _ (Nat.lt_of_succ_lt inside),
      gateCalls_append earlier _ inside]
    exact List.isChain_iff_getElem.mp sequence.inTime j inside

/-- Up to the press they rest. -/
theorem StartSequence.resting (sequence : StartSequence params rest press)
    (earlier : List (Time × Joy)) {n : ℕ} (before : n < earlier.length + rest.length) :
    Resting params.mapping (gateCalls params (earlier ++ (rest ++ [press]))) earlier.length n := by
  intro i start stop
  obtain ⟨j, rfl⟩ := Nat.exists_eq_add_of_le start
  have inside : j < rest.length := by omega
  have within : j < (rest ++ [press]).length := by
    rw [List.length_append, List.length_singleton]
    omega
  rw [gateCalls_append earlier _ within, List.getElem_append_left inside]
  exact ⟨sequence.neutral _ (List.mem_append_left _ (List.getElem_mem inside)),
    sequence.released _ (List.getElem_mem inside)⟩

/-- **The start sequence toggles the reference gate**, whatever it has seen before. -/
theorem StartSequence.toggles (sequence : StartSequence params rest press)
    (positive : 0 < params.joyTimeoutSec) (earlier : List (Time × Joy)) :
    (reference params (earlier ++ (rest ++ [press]))).1.armed =
        !(reference params (earlier ++ rest)).1.armed ∧
      (reference params (earlier ++ (rest ++ [press]))).2 = false ∧
      (reference params (earlier ++ rest)).1.isGap
        (Double.finite (gateCall params press).time) = false := by
  obtain ⟨first, isFirst, last, isLast, held⟩ := sequence.held
  have nonempty : 0 < rest.length := by
    rw [List.length_pos_iff]
    rintro rfl
    cases isFirst
  have call {j : ℕ} (inside : j < (rest ++ [press]).length) :
      gateCalls params (earlier ++ (rest ++ [press])) (earlier.length + j) =
        gateCall params (rest ++ [press])[j] := gateCalls_append earlier _ inside
  have atPress : gateCalls params (earlier ++ (rest ++ [press])) (earlier.length + rest.length) =
      gateCall params press := by
    rw [call (by simp)]
    simp
  have atFirst : gateCalls params (earlier ++ (rest ++ [press])) earlier.length =
      gateCall params first := by
    rw [← Nat.add_zero earlier.length, call (by simp), List.getElem_append_left nonempty]
    exact congrArg _ (by simpa [List.head?_eq_getElem?, nonempty] using isFirst)
  have atLast : gateCalls params (earlier ++ (rest ++ [press]))
      (earlier.length + rest.length - 1) = gateCall params last := by
    rw [Nat.add_sub_assoc nonempty, call (by rw [List.length_append, List.length_singleton]; omega),
      List.getElem_append_left (Nat.sub_lt nonempty Nat.one_pos)]
    exact congrArg _ (by simpa [List.getLast?_eq_getElem?, nonempty] using isLast)
  have toggled := @press_toggles _ params.neutralHoldSec _ _ _ _ positive (by omega)
    (sequence.chained earlier) (sequence.resting earlier (by omega))
    (by rw [atFirst, atLast]; exact held)
    (by rw [atPress]; exact sequence.neutral press (by simp))
    (by rw [atPress]; exact sequence.pressed)
  have before : gateAt params.mapping params.neutralHoldSec params.joyTimeoutSec
      (gateCalls params (earlier ++ (rest ++ [press]))) (earlier.length + rest.length) =
      (reference params (earlier ++ rest)).1 := by
    rw [reference_eq_gateAt, List.length_append, ← List.append_assoc]
    exact gateAt_congr fun i inside => gateCalls_concat_of_lt press (by simpa using inside)
  have length : (earlier ++ (rest ++ [press])).length = earlier.length + rest.length + 1 := by
    simp [Nat.add_assoc]
  rw [before, atPress] at toggled
  refine ⟨?_, ?_, toggled.2.2⟩
  · rw [reference_eq_gateAt, length]
    exact toggled.1
  · have answered := @reference_eq_allowedAt params (earlier ++ rest) press
    rw [List.append_assoc, List.length_append] at answered
    exact answered.trans toggled.2.1

end Sequence

/-! ## The node -/

section Node

variable {params : Parameters}

/-- A message that the gate can read is one that the node gives to the gate. -/
theorem wellFormed_of_readable {received : Time × Joy}
    (readable : (gateCall params received).readable params.mapping = true) :
    received.2.wellFormed params = true ∧ gateCall params received =
      .update received.2.axes received.2.togglePressed (Double.finite received.1) := by
  unfold gateCall at readable ⊢
  split
  · next wellFormed => exact ⟨wellFormed, rfl⟩
  · next incomplete => rw [if_neg incomplete] at readable; cases readable

/-- A press that arms finds the gate not armed. -/
theorem unarmed_of_press {gate : NeutralToggleGate} {axes : List Double} {mapping : Mapping}
    {nowSec : Double} (arms : (gate.update axes mapping true nowSec).1.armed = true)
    (refused : (gate.update axes mapping true nowSec).2 = false) : gate.armed = false := by
  rw [Bool.eq_false_iff]
  intro armed
  have active : gate.state = .active := by simpa [NeutralToggleGate.armed] using armed
  rcases update_cases gate axes mapping true nowSec with reset | ⟨gate', same | same, sampled⟩
  · rw [reset] at arms
    cases arms
  · rw [sampled, same, NeutralToggleGate.sample, active] at arms refused
    cases previous : gate.previousButtonPressed <;>
      simp [previous, NeutralToggleGate.armed] at arms refused
  · rw [sampled, same, NeutralToggleGate.sample] at arms
    simp [NeutralToggleGate.reset, NeutralToggleGate.armed] at arms

/-- **Start toggles.**  Let a node have come, by any events, to the end of a rest of a start
sequence.  Its press arms the gate if it was not armed, and stops it otherwise; the press
itself commands nothing. -/
theorem start_toggles {joyTime positionTime clock : Time} {events : List (Time × Event)}
    {earlier rest : List (Time × Joy)} {press : Time × Joy} {g g' : ClockedNode}
    (passed : validateParameters params = .ok ())
    (reached : runs (step params) (start params joyTime positionTime clock) events = some g)
    (ends : joyHistory events = earlier ++ rest) (sequence : StartSequence params rest press)
    (taken : step params g (press.1, .joy press.2) = some g') :
    g'.node.safetyGate.armed = !g.node.safetyGate.armed ∧
      g'.node.latestCommand = fun _ => 0 := by
  have accepted := accepted_of_validate passed
  obtain ⟨timeout, isTimeout, positive⟩ := accepted.joyTimeout
  have positive : 0 < params.joyTimeoutSec := by rw [isTimeout]; simpa using positive
  obtain ⟨forward, -, rfl⟩ := step_eq_some.mp taken
  have readable := sequence.readable press (by simp)
  obtain ⟨wellFormed, isUpdate⟩ := wellFormed_of_readable readable
  have pressed : press.2.togglePressed = true := by
    simpa [isUpdate, GateCall.pressed] using sequence.pressed
  have agree := (simulates_run accepted reached).agree
  rw [ends] at agree
  obtain ⟨toggled, refused, noGap⟩ := sequence.toggles positive earlier
  have played : reference params (earlier ++ (rest ++ [press])) =
      g.node.safetyGate.update press.2.axes params.mapping true (Double.finite press.1) := by
    rw [← List.append_assoc, reference_concat, referenceStep_eq_apply, isUpdate, GateCall.apply,
      pressed]
    exact (agree.update_eq _ _ _ forward).symm
  rw [played] at toggled refused
  have same : (reference params (earlier ++ rest)).1.armed = g.node.safetyGate.armed := by
    cases armed : (reference params (earlier ++ rest)).1.armed with
    | false =>
        rw [armed] at toggled
        exact (unarmed_of_press toggled refused).symm
    | true =>
        -- A message without the press would be let through, so the node is armed as well.
        by_contra unarmed
        have unarmed : g.node.safetyGate.armed = false := (Bool.not_eq_true _).mp (Ne.symm unarmed)
        have stays := (update_of_released g.node.safetyGate press.2.axes params.mapping
          (Double.finite press.1) unarmed).2
        rw [agree.update_eq _ _ _ forward] at stays
        rw [isUpdate] at noGap readable
        rw [NeutralToggleGate.update_of_sample _ readable noGap] at stays
        have active : (reference params (earlier ++ rest)).1.state = .active := by
          simpa [NeutralToggleGate.armed] using armed
        simp [NeutralToggleGate.sample, active] at stays
  rw [same] at toggled
  simpa [Event.exec, joyCallback, wellFormed, pressed, refused] using toggled

/-! ## After the start -/

/-- Events after a Joy message in which the operator is there: a message or a tick comes in
time after the last message, and a message can be read and does not press Start anew. -/
def Attended (params : Parameters) : Time × Joy → List (Time × Event) → Prop
  | _, [] => True
  | last, (now, .joy message) :: rest =>
      Double.finite (now - last.1) ≤ params.joyTimeoutSec ∧
        (gateCall params (now, message)).readable params.mapping = true ∧
        ¬ (message.togglePressed = true ∧ last.2.togglePressed = false) ∧
        Attended params (now, message) rest
  | last, (now, .tick) :: rest =>
      Double.finite (now - last.1) ≤ params.joyTimeoutSec ∧ Attended params last rest
  | last, (_, .simFeedback _ _) :: rest => Attended params last rest

/-- The gate is armed, the message was the last, and a command follows from it. -/
structure InControl (params : Parameters) (last : Time × Joy) (command : Axis → Double)
    (g : ClockedNode) : Prop where
  armed : g.node.safetyGate.armed = true
  timeoutSec : g.node.safetyGate.timeoutSec = params.joyTimeoutSec
  lastSample : g.node.safetyGate.lastSampleTime = Double.finite last.1
  previous : g.node.safetyGate.previousButtonPressed = last.2.togglePressed
  valid : g.node.haveValidJoy = true
  lastJoy : g.node.lastJoyTime = last.1
  past : last.1 ≤ g.clock
  command : g.node.latestCommand = command

/-- The command after an event. -/
def commandAfter (params : Parameters) (command : Axis → Double) : Event → Axis → Double
  | .joy message => mapAxes message.axes params.mapping
  | _ => command

theorem InControl.of_same {last : Time × Joy} {command : Axis → Double} {g : ClockedNode} {s : Node}
    {now : Time} (c : InControl params last command g) (same : g.node.SameJoy s)
    (forward : g.clock ≤ now) : InControl params last command { clock := now, node := s } where
  armed := same.safetyGate ▸ c.armed
  timeoutSec := same.safetyGate ▸ c.timeoutSec
  lastSample := same.safetyGate ▸ c.lastSample
  previous := same.safetyGate ▸ c.previous
  valid := same.haveValidJoy ▸ c.valid
  lastJoy := same.lastJoyTime ▸ c.lastJoy
  past := c.past.trans forward
  command := same.latestCommand ▸ c.command

/-- A tick in time passes the command on. -/
theorem InControl.publishJoy_eq {last : Time × Joy} {command : Axis → Double} {g : ClockedNode}
    {now : Time} {timeout : ℚ} (isTimeout : params.joyTimeoutSec = timeout)
    (c : InControl params last command g)
    (inTime : Double.finite (now - last.1) ≤ params.joyTimeoutSec) :
    publishJoy params now g.node = (g.node, command) := by
  have live : timedOut params now g.node = false := by
    rw [isTimeout, Double.finite_le_finite] at inTime
    simp [timedOut, c.valid, c.lastJoy, isTimeout, inTime]
  simp only [publishJoy, live, Bool.false_eq_true, if_false, c.command]

/-- A sample of an armed gate that does not press Start anew is let through. -/
theorem sample_of_quiet {gate : NeutralToggleGate} {neutral buttonPressed : Bool} {nowSec : Double}
    (armed : gate.armed = true)
    (quiet : ¬ (buttonPressed = true ∧ gate.previousButtonPressed = false)) :
    gate.sample neutral buttonPressed nowSec =
      ({ gate with lastSampleTime := nowSec, previousButtonPressed := buttonPressed }, true) := by
  have active : gate.state = .active := by simpa [NeutralToggleGate.armed] using armed
  have held : ¬ (buttonPressed && !gate.previousButtonPressed) = true := by simpa using quiet
  unfold NeutralToggleGate.sample
  split
  · next waiting => rw [active] at waiting; cases waiting
  · next waiting => rw [active] at waiting; cases waiting
  · exact if_neg held

/-- **One event** while the operator is there. -/
theorem inControl_step {last : Time × Joy} {command : Axis → Double} {g g' : ClockedNode}
    {event : Time × Event} {rest : List (Time × Event)} (accepted : params.Accepted)
    (c : InControl params last command g) (attended : Attended params last (event :: rest))
    (taken : step params g event = some g') :
    (∃ last', InControl params last' (commandAfter params command event.2) g' ∧
        Attended params last' rest) ∧
      (event.2 = .tick → (publishCommand params event.1 g.node).2.command = command) := by
  obtain ⟨timeout, isTimeout, positive⟩ := accepted.joyTimeout
  obtain ⟨forward, -, rfl⟩ := step_eq_some.mp taken
  obtain ⟨now, event⟩ := event
  cases event with
  | simFeedback axis data =>
      exact ⟨⟨last, c.of_same (sameJoy_simFeedback params axis data now g.node) forward, attended⟩,
        by simp⟩
  | tick =>
      have published := c.publishJoy_eq isTimeout attended.1
      have same := sameJoy_publishCommand params now g.node
      rw [published] at same
      refine ⟨⟨last, c.of_same same forward, attended.2⟩, fun _ => ?_⟩
      rw [command_publishCommand, published]
  | joy message =>
      obtain ⟨inTime, readable, quiet, attended⟩ := attended
      obtain ⟨wellFormed, isUpdate⟩ := wellFormed_of_readable readable
      rw [isUpdate] at readable
      have noGap : g.node.safetyGate.isGap (Double.finite now) = false := by
        rw [isTimeout, Double.finite_le_finite] at inTime
        have order := c.past.trans forward
        simp [NeutralToggleGate.isGap, c.lastSample, c.timeoutSec, isTimeout, not_lt.mpr order,
          not_lt.mpr inTime]
      have sampled : g.node.safetyGate.update message.axes params.mapping message.togglePressed
          (Double.finite now) = ({ g.node.safetyGate with
            lastSampleTime := Double.finite now
            previousButtonPressed := message.togglePressed }, true) := by
        rw [NeutralToggleGate.update_of_sample _ readable noGap]
        exact sample_of_quiet c.armed (c.previous ▸ quiet)
      refine ⟨⟨(now, message), ?_, attended⟩, by simp⟩
      simp only [Event.exec, joyCallback, wellFormed, sampled, Bool.not_true, Bool.false_eq_true,
        if_false, if_true]
      exact ⟨c.armed, c.timeoutSec, rfl, rfl, rfl, rfl, le_rfl, rfl⟩

/-- **A run** while the operator is there. -/
theorem inControl_run {last : Time × Joy} {command : Axis → Double} {g g' : ClockedNode}
    {events rest : List (Time × Event)} (accepted : params.Accepted)
    (c : InControl params last command g) (attended : Attended params last (events ++ rest))
    (run : runs (step params) g events = some g') :
    ∃ last', InControl params last'
        (events.foldl (fun command event => commandAfter params command event.2) command) g' ∧
      Attended params last' rest := by
  induction events generalizing g last command with
  | nil => cases run; exact ⟨last, c, attended⟩
  | cons event events ih =>
      obtain ⟨g₁, taken, later⟩ := runs_cons_eq_some.mp run
      obtain ⟨⟨last', c', attended'⟩, -⟩ := inControl_step accepted c attended taken
      exact ih c' attended' later

/-- A gate that is armed has taken the message. -/
theorem previous_of_armed {gate : NeutralToggleGate} {axes : List Double} {mapping : Mapping}
    {buttonPressed : Bool} {nowSec : Double}
    (armed : (gate.update axes mapping buttonPressed nowSec).1.armed = true) :
    (gate.update axes mapping buttonPressed nowSec).1.previousButtonPressed = buttonPressed := by
  rcases update_cases gate axes mapping buttonPressed nowSec with reset | ⟨gate', -, sampled⟩
  · rw [reset] at armed
    cases armed
  · rw [sampled]
    unfold NeutralToggleGate.sample
    cases gate'.state <;> dsimp only <;> split <;> rfl

/-- What a press that arms leaves behind. -/
theorem inControl_of_press {press : Time × Joy} {g g' : ClockedNode}
    {history : List (Time × Joy)} (sim : Simulates params history g)
    (readable : (gateCall params press).readable params.mapping = true)
    (taken : step params g (press.1, .joy press.2) = some g')
    (armed : g'.node.safetyGate.armed = true) (zero : g'.node.latestCommand = fun _ => 0) :
    InControl params press (fun _ => 0) g' := by
  obtain ⟨forward, -, rfl⟩ := step_eq_some.mp taken
  obtain ⟨wellFormed, -⟩ := wellFormed_of_readable readable
  simp only [Event.exec, joyCallback, wellFormed, Bool.not_true, Bool.false_eq_true,
    if_false] at armed zero ⊢
  have settings := congrArg NeutralToggleGate.timeoutSec
    (@NeutralToggleGate.reset_update g.node.safetyGate press.2.axes params.mapping
      press.2.togglePressed (Double.finite press.1))
  refine ⟨armed, ?_, ?_, previous_of_armed armed, rfl, rfl, le_rfl, zero⟩
  · exact settings.trans ((congrArg NeutralToggleGate.timeoutSec sim.agree.reset_eq).trans
      (timeoutSec_reference history))
  · rcases @NeutralToggleGate.update_reset_or_last g.node.safetyGate press.2.axes params.mapping
      press.2.togglePressed (Double.finite press.1) with reset | last
    · rw [reset] at armed
      cases armed
    · exact last

/-- **The operator takes control.**  From any state that a node can be in, the start
sequence toggles it: its press stops a node that was armed, and arms one that was not.  Then,
as long as the operator is there, every tick publishes what the last message asks for. -/
theorem operator_takes_control {joyTime positionTime clock : Time} {events : List (Time × Event)}
    {earlier rest : List (Time × Joy)} {press : Time × Joy} {g g' : ClockedNode}
    (passed : validateParameters params = .ok ())
    (reached : runs (step params) (start params joyTime positionTime clock) events = some g)
    (ends : joyHistory events = earlier ++ rest) (sequence : StartSequence params rest press)
    (taken : step params g (press.1, .joy press.2) = some g') :
    g'.node.safetyGate.armed = !g.node.safetyGate.armed ∧
      (g.node.safetyGate.armed = false → ∀ following now g'',
        Attended params press (following ++ [(now, .tick)]) →
        runs (step params) g' (following ++ [(now, .tick)]) = some g'' →
        ∃ s, runs (step params) g' following = some s ∧
          (publishCommand params now s.node).2.command =
            following.foldl (fun command event => commandAfter params command event.2)
              fun _ => 0) := by
  have accepted := accepted_of_validate passed
  obtain ⟨toggled, zero⟩ := start_toggles passed reached ends sequence taken
  refine ⟨toggled, fun unarmed following now g'' attended run => ?_⟩
  rw [unarmed] at toggled
  have control := inControl_of_press (simulates_run accepted reached)
    (sequence.readable press (by simp)) taken toggled zero
  obtain ⟨s, prefixRun, last⟩ := runs_append_eq_some.mp run
  obtain ⟨last', control', attended'⟩ := inControl_run accepted control attended prefixRun
  exact ⟨s, prefixRun, (inControl_step accepted control' attended' (runs_singleton.symm.trans last)).2
    rfl⟩

end Node

/-! ## A start -/

/-- Sticks at rest, Start released. -/
def atRest : Joy := { axes := [0, 0, 0, 0], buttons := List.replicate 10 0 }

/-- Three messages at rest, and a press. -/
def startRest : List (Time × Joy) := [(0, atRest), (1 / 4, atRest), (1 / 2, atRest)]

def startPress : Time × Joy := (3 / 4, { atRest with buttons := List.replicate 10 1 })

theorem startSequence_startRest : StartSequence {} startRest startPress where
  readable := by decide +kernel
  neutral := by decide +kernel
  released := by decide +kernel
  pressed := by decide +kernel
  inTime := by
    simp only [startRest, List.cons_append, List.nil_append, List.isChain_cons_cons, InTime]
    decide +kernel
  held := ⟨(0, atRest), rfl, (1 / 2, atRest), rfl, by decide +kernel⟩

/-- The sticks move after the press, then a tick. -/
def startFollowing : List (Time × Event) :=
  [(1, .joy { axes := [1, 0, 0, 0], buttons := List.replicate 10 0 })]

theorem operator_takes_control_swing :
    ∃ g g' g'', runs (step {}) (start {} 0 0 0) (startRest.map fun r => (r.1, Event.joy r.2)) =
        some g ∧
      step {} g (startPress.1, .joy startPress.2) = some g' ∧
      g'.node.safetyGate.armed = true ∧
      runs (step {}) g' (startFollowing ++ [(1, .tick)]) = some g'' ∧
      ∃ s, runs (step {}) g' startFollowing = some s ∧
        (publishCommand {} 1 s.node).2.command 0 = Double.finite 100 := by
  obtain ⟨g, reached, unarmed, g', taken, armed, g'', run, -⟩ : ∃ g ∈ runs (step {}) (start {} 0 0 0)
      (startRest.map fun r => (r.1, Event.joy r.2)), g.node.safetyGate.armed = false ∧
        ∃ g' ∈ step {} g (startPress.1, .joy startPress.2), g'.node.safetyGate.armed = true ∧
          ∃ g'' ∈ runs (step {}) g' (startFollowing ++ [(1, .tick)]), g''.node.haveValidJoy = true := by
    decide +kernel
  have attended : Attended {} startPress (startFollowing ++ [(1, .tick)]) := by
    simp only [startFollowing, List.cons_append, List.nil_append, Attended]
    decide +kernel
  have ends : joyHistory (startRest.map fun r => (r.1, Event.joy r.2)) = [] ++ startRest := rfl
  obtain ⟨s, first, published⟩ := (operator_takes_control (validateParameters_default false)
    reached ends startSequence_startRest taken).2 unarmed startFollowing 1 g'' attended run
  exact ⟨g, g', g'', reached, taken, armed, run, s, first, by rw [published]; decide +kernel⟩

end Tb20e.Gamepad
