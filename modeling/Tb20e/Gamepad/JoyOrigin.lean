/-
# Gamepad.JoyOrigin -- which Joy messages a nonzero command is from

A command that is not zero says a good deal of the Joy messages before it.  The last of
them is complete and recent, its stick is pushed out of the dead zone, and the messages up
to it are a chain that armed the gate: sticks at rest, then the Start button, then no
second press (`JoyOrigin`).

The reference gate is a fold over the messages, while `Armed` is about numbered calls;
`reference_eq_gateAt` is the passage from one to the other.
-/
import Tb20e.Control.StickMapping
import Tb20e.Gamepad.Arming
import Tb20e.Gamepad.JoyWatchdog

namespace Tb20e.Gamepad

set_option autoImplicit false

open Tb20e.Theory Tb20e.Control
open Tb20e.Theory (Double)

/-! ## The messages as calls of the gate -/

section Calls

variable {mapping : Mapping} {holdSec timeoutSec : Double} {calls calls' : ℕ → GateCall}

/-- The gate before a call has seen the calls before it, and no others. -/
theorem gateAt_congr {n : ℕ} (same : ∀ i < n, calls i = calls' i) :
    gateAt mapping holdSec timeoutSec calls n = gateAt mapping holdSec timeoutSec calls' n := by
  induction n with
  | zero => rfl
  | succ n ih =>
      rw [gateAt, gateAt, same n n.lt_succ_self, ih fun i before => same i (before.trans n.lt_succ_self)]

variable (params : Parameters)

/-- What a Joy message is for the gate. -/
def gateCall (received : Time × Joy) : GateCall :=
  if received.2.wellFormed params then
    .update received.2.axes received.2.togglePressed (received.1 : Double)
  else .reset

def gateCalls (history : List (Time × Joy)) (n : ℕ) : GateCall :=
  (history.map (gateCall params)).getD n .reset

variable {params}

theorem gateCalls_concat_of_lt {history : List (Time × Joy)} (received : Time × Joy) {i : ℕ}
    (before : i < history.length) :
    gateCalls params (history ++ [received]) i = gateCalls params history i := by
  simp [gateCalls, List.getElem?_append_left, before]

theorem gateCalls_concat_length (history : List (Time × Joy)) (received : Time × Joy) :
    gateCalls params (history ++ [received]) history.length = gateCall params received := by
  simp [gateCalls]

theorem referenceStep_eq_apply (gate : NeutralToggleGate × Bool) (received : Time × Joy) :
    referenceStep params gate received = (gateCall params received).apply params.mapping gate.1 := by
  unfold referenceStep gateCall
  split <;> rfl

/-- The reference gate is the gate after a call for each message. -/
theorem reference_eq_gateAt (history : List (Time × Joy)) :
    (reference params history).1 = gateAt params.mapping params.neutralHoldSec
      params.joyTimeoutSec (gateCalls params history) history.length := by
  induction history using List.reverseRecOn with
  | nil => rfl
  | append_singleton history received ih =>
      rw [reference_concat, referenceStep_eq_apply, ih, List.length_append, List.length_singleton,
        gateAt, gateCalls_concat_length,
        gateAt_congr fun i before => (gateCalls_concat_of_lt received before).symm]

/-- What it returns on the last message is what that call returns. -/
theorem reference_eq_allowedAt (history : List (Time × Joy)) (received : Time × Joy) :
    (reference params (history ++ [received])).2 = allowedAt params.mapping params.neutralHoldSec
      params.joyTimeoutSec (gateCalls params (history ++ [received])) history.length := by
  rw [reference_concat, referenceStep_eq_apply, allowedAt, gateCalls_concat_length,
    reference_eq_gateAt,
    gateAt_congr fun i before => (gateCalls_concat_of_lt received before).symm]

end Calls

/-! ## The origin of a command -/

/-- The command of an axis is from the last of these messages. -/
structure JoyOrigin (params : Parameters) (earlier : List (Time × Joy)) (received : Time)
    (message : Joy) (now : Time) (axis : Axis) (deadzone stick scale : ℚ) : Prop where
  wellFormed : message.wellFormed params = true
  inTime : Double.finite (now - received) ≤ params.joyTimeoutSec
  armed : ∃ a p, a < p ∧ p < earlier.length ∧
    Armed params.mapping params.neutralHoldSec params.joyTimeoutSec
      (gateCalls params (earlier ++ [(received, message)])) a p earlier.length
  isDeadzone : params.mapping.deadzone = deadzone
  isStick : axisValue message.axes (params.mapping.index axis) = stick
  isScale : params.mapping.scale axis = scale
  pushed : deadzone < |stick|

/-- A stick out of the dead zone commands in its own direction. -/
theorem deadzoneCurve_sign {deadzone : ℚ} (nonneg : 0 ≤ deadzone) (below : deadzone < 1) {stick : ℚ}
    (pushed : deadzone < |stick|) : 0 < deadzoneCurve deadzone stick * stick := by
  have moves : deadzoneCurve deadzone stick ≠ 0 := by
    rw [Ne, deadzoneCurve_eq_zero_iff nonneg below]
    exact not_le.mpr pushed
  have atRest : deadzoneCurve deadzone 0 = 0 := by
    rw [deadzoneCurve_eq_zero_iff nonneg below]
    simpa using nonneg
  have grows := deadzoneCurve_monotone nonneg below
  rcases lt_trichotomy stick 0 with left | rfl | right
  · refine mul_pos_of_neg_of_neg (lt_of_le_of_ne ?_ moves) left
    exact atRest ▸ grows left.le
  · exact absurd atRest moves
  · refine mul_pos (lt_of_le_of_ne ?_ moves.symm) right
    exact atRest ▸ grows right.le

/-- A command that is not zero has passed the checks on the last message. -/
theorem checks_of_nonzero {params : Parameters} {earlier : List (Time × Joy)} {received now : Time}
    {message : Joy} {axis : Axis}
    (nonzero : referenceCommand params (earlier ++ [(received, message)]) now axis ≠ 0) :
    message.wellFormed params = true ∧
      ¬ Double.finite (now - received) > params.joyTimeoutSec ∧
      (reference params (earlier ++ [(received, message)])).2 = true ∧
      referenceCommand params (earlier ++ [(received, message)]) now =
        mapAxes message.axes params.mapping := by
  have isLast : (earlier ++ [(received, message)]).getLast? = some (received, message) := by simp
  simp only [referenceCommand, isLast] at nonzero ⊢
  cases wellFormed : message.wellFormed params with
  | false => simp [wellFormed] at nonzero
  | true =>
      simp only [wellFormed, Bool.not_true, Bool.false_eq_true, if_false] at nonzero ⊢
      split at nonzero
      · exact absurd rfl nonzero
      · next inTime =>
          unfold referenceAnswer at nonzero ⊢
          split at nonzero
          · next allowed => exact ⟨trivial, inTime, allowed, by rw [if_neg inTime, if_pos allowed]⟩
          · exact absurd rfl nonzero

/-- A last message that the gate allows has its sticks, at the end of a chain that armed. -/
theorem armed_of_last_allowed {params : Parameters} (accepted : params.Accepted)
    {earlier : List (Time × Joy)} {received : Time} {message : Joy}
    (wellFormed : message.wellFormed params = true)
    (allowed : (reference params (earlier ++ [(received, message)])).2 = true) :
    HasSticks message.axes params.mapping ∧ ∃ a p, a < p ∧ p < earlier.length ∧
      Armed params.mapping params.neutralHoldSec params.joyTimeoutSec
        (gateCalls params (earlier ++ [(received, message)])) a p earlier.length := by
  obtain ⟨timeout, isTimeout, positive⟩ := accepted.joyTimeout
  have moving : (0 : Double) < params.joyTimeoutSec := by
    rw [isTimeout, Double.zero_eq, Double.finite_lt_finite]
    exact positive
  rw [reference_eq_allowedAt] at allowed
  obtain ⟨m, last, readable, chained, ⟨a, p, before, upTo, armed⟩, quiet⟩ :=
    active_of_allowed moving allowed
  refine ⟨?_, a, p, before, last ▸ Nat.lt_succ_of_le upTo, ?_⟩
  · rw [gateCalls_concat_length, gateCall, if_pos wellFormed, GateCall.readable,
      NeutralToggleGate.isReadable] at readable
    simp only [Bool.and_eq_true, List.all_eq_true] at readable
    exact ⟨readable.1.2, readable.2⟩
  · rw [last] at readable chained quiet ⊢
    exact armed.succ readable chained quiet

/-- **The origin of a nonzero command**: the last message, in time and at the end of a
chain that armed the gate, through the dead zone and scaled. -/
theorem exists_joyOrigin {params : Parameters} (accepted : params.Accepted)
    {history : List (Time × Joy)} {now : Time} {axis : Axis}
    (nonzero : referenceCommand params history now axis ≠ 0) :
    ∃ earlier received message deadzone stick scale,
      history = earlier ++ [(received, message)] ∧
      JoyOrigin params earlier received message now axis deadzone stick scale ∧
      referenceCommand params history now axis =
        Double.finite (deadzoneCurve deadzone stick * scale) := by
  rcases List.eq_nil_or_concat history with rfl | ⟨earlier, ⟨received, message⟩, rfl⟩
  · exact absurd rfl nonzero
  · rw [List.concat_eq_append] at nonzero ⊢
    obtain ⟨wellFormed, inTime, allowed, mapped⟩ := checks_of_nonzero nonzero
    obtain ⟨sticks, armed⟩ := armed_of_last_allowed accepted wellFormed allowed
    obtain ⟨deadzone, isDeadzone, nonneg, below⟩ := accepted.deadzone
    choose scale isScale _ using accepted.scale
    obtain ⟨stick, isStick, command⟩ := sticks.exists_mapAxes_eq below isDeadzone isScale axis
    rw [mapped] at nonzero ⊢
    refine ⟨earlier, received, message, deadzone, stick, scale axis, rfl, ?_, command⟩
    refine ⟨wellFormed, ?_, armed, isDeadzone, isStick, isScale axis, ?_⟩
    · obtain ⟨timeout, isTimeout, -⟩ := accepted.joyTimeout
      rw [isTimeout, gt_iff_lt, Double.finite_lt_finite] at inTime
      rw [isTimeout, Double.finite_le_finite]
      exact not_lt.mp inTime
    · by_contra inside
      rw [not_lt, ← deadzoneCurve_eq_zero_iff nonneg below] at inside
      rw [command, inside, zero_mul] at nonzero
      exact nonzero rfl

end Tb20e.Gamepad
