/-
# Control.GamepadSafety -- the neutral-toggle gate

`gamepad_safety.hpp`.  Motion is enabled by holding every stick in neutral with
the button released and then pressing the button; pressing it again disables.
A message that cannot be read, or one that arrives too late after the message
before it, puts the gate back to where it started.

`update_of_unreadable`, `update_of_gap` and `update_of_sample` are the three
things an update can be: a reset, a reset followed by a sample, and a sample,
whose effect depends only on its time and on whether it is neutral and pressed.
-/
import Tb20e.Control.GamepadMapping

namespace Tb20e.Control

set_option autoImplicit false

open Tb20e.Theory
open Tb20e.Theory (Double)

inductive GateState where
  | waitingNeutral
  | waitingPress
  | active
  deriving DecidableEq, Repr

structure NeutralToggleGate where
  state : GateState := .waitingNeutral
  holdSec : Double
  timeoutSec : Double
  neutralSince : Double := .nan
  lastSampleTime : Double := .nan
  previousButtonPressed : Bool := false
  deriving DecidableEq, Repr

namespace NeutralToggleGate

/-- A gate as its constructor leaves it. -/
def fresh (holdSec timeoutSec : Double) : NeutralToggleGate := { holdSec, timeoutSec }

def reset (self : NeutralToggleGate) : NeutralToggleGate :=
  { self with
    state := .waitingNeutral
    neutralSince := .nan
    lastSampleTime := .nan
    previousButtonPressed := false }

/-- Whether every stick is within the dead zone. -/
def isNeutral (axes : List Double) (mapping : Mapping) : Bool :=
  mapping.indices.all fun index => (axisValue axes index).abs ≤ mapping.deadzone

/-- Take a message: the gate after it, and whether it may command motion. -/
def update (self : NeutralToggleGate) (axes : List Double) (mapping : Mapping)
    (buttonPressed : Bool) (nowSec : Double) : NeutralToggleGate × Bool :=
  if !nowSec.isFinite || !axisIndicesAreValid axes mapping then (self.reset, false)
  else if mapping.indices.any fun index => !(axisValue axes index).isFinite then
    (self.reset, false)
  else
    let self :=
      if self.lastSampleTime.isFinite &&
          (nowSec < self.lastSampleTime || nowSec - self.lastSampleTime > self.timeoutSec) then
        self.reset
      else self
    let buttonRising := buttonPressed && !self.previousButtonPressed
    let self := { self with lastSampleTime := nowSec, previousButtonPressed := buttonPressed }
    let neutral := isNeutral axes mapping
    if self.state = .active then
      if buttonRising then
        ({ self.reset with lastSampleTime := nowSec, previousButtonPressed := buttonPressed },
          false)
      else (self, true)
    else if !neutral || (buttonPressed && self.state = .waitingNeutral) then
      ({ self with state := .waitingNeutral, neutralSince := .nan }, false)
    else if self.state = .waitingNeutral then
      let self :=
        { self with
          neutralSince := if !self.neutralSince.isFinite then nowSec else self.neutralSince }
      if nowSec - self.neutralSince ≥ self.holdSec then
        ({ self with state := .waitingPress }, false)
      else (self, false)
    else if buttonRising then ({ self with state := .active }, false)
    else (self, false)

def armed (self : NeutralToggleGate) : Bool := self.state = .active

/-! ## The three things an update can be -/

/-- Whether a message can be read at all: a finite time, and a finite value for
every entry the mapping names. -/
def isReadable (axes : List Double) (mapping : Mapping) (nowSec : Double) : Bool :=
  nowSec.isFinite && axisIndicesAreValid axes mapping &&
    mapping.indices.all fun index => (axisValue axes index).isFinite

/-- Whether a message comes before the last one, or too long after it. -/
def isGap (self : NeutralToggleGate) (nowSec : Double) : Bool :=
  self.lastSampleTime.isFinite &&
    (nowSec < self.lastSampleTime || nowSec - self.lastSampleTime > self.timeoutSec)

/-- What a readable message in time does. -/
def sample (self : NeutralToggleGate) (neutral buttonPressed : Bool) (nowSec : Double) :
    NeutralToggleGate × Bool :=
  let next := { self with lastSampleTime := nowSec, previousButtonPressed := buttonPressed }
  let back := { next with state := .waitingNeutral, neutralSince := .nan }
  let buttonRising := buttonPressed && !self.previousButtonPressed
  match self.state with
  | .waitingNeutral =>
      if !neutral || buttonPressed then (back, false)
      else
        let neutralSince := if !self.neutralSince.isFinite then nowSec else self.neutralSince
        let state :=
          if nowSec - neutralSince ≥ self.holdSec then .waitingPress else .waitingNeutral
        ({ next with state, neutralSince }, false)
  | .waitingPress =>
      if !neutral then (back, false)
      else ({ next with state := if buttonRising then .active else .waitingPress }, false)
  | .active => if buttonRising then (back, false) else (next, true)

section Update

variable (self : NeutralToggleGate) {axes : List Double} {mapping : Mapping}
  {buttonPressed : Bool} {nowSec : Double}

theorem update_of_unreadable (unreadable : isReadable axes mapping nowSec = false) :
    self.update axes mapping buttonPressed nowSec = (self.reset, false) := by
  unfold update
  split
  · rfl
  · rename_i indexed
    split
    · rfl
    · rename_i finite
      simp_all [isReadable]

theorem isGap_reset : self.reset.isGap nowSec = false := rfl

/-- A message after a gap is the first message of a gate that was reset. -/
theorem update_of_gap (gap : self.isGap nowSec = true) :
    self.update axes mapping buttonPressed nowSec =
      self.reset.update axes mapping buttonPressed nowSec := by
  unfold isGap at gap
  unfold update
  simp only [gap, if_true]
  rfl

theorem update_of_sample (readable : isReadable axes mapping nowSec = true)
    (inTime : self.isGap nowSec = false) :
    self.update axes mapping buttonPressed nowSec =
      self.sample (isNeutral axes mapping) buttonPressed nowSec := by
  have unguarded : (!nowSec.isFinite || !axisIndicesAreValid axes mapping) = false ∧
      (mapping.indices.any fun index => !(axisValue axes index).isFinite) = false := by
    simp_all [isReadable]
  unfold isGap at inTime
  simp only [update, unguarded, inTime, Bool.false_eq_true, if_false, sample]
  generalize isNeutral axes mapping = neutral
  cases state : self.state with
  | waitingNeutral =>
      cases neutral <;> cases buttonPressed <;> simp
      split <;> split <;> rfl
  | waitingPress =>
      cases neutral <;> cases buttonPressed <;> cases self.previousButtonPressed <;> simp
  | active =>
      cases buttonPressed <;> cases self.previousButtonPressed <;> simp [reset]

/-- An update keeps the settings: it differs from the old gate only in what a
reset forgets. -/
theorem reset_update :
    (self.update axes mapping buttonPressed nowSec).1.reset = self.reset := by
  have sampled (gate : NeutralToggleGate) :
      (gate.sample (isNeutral axes mapping) buttonPressed nowSec).1.reset = gate.reset := by
    unfold sample
    cases gate.state <;> dsimp only <;> split <;> rfl
  cases readable : isReadable axes mapping nowSec with
  | false => rw [update_of_unreadable self readable]; rfl
  | true =>
      cases gap : self.isGap nowSec with
      | false => rw [update_of_sample self readable gap, sampled]
      | true =>
          rw [update_of_gap self gap, update_of_sample self.reset readable self.isGap_reset, sampled]
          rfl

/-- After an update the gate is reset or holds the time of the message. -/
theorem update_reset_or_last :
    (self.update axes mapping buttonPressed nowSec).1 = self.reset ∨
      (self.update axes mapping buttonPressed nowSec).1.lastSampleTime = nowSec := by
  have sampled (gate : NeutralToggleGate) :
      (gate.sample (isNeutral axes mapping) buttonPressed nowSec).1.lastSampleTime = nowSec := by
    unfold sample
    cases gate.state <;> dsimp only <;> split <;> rfl
  cases readable : isReadable axes mapping nowSec with
  | false => exact .inl (by rw [update_of_unreadable self readable])
  | true =>
      refine .inr ?_
      cases gap : self.isGap nowSec with
      | false => rw [update_of_sample self readable gap, sampled]
      | true =>
          rw [update_of_gap self gap, update_of_sample self.reset readable self.isGap_reset, sampled]

theorem readable_of_allowed
    (allowed : (self.update axes mapping buttonPressed nowSec).2 = true) :
    isReadable axes mapping nowSec = true := by
  by_contra unreadable
  rw [update_of_unreadable self (Bool.eq_false_iff.mpr unreadable)] at allowed
  cases allowed

end Update

/-! ## Gates that cannot be told apart -/

/-- From an instant on, two gates do the same on every message and on a reset. -/
structure AgreeFrom (mapping : Mapping) (clock : Time) (gate reference : NeutralToggleGate) :
    Prop where
  reset_eq : gate.reset = reference.reset
  update_eq : ∀ axes buttonPressed (now : Time), clock ≤ now →
    gate.update axes mapping buttonPressed now = reference.update axes mapping buttonPressed now

section Agree

variable {mapping : Mapping} {clock later : Time} {gate reference : NeutralToggleGate}

theorem AgreeFrom.refl (mapping : Mapping) (clock : Time) (gate : NeutralToggleGate) :
    AgreeFrom mapping clock gate gate := ⟨rfl, fun _ _ _ _ => rfl⟩

theorem AgreeFrom.mono (agree : AgreeFrom mapping clock gate reference) (forward : clock ≤ later) :
    AgreeFrom mapping later gate reference :=
  ⟨agree.reset_eq, fun axes pressed now after => agree.update_eq axes pressed now (forward.trans after)⟩

/-- Resetting a gate changes nothing if its next message comes after a gap. -/
theorem AgreeFrom.reset (agree : AgreeFrom mapping clock gate reference)
    (gap : reference.reset = reference ∨
      ∀ now : Time, later ≤ now → reference.isGap (now : Double) = true) :
    AgreeFrom mapping later gate.reset reference := by
  refine ⟨agree.reset_eq, ?_⟩
  intro axes pressed now after
  rw [agree.reset_eq]
  rcases gap with isReset | gap
  · rw [isReset]
  · exact (reference.update_of_gap (gap now after)).symm

end Agree

end NeutralToggleGate

end Tb20e.Control
