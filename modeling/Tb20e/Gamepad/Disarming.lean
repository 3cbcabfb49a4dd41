/-
# Gamepad.Disarming -- a node that has stopped stays stopped

A node whose gate is not armed commands zero (`disarmed_of_unarmed`), and goes on to,
whatever the sticks do, until Start is pressed (`disarmed_step`): only a press arms the gate.
-/
import Tb20e.Gamepad.JoyWatchdog

namespace Tb20e.Gamepad

set_option autoImplicit false

open Tb20e.Theory Tb20e.Control
open Tb20e.Theory (Double)

/-! ## The gate -/

section Gate

variable (gate : NeutralToggleGate) {axes : List Double} {mapping : Mapping} {nowSec : Double}

/-- What a sample does to a gate that is not armed, the button being released. -/
theorem sample_of_released (neutral : Bool) (nowSec : Double) (unarmed : gate.armed = false) :
    (gate.sample neutral false nowSec).1.armed = false ∧
      (gate.sample neutral false nowSec).2 = false := by
  simp only [NeutralToggleGate.armed, decide_eq_false_iff_not] at unarmed
  unfold NeutralToggleGate.sample NeutralToggleGate.armed
  cases state : gate.state with
  | active => exact absurd state unarmed
  | waitingNeutral =>
      cases neutral with
      | false => simp
      | true =>
          simp only [Bool.not_true, Bool.or_self, Bool.false_eq_true, if_false, and_true]
          rw [decide_eq_false_iff_not]
          generalize (if (!gate.neutralSince.isFinite) = true then nowSec else gate.neutralSince) =
            neutralSince
          split <;> simp
  | waitingPress => cases neutral <;> simp

/-- An update is a reset, or a sample of the gate or of the gate reset. -/
theorem update_cases (axes : List Double) (mapping : Mapping) (buttonPressed : Bool)
    (nowSec : Double) :
    gate.update axes mapping buttonPressed nowSec = (gate.reset, false) ∨
      ∃ gate', (gate' = gate ∨ gate' = gate.reset) ∧
        gate.update axes mapping buttonPressed nowSec =
          gate'.sample (NeutralToggleGate.isNeutral axes mapping) buttonPressed nowSec := by
  cases readable : NeutralToggleGate.isReadable axes mapping nowSec with
  | false => exact .inl (gate.update_of_unreadable readable)
  | true =>
      right
      cases gap : gate.isGap nowSec with
      | false => exact ⟨gate, .inl rfl, gate.update_of_sample readable gap⟩
      | true =>
          refine ⟨gate.reset, .inr rfl, ?_⟩
          rw [gate.update_of_gap gap]
          exact gate.reset.update_of_sample readable gate.isGap_reset

theorem update_of_released (axes : List Double) (mapping : Mapping) (nowSec : Double)
    (unarmed : gate.armed = false) :
    (gate.update axes mapping false nowSec).1.armed = false ∧
      (gate.update axes mapping false nowSec).2 = false := by
  rcases update_cases gate axes mapping false nowSec with reset | ⟨gate', same | same, sampled⟩
  · rw [reset]
    exact ⟨rfl, rfl⟩
  · rw [sampled, same]
    exact sample_of_released gate _ nowSec unarmed
  · rw [sampled, same]
    exact sample_of_released gate.reset _ nowSec rfl

/-- A message that may command motion leaves the gate armed. -/
theorem armed_of_allowed {buttonPressed : Bool}
    (allowed : (gate.update axes mapping buttonPressed nowSec).2 = true) :
    (gate.update axes mapping buttonPressed nowSec).1.armed = true := by
  rcases update_cases gate axes mapping buttonPressed nowSec with reset | ⟨gate', -, sampled⟩
  · rw [reset] at allowed
    cases allowed
  · rw [sampled] at allowed ⊢
    unfold NeutralToggleGate.sample at allowed ⊢
    cases state : gate'.state <;> simp only [state] at allowed ⊢ <;> revert allowed <;>
      (split <;> simp [NeutralToggleGate.armed])

end Gate

/-! ## The node -/

section Node

variable {params : Parameters}

/-- The gate is not armed, and the command is zero. -/
structure Disarmed (s : Node) : Prop where
  unarmed : s.safetyGate.armed = false
  zero : s.latestCommand = fun _ => 0

/-- An event that does not press Start. -/
def Released : Event → Prop
  | .joy message => message.togglePressed = false
  | _ => True

theorem Disarmed.of_same {s s' : Node} (d : Disarmed s) (same : s.SameJoy s') : Disarmed s' where
  unarmed := same.safetyGate ▸ d.unarmed
  zero := same.latestCommand ▸ d.zero

theorem disarmed_publishJoy {now : Time} {s : Node} (d : Disarmed s) :
    Disarmed (publishJoy params now s).1 ∧ (publishJoy params now s).2 = fun _ => 0 := by
  unfold publishJoy
  split
  · exact ⟨⟨rfl, rfl⟩, rfl⟩
  · exact ⟨d, d.zero⟩

/-- **A disarmed node stays disarmed** while Start is not pressed. -/
theorem disarmed_exec {event : Event} {now : Time} {s : Node} (d : Disarmed s)
    (released : Released event) : Disarmed (event.exec params now s) := by
  cases event with
  | simFeedback axis data => exact d.of_same (sameJoy_simFeedback params axis data now s)
  | tick => exact (disarmed_publishJoy d).1.of_same (sameJoy_publishCommand params now s)
  | joy message =>
      simp only [Event.exec, joyCallback]
      split
      · exact ⟨rfl, rfl⟩
      · have kept := update_of_released s.safetyGate message.axes params.mapping (now : Double)
          d.unarmed
        rw [show message.togglePressed = false from released]
        exact ⟨kept.1, by simp [kept.2]⟩

theorem disarmed_step {g g' : ClockedNode} {event : Time × Event} (d : Disarmed g.node)
    (released : Released event.2) (taken : step params g event = some g') : Disarmed g'.node := by
  obtain ⟨-, -, rfl⟩ := step_eq_some.mp taken
  exact disarmed_exec d released

/-- What a disarmed node publishes. -/
theorem command_of_disarmed {now : Time} {s : Node} (d : Disarmed s) :
    (publishCommand params now s).2.command = fun _ => 0 := by
  rw [command_publishCommand]
  exact (disarmed_publishJoy d).2

/-- In every reachable state the command is zero unless the gate is armed. -/
theorem disarmed_of_unarmed {joyTime positionTime clock : Time} {events : List (Time × Event)}
    {g : ClockedNode}
    (reached : runs (step params) (start params joyTime positionTime clock) events = some g)
    (unarmed : g.node.safetyGate.armed = false) : Disarmed g.node := by
  refine ⟨unarmed, ?_⟩
  revert unarmed
  refine runs_invariant (I := fun g : ClockedNode =>
    g.node.safetyGate.armed = false → g.node.latestCommand = fun _ => 0) ?_ reached fun _ => rfl
  rintro g ⟨now, event⟩ g' held taken unarmed
  obtain ⟨-, -, rfl⟩ := step_eq_some.mp taken
  cases event with
  | simFeedback axis data =>
      have same := sameJoy_simFeedback params axis data now g.node
      exact (Disarmed.of_same ⟨same.safetyGate ▸ unarmed, held (same.safetyGate ▸ unarmed)⟩ same).zero
  | tick =>
      have same := sameJoy_publishCommand params now g.node
      have rest : (publishJoy params now g.node).1.latestCommand = fun _ => 0 := by
        have unarmed : (publishJoy params now g.node).1.safetyGate.armed = false :=
          same.safetyGate ▸ unarmed
        revert unarmed
        unfold publishJoy
        split
        · exact fun _ => rfl
        · exact held
      exact same.latestCommand.trans rest
  | joy message =>
      simp only [Event.exec, joyCallback] at unarmed ⊢
      split
      · rfl
      · next wellFormed =>
          rw [if_neg wellFormed] at unarmed
          have refused : ¬ (g.node.safetyGate.update message.axes params.mapping
              message.togglePressed (now : Double)).2 = true := by
            intro allowed
            have armed := armed_of_allowed g.node.safetyGate allowed
            rw [armed] at unarmed
            cases unarmed
          exact if_neg refused

end Node

end Tb20e.Gamepad
