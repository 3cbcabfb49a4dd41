/-
# Control.Axes -- the four axes, and time

Every array of the source has one entry for each axis, in the order swing, boom,
arm, bucket, and every loop visits them in that order.
-/
import Mathlib.Data.Fintype.Pi
import Mathlib.Data.Rat.Defs
import Mathlib.Tactic.FinCases

namespace Tb20e.Control

set_option autoImplicit false

def kAxisCount : ℕ := 4

/-- The index of an axis: swing, boom, arm, bucket. -/
abbrev Axis := Fin 4

/-- What the literals of `Axis` rest on, the same in every module. -/
instance (priority := high) axis_neZero : @NeZero ℕ Zero.ofOfNat0 4 := ⟨by decide⟩

/-- The axes in the order every loop of the source visits them. -/
def axes : List Axis := [0, 1, 2, 3]

/-- A duration or an instant of the steady clock, in seconds. -/
abbrev Time := ℚ

theorem mem_axes (axis : Axis) : axis ∈ axes := by
  revert axis; decide

@[simp] theorem all_axes_iff {p : Axis → Bool} : axes.all p = true ↔ ∀ axis, p axis = true := by
  simp [List.all_eq_true, mem_axes]

@[simp] theorem any_axes_iff {p : Axis → Bool} : axes.any p = true ↔ ∃ axis, p axis = true := by
  simp [List.any_eq_true, mem_axes]

end Tb20e.Control
