/-
# Theory.Since -- a trigger, and a condition that has held since

`Since hold trigger history` says that some entry of the history (oldest first)
triggered and every entry after it held.  A flag that is raised by a trigger and
dropped as soon as the condition fails is true exactly when `Since` is
(`since_concat` is the flag's recurrence), which is how a latch, a hysteresis
or an arming rule with memory is read as a statement about its input history.
-/
import Mathlib.Data.List.Basic
import Mathlib.Tactic.Common

namespace Tb20e.Theory

set_option autoImplicit false

variable {ι : Type*} {hold trigger : ι → Prop}

/-- Some entry triggered, and every later entry holds. -/
def Since (hold trigger : ι → Prop) (history : List ι) : Prop :=
  ∃ earlier first later, history = earlier ++ first :: later ∧ trigger first ∧
    ∀ entry ∈ later, hold entry

theorem not_since_nil : ¬ Since hold trigger [] := by
  rintro ⟨earlier, first, later, split, -⟩
  simp at split

/-- The recurrence of a flag that a trigger raises and a failure drops. -/
theorem since_concat (history : List ι) (entry : ι) :
    Since hold trigger (history ++ [entry]) ↔
      trigger entry ∨ (hold entry ∧ Since hold trigger history) := by
  constructor
  · rintro ⟨earlier, first, later, split, triggered, held⟩
    rcases List.eq_nil_or_concat later with rfl | ⟨init, last, rfl⟩
    · obtain ⟨-, same⟩ := List.append_inj' split rfl
      simp only [List.cons.injEq, and_true] at same
      exact .inl (same ▸ triggered)
    · rw [List.concat_eq_append, ← List.cons_append, ← List.append_assoc] at split
      obtain ⟨rest, same⟩ := List.append_inj' split rfl
      simp only [List.cons.injEq, and_true] at same
      subst same
      refine .inr ⟨held _ (by simp), earlier, first, init, rest, triggered, ?_⟩
      intro e member
      exact held e (by simp [member])
  · rintro (triggered | ⟨held, earlier, first, later, rfl, triggered, heldLater⟩)
    · exact ⟨history, entry, [], rfl, triggered, by simp⟩
    · refine ⟨earlier, first, later ++ [entry], by simp, triggered, ?_⟩
      intro e member
      rcases List.mem_append.mp member with old | new
      · exact heldLater e old
      · rwa [List.mem_singleton.mp new]

end Tb20e.Theory
