/-
# Theory.Outline -- what a call of several sections comes to

A thread runs a call section by section, and other threads run in between.  A *summary* of
the state says as much of it as the call depends on: each section has a list of outcomes
on summaries, and a step of another thread keeps every summary.  `Leads` is a computation
on summaries alone, decidable when the summaries are; `Outlined` ties it to the state, and
its three rules are those of a proof outline: interference keeps it, a section moves it on,
and at the end of the call it gives the postcondition.
-/
import Mathlib.Data.Fintype.Basic

namespace Tb20e.Theory

set_option autoImplicit false

section Leads

variable {S α : Type*} (outcomes : S → α → List α) (safe : S → α → Prop) (Q : α → Prop)

/-- The sections left lead to `Q` whatever their outcomes, and each runs where it is safe. -/
def Leads : List S → α → Prop
  | [], a => Q a
  | sec :: rest, a => safe sec a ∧ ∀ b ∈ outcomes sec a, Leads rest b

instance decidableLeads [∀ sec, DecidablePred (safe sec)] [DecidablePred Q] (left : List S) :
    DecidablePred (Leads outcomes safe Q left) := by
  intro a
  induction left generalizing a with
  | nil => exact inferInstanceAs (Decidable (Q a))
  | cons sec rest ih =>
      exact inferInstanceAs (Decidable (safe sec a ∧ ∀ b ∈ outcomes sec a, Leads outcomes safe Q rest b))

end Leads

section Outlined

variable {S α σ : Type*} {outcomes : S → α → List α} {safe : S → α → Prop} {Q : α → Prop}
  {Describes : α → σ → Prop}

/-- Some summary of the state leads to `Q` over the sections left. -/
def Outlined (outcomes : S → α → List α) (safe : S → α → Prop) (Q : α → Prop)
    (Describes : α → σ → Prop) (left : List S) (s : σ) : Prop :=
  ∃ a, Describes a s ∧ Leads outcomes safe Q left a

/-- **Interference**: a step that every summary survives keeps the outline. -/
theorem Outlined.interfere {left : List S} {s t : σ}
    (survives : ∀ a, Describes a s → Describes a t)
    (outlined : Outlined outcomes safe Q Describes left s) :
    Outlined outcomes safe Q Describes left t := by
  obtain ⟨a, describes, leads⟩ := outlined
  exact ⟨a, survives a describes, leads⟩

/-- **A section**: one of its outcomes describes the state after it. -/
theorem Outlined.advance {sec : S} {rest : List S} {s t : σ}
    (comes : ∀ a, Describes a s → ∃ b ∈ outcomes sec a, Describes b t)
    (outlined : Outlined outcomes safe Q Describes (sec :: rest) s) :
    Outlined outcomes safe Q Describes rest t := by
  obtain ⟨a, describes, -, leads⟩ := outlined
  obtain ⟨b, member, after⟩ := comes a describes
  exact ⟨b, after, leads b member⟩

/-- A section runs where it is safe. -/
theorem Outlined.isSafe {sec : S} {rest : List S} {s : σ}
    (outlined : Outlined outcomes safe Q Describes (sec :: rest) s) :
    ∃ a, Describes a s ∧ safe sec a := by
  obtain ⟨a, describes, isSafe, -⟩ := outlined
  exact ⟨a, describes, isSafe⟩

/-- **The end of the call.** -/
theorem Outlined.finish {s : σ} (outlined : Outlined outcomes safe Q Describes [] s) :
    ∃ a, Describes a s ∧ Q a := outlined

end Outlined

end Tb20e.Theory
