/-
# Theory.Runs -- runs of a partial step function, and invariants over them

A system is a step function `σ → ι → Option σ`; `none` is a step that the state
does not allow.  `runs step s l` takes the labels of `l` in order.  Every
statement about "every run" in this development is about `runs`, and every
proof of one goes through `runs_invariant` or `runs_invariant_on`: a property
that one step keeps is kept by a whole run.
-/
import Mathlib.Data.List.Forall2
import Mathlib.Tactic.Common

namespace Tb20e.Theory

set_option autoImplicit false

variable {σ ι : Type*}

/-- The state after taking the labels of a list in order, if each is allowed. -/
def runs (step : σ → ι → Option σ) : σ → List ι → Option σ
  | s, [] => some s
  | s, label :: rest => (step s label).bind fun s' => runs step s' rest

variable {step : σ → ι → Option σ}

@[simp] theorem runs_nil (s : σ) : runs step s [] = some s := rfl

theorem runs_cons_eq_some {s t : σ} {label : ι} {rest : List ι} :
    runs step s (label :: rest) = some t ↔
      ∃ s', step s label = some s' ∧ runs step s' rest = some t := by
  simp only [runs, Option.bind_eq_some_iff]

theorem runs_singleton {s : σ} {label : ι} : runs step s [label] = step s label := by
  cases h : step s label <;> simp [runs, h]

theorem runs_append (s : σ) (first second : List ι) :
    runs step s (first ++ second) = (runs step s first).bind fun s' => runs step s' second := by
  induction first generalizing s with
  | nil => rfl
  | cons label rest ih =>
      simp only [List.cons_append, runs]
      cases step s label with
      | none => rfl
      | some s' => exact ih s'

theorem runs_append_eq_some {s t : σ} {first second : List ι} :
    runs step s (first ++ second) = some t ↔
      ∃ s', runs step s first = some s' ∧ runs step s' second = some t := by
  rw [runs_append, Option.bind_eq_some_iff]

/-- A property that steps with an admitted label keep is kept by runs of
admitted labels. -/
theorem runs_invariant_on {I : σ → Prop} (admitted : ι → Prop)
    (preserved : ∀ s label s', admitted label → I s → step s label = some s' → I s')
    {s t : σ} {labels : List ι} (all : ∀ label ∈ labels, admitted label)
    (run : runs step s labels = some t) (start : I s) : I t := by
  induction labels generalizing s with
  | nil => cases run; exact start
  | cons label rest ih =>
      obtain ⟨s', first, later⟩ := runs_cons_eq_some.mp run
      exact ih (fun l member => all l (List.mem_cons_of_mem _ member)) later
        (preserved s label s' (all label List.mem_cons_self) start first)

/-- **The induction every run lemma uses**: what one step keeps, a run keeps. -/
theorem runs_invariant {I : σ → Prop}
    (preserved : ∀ s label s', I s → step s label = some s' → I s')
    {s t : σ} {labels : List ι} (run : runs step s labels = some t) (start : I s) : I t :=
  runs_invariant_on (fun _ => True) (fun s label s' _ => preserved s label s')
    (fun _ _ => trivial) run start

/-- **The induction for a stage**: `I` holds until a marked step, which leads to `J`, and `J`
holds from there on. -/
theorem runs_reaches {I J : σ → Prop} (admitted marked : ι → Prop)
    (before : ∀ s label s', admitted label → I s → step s label = some s' → I s')
    (mark : ∀ s label s', marked label → I s → step s label = some s' → J s')
    (after : ∀ s label s', admitted label → J s → step s label = some s' → J s')
    {s t : σ} {labels : List ι} (all : ∀ label ∈ labels, admitted label)
    (occurs : ∃ label ∈ labels, marked label) (run : runs step s labels = some t)
    (start : I s) : J t := by
  obtain ⟨label, member, isMarked⟩ := occurs
  obtain ⟨first, second, rfl⟩ := List.append_of_mem member
  obtain ⟨s₁, run₁, rest⟩ := runs_append_eq_some.mp run
  obtain ⟨s₂, taken, run₂⟩ := runs_cons_eq_some.mp rest
  have upTo : I s₁ := runs_invariant_on admitted before
    (fun l earlier => all l (List.mem_append_left _ earlier)) run₁ start
  exact runs_invariant_on admitted after
    (fun l later => all l (List.mem_append_right _ (List.mem_cons_of_mem _ later))) run₂
    (mark s₁ label s₂ isMarked upTo taken)

/-- A run whose steps another system also takes is a run of that system. -/
theorem runs_mono {wider : σ → ι → Option σ}
    (included : ∀ s label s', step s label = some s' → wider s label = some s')
    {s t : σ} {labels : List ι} (run : runs step s labels = some t) :
    runs wider s labels = some t := by
  induction labels generalizing s with
  | nil => exact run
  | cons label rest ih =>
      obtain ⟨s', first, later⟩ := runs_cons_eq_some.mp run
      exact runs_cons_eq_some.mpr ⟨s', included s label s' first, ih later⟩

/-- The induction for a property that also speaks of the labels taken so far. -/
theorem runs_history_invariant {I : List ι → σ → Prop}
    (preserved : ∀ past s label s', I past s → step s label = some s' →
      I (past ++ [label]) s')
    (past : List ι) {s t : σ} {labels : List ι} (run : runs step s labels = some t)
    (start : I past s) :
    I (past ++ labels) t := by
  induction labels generalizing s past with
  | nil => cases run; simpa using start
  | cons label rest ih =>
      obtain ⟨s', first, later⟩ := runs_cons_eq_some.mp run
      simpa using ih (past ++ [label]) later (preserved past s label s' start first)

/-- The induction along one run, whose step may look at the labels of the whole run and at
the run so far. -/
theorem runs_prefix_invariant {I : List ι → σ → Prop} {s t : σ} {labels : List ι}
    (preserved : ∀ past label rest s₁ s₂, labels = past ++ label :: rest →
      runs step s past = some s₁ → I past s₁ → step s₁ label = some s₂ → I (past ++ [label]) s₂)
    (run : runs step s labels = some t) (start : I [] s) : I labels t := by
  have kept := runs_history_invariant
    (I := fun past t => runs step s past = some t ∧ (past <+: labels → I past t))
    (fun past s₁ label s₂ ⟨upTo, holds⟩ taken => by
      refine ⟨runs_append_eq_some.mpr ⟨s₁, upTo, runs_singleton.trans taken⟩, fun prefixed => ?_⟩
      obtain ⟨rest, split⟩ := id prefixed
      exact preserved past label rest s₁ s₂ (by simp [← split]) upTo
        (holds ((List.prefix_append past [label]).trans prefixed)) taken)
    [] run ⟨rfl, fun _ => start⟩
  exact kept.2 List.prefix_rfl

/-- The states that a run comes to, one for each label it takes. -/
def trace (step : σ → ι → Option σ) : σ → List ι → List σ
  | _, [] => []
  | s, label :: rest =>
      match step s label with
      | none => []
      | some s' => s' :: trace step s' rest

theorem trace_cons {s s' : σ} {label : ι} {rest : List ι} (taken : step s label = some s') :
    trace step s (label :: rest) = s' :: trace step s' rest := by
  simp only [trace, taken]

theorem trace_cons_of_none {s : σ} {label : ι} {rest : List ι} (refused : step s label = none) :
    trace step s (label :: rest) = [] := by
  simp only [trace, refused]

/-- **The induction for two runs**: a relation that a pair of steps with related
labels keeps, if the two states they come to meet a side condition, is kept all along
two runs that meet it. -/
theorem trace_forall₂ {τ κ : Type*} {other : τ → κ → Option τ} {R side : σ → τ → Prop}
    {alike : ι → κ → Prop}
    (preserved : ∀ s t l k s' t', R s t → alike l k → step s l = some s' → other t k = some t' →
      side s' t' → R s' t')
    {s : σ} {t : τ} {labels : List ι} {labels' : List κ} (related : List.Forall₂ alike labels labels')
    (meets : List.Forall₂ side (trace step s labels) (trace other t labels')) (start : R s t) :
    List.Forall₂ R (trace step s labels) (trace other t labels') := by
  induction related generalizing s t with
  | nil => exact .nil
  | @cons l k rest rest' same _ ih =>
      cases first : step s l with
      | none =>
          rw [trace_cons_of_none first] at meets ⊢
          rw [List.forall₂_nil_left_iff.mp meets]
          exact .nil
      | some s' =>
          rw [trace_cons first] at meets ⊢
          cases second : other t k with
          | none =>
              rw [trace_cons_of_none second] at meets
              cases meets
          | some t' =>
              rw [trace_cons second] at meets ⊢
              obtain ⟨met, later⟩ := List.forall₂_cons.mp meets
              have next := preserved s t l k s' t' start same first second met
              exact .cons next (ih later next)

/-! ## A part of a composed system -/

/-- What the steps of a run are for one part of the system, which may take none or
several of its own for one of the whole. -/
def partLabels {κ : Type*} (step : σ → ι → Option σ) (meaning : σ → ι → List κ) :
    σ → List ι → List κ
  | _, [] => []
  | s, label :: rest =>
      match step s label with
      | none => []
      | some s' => meaning s label ++ partLabels step meaning s' rest

/-- **A composed system runs each of its parts**: if every step of the whole is a run of
the part, then so is every run of the whole. -/
theorem runs_part {τ κ : Type*} {part : τ → κ → Option τ} {view : σ → τ}
    {meaning : σ → ι → List κ}
    (simulated : ∀ s label s', step s label = some s' →
      runs part (view s) (meaning s label) = some (view s'))
    {s t : σ} {labels : List ι} (run : runs step s labels = some t) :
    runs part (view s) (partLabels step meaning s labels) = some (view t) := by
  induction labels generalizing s with
  | nil => cases run; rfl
  | cons label rest ih =>
      obtain ⟨s', first, later⟩ := runs_cons_eq_some.mp run
      simp only [partLabels, first]
      exact runs_append_eq_some.mpr ⟨view s', simulated s label s' first, ih later⟩

end Tb20e.Theory
