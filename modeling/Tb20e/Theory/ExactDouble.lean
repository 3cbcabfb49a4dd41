/-
# Theory.ExactDouble -- doubles in exact arithmetic

A `Double` is a rational, an infinity or the not-a-number.  Operations on
rationals are exact: nothing rounds, overflows or has a signed zero.  On the
other values they follow IEEE 754, comparisons with `nan` being false, so a
program that guards its inputs with `isFinite` takes the same branches here as
in the machine and one that forgets to does not.

The simp set rewrites every operation on finite operands to the operation on
rationals.  What is left of an expression after `simp` is therefore either a
rational fact or a case where a value is not finite.
-/
import Mathlib.Algebra.Order.Group.MinMax
import Mathlib.Data.Rat.Floor
import Tb20e.Theory.Remainder

namespace Tb20e.Theory

set_option autoImplicit false

/-- A double whose finite values are exact. -/
inductive Double where
  | finite (value : ℚ)
  | inf (negative : Bool)
  | nan
  deriving DecidableEq, Repr

/-- `std::clamp`, for any order: the lower bound is looked at first. -/
def clamp {α : Type*} [LT α] [DecidableLT α] (value lower upper : α) : α :=
  if value < lower then lower else if upper < value then upper else value

/-- `std::max`: the first argument unless it is smaller. -/
def stdMax {α : Type*} [LT α] [DecidableLT α] (first second : α) : α :=
  if first < second then second else first

namespace Double

instance : Coe ℚ Double := ⟨finite⟩
instance : Zero Double := ⟨finite 0⟩
instance : One Double := ⟨finite 1⟩
instance : Inhabited Double := ⟨0⟩

/-- `std::isfinite`. -/
def isFinite : Double → Bool
  | finite _ => true
  | _ => false

def neg : Double → Double
  | finite x => finite (-x)
  | inf negative => inf !negative
  | nan => nan

def add : Double → Double → Double
  | finite x, finite y => finite (x + y)
  | finite _, inf negative => inf negative
  | inf negative, finite _ => inf negative
  | inf s, inf t => if s = t then inf s else nan
  | _, _ => nan

/-- Whether a value is below zero; `nan` is not. -/
def isNegative : Double → Bool
  | finite x => x < 0
  | inf negative => negative
  | nan => false

def mul : Double → Double → Double
  | finite x, finite y => finite (x * y)
  | nan, _ => nan
  | _, nan => nan
  | x, y => if x = finite 0 ∨ y = finite 0 then nan else inf (x.isNegative != y.isNegative)

/-- Division; there being one zero, a quotient by zero has its dividend's sign. -/
def div : Double → Double → Double
  | finite x, finite y =>
      if y ≠ 0 then finite (x / y) else if x = 0 then nan else inf (decide (x < 0))
  | finite _, inf _ => finite 0
  | inf s, finite y => inf (s != decide (y < 0))
  | _, _ => nan

def lt : Double → Double → Bool
  | finite x, finite y => x < y
  | finite _, inf negative => !negative
  | inf negative, finite _ => negative
  | inf s, inf t => s && !t
  | _, _ => false

def le : Double → Double → Bool
  | finite x, finite y => x ≤ y
  | finite _, inf negative => !negative
  | inf negative, finite _ => negative
  | inf s, inf t => s || !t
  | _, _ => false

instance : Neg Double := ⟨neg⟩
instance : Add Double := ⟨add⟩
instance : Sub Double := ⟨fun x y => x + -y⟩
instance : Mul Double := ⟨mul⟩
instance : Div Double := ⟨div⟩
instance : LT Double := ⟨fun x y => lt x y = true⟩
instance : LE Double := ⟨fun x y => le x y = true⟩
instance : DecidableLT Double := fun x y => inferInstanceAs (Decidable (lt x y = true))
instance : DecidableLE Double := fun x y => inferInstanceAs (Decidable (le x y = true))

/-- `std::abs`. -/
def abs : Double → Double
  | finite x => finite |x|
  | inf _ => inf false
  | nan => nan

/-- `std::copysign`: the first argument's magnitude with the second's sign. -/
def copysign (magnitude sign : Double) : Double :=
  if sign.isNegative then -magnitude.abs else magnitude.abs

/-- `std::remainder`. -/
def remainder : Double → Double → Double
  | finite x, finite y => if y = 0 then nan else finite (Theory.remainder x y)
  | finite x, inf _ => finite x
  | _, _ => nan

/-! ## Finite operands -/

@[simp] theorem zero_eq : (0 : Double) = finite 0 := rfl
@[simp] theorem one_eq : (1 : Double) = finite 1 := rfl
@[simp] theorem isFinite_finite (x : ℚ) : (finite x).isFinite = true := rfl
@[simp] theorem isFinite_inf (s : Bool) : (inf s).isFinite = false := rfl
@[simp] theorem isFinite_nan : nan.isFinite = false := rfl
@[simp] theorem neg_finite (x : ℚ) : -finite x = finite (-x) := rfl
@[simp] theorem add_finite (x y : ℚ) : finite x + finite y = finite (x + y) := rfl
@[simp] theorem mul_finite (x y : ℚ) : finite x * finite y = finite (x * y) := rfl
@[simp] theorem abs_finite (x : ℚ) : (finite x).abs = finite |x| := rfl
@[simp] theorem finite_lt_finite (x y : ℚ) : finite x < finite y ↔ x < y := decide_eq_true_iff
@[simp] theorem finite_le_finite (x y : ℚ) : finite x ≤ finite y ↔ x ≤ y := decide_eq_true_iff
@[simp] theorem isNegative_finite (x : ℚ) : (finite x).isNegative = decide (x < 0) := rfl

@[simp] theorem sub_finite (x y : ℚ) : finite x - finite y = finite (x - y) := by
  change finite (x + -y) = _
  rw [sub_eq_add_neg]

theorem div_finite (x : ℚ) {y : ℚ} (nonzero : y ≠ 0) : finite x / finite y = finite (x / y) :=
  if_pos nonzero

theorem remainder_finite (x : ℚ) {y : ℚ} (nonzero : y ≠ 0) :
    remainder (finite x) (finite y) = finite (Theory.remainder x y) :=
  if_neg nonzero

@[simp] theorem clamp_finite (x lower upper : ℚ) :
    clamp (finite x) (finite lower) (finite upper) = finite (clamp x lower upper) := by
  unfold clamp
  simp only [finite_lt_finite, apply_ite finite]

@[simp] theorem stdMax_finite (x y : ℚ) : stdMax (finite x) (finite y) = finite (stdMax x y) := by
  unfold stdMax
  simp only [finite_lt_finite, apply_ite finite]

theorem isFinite_iff {x : Double} : x.isFinite = true ↔ ∃ q : ℚ, x = finite q := by
  cases x <;> simp

/-- A positive double is a positive rational or the positive infinity. -/
theorem pos_cases {x : Double} (pos : (0 : Double) < x) :
    (∃ q : ℚ, x = finite q ∧ 0 < q) ∨ x = inf false := by
  cases x with
  | finite q => exact .inl ⟨q, rfl, (finite_lt_finite _ _).mp pos⟩
  | inf negative =>
      cases negative with
      | false => exact .inr rfl
      | true => cases pos
  | nan => cases pos

/-- What is at most a rational is a rational or the negative infinity. -/
theorem le_finite_cases {x : Double} {q : ℚ} (below : x ≤ finite q) :
    x = inf true ∨ ∃ p : ℚ, x = finite p ∧ p ≤ q := by
  cases x with
  | finite p => exact .inr ⟨p, rfl, (finite_le_finite _ _).mp below⟩
  | inf negative =>
      cases negative with
      | true => exact .inl rfl
      | false => cases below
  | nan => cases below

/-- What is at least a rational is a rational or the positive infinity. -/
theorem finite_le_cases {x : Double} {q : ℚ} (above : finite q ≤ x) :
    x = inf false ∨ ∃ p : ℚ, x = finite p ∧ q ≤ p := by
  cases x with
  | finite p => exact .inr ⟨p, rfl, (finite_le_finite _ _).mp above⟩
  | inf negative =>
      cases negative with
      | true => cases above
      | false => exact .inl rfl
  | nan => cases above

theorem not_lt_negInf (q : ℚ) : ¬ finite q < inf true := fun impossible => by cases impossible

theorem not_posInf_lt (q : ℚ) : ¬ inf false < finite q := fun impossible => by cases impossible

end Double

/-! ## Clamping rationals -/

theorem clamp_eq_max_min {lower upper : ℚ} (ordered : lower ≤ upper) (x : ℚ) :
    clamp x lower upper = max lower (min x upper) := by
  unfold clamp
  split_ifs with below above
  · rw [max_eq_left ((min_le_left _ _).trans below.le)]
  · rw [min_eq_right above.le, max_eq_right ordered]
  · rw [min_eq_left (not_lt.mp above), max_eq_right (not_lt.mp below)]

theorem le_clamp {lower upper : ℚ} (ordered : lower ≤ upper) (x : ℚ) :
    lower ≤ clamp x lower upper := by
  rw [clamp_eq_max_min ordered]
  exact le_max_left _ _

theorem clamp_le {lower upper : ℚ} (ordered : lower ≤ upper) (x : ℚ) :
    clamp x lower upper ≤ upper := by
  rw [clamp_eq_max_min ordered]
  exact max_le ordered (min_le_right _ _)

theorem clamp_eq_self {x lower upper : ℚ} (above : lower ≤ x) (below : x ≤ upper) :
    clamp x lower upper = x := by
  unfold clamp
  rw [if_neg (not_lt.mpr above), if_neg (not_lt.mpr below)]

theorem clamp_neg {bound : ℚ} (nonneg : 0 ≤ bound) (x : ℚ) :
    clamp (-x) (-bound) bound = -clamp x (-bound) bound := by
  unfold clamp
  split_ifs <;> linarith

/-- Clamping brings two values no further apart. -/
theorem abs_clamp_sub_clamp_le {lower upper : ℚ} (ordered : lower ≤ upper) (x y : ℚ) :
    |clamp x lower upper - clamp y lower upper| ≤ |x - y| := by
  rw [clamp_eq_max_min ordered, clamp_eq_max_min ordered, max_comm lower, max_comm lower]
  calc |max (min x upper) lower - max (min y upper) lower|
      ≤ |min x upper - min y upper| := abs_max_sub_max_le_abs _ _ _
    _ ≤ |x - y| := by simpa using abs_min_sub_min_le_max x upper y upper

/-- Clamping between two moves in one direction changes nothing. -/
theorem clamp_clamp_add {x lower upper first second : ℚ} (above : lower ≤ x) (below : x ≤ upper)
    (oneWay : (0 ≤ first ∧ 0 ≤ second) ∨ (first ≤ 0 ∧ second ≤ 0)) :
    clamp (clamp (x + first) lower upper + second) lower upper =
      clamp (x + first + second) lower upper := by
  unfold clamp
  rcases oneWay with ⟨up, up'⟩ | ⟨down, down'⟩ <;> split_ifs <;> linarith

/-- The same with bounds that may be infinite. -/
theorem Double.clamp_clamp_add {x first second : ℚ} {lower upper : Double}
    (above : lower ≤ finite x) (below : finite x ≤ upper)
    (oneWay : (0 ≤ first ∧ 0 ≤ second) ∨ (first ≤ 0 ∧ second ≤ 0)) :
    ∃ y : ℚ, clamp (finite (x + first)) lower upper = finite y ∧
      clamp (finite (y + second)) lower upper = clamp (finite (x + first + second)) lower upper := by
  rcases le_finite_cases above with rfl | ⟨l, rfl, above'⟩ <;>
    rcases finite_le_cases below with rfl | ⟨u, rfl, below'⟩
  · exact ⟨x + first, by simp [clamp, not_lt_negInf, not_posInf_lt]⟩
  · simp only [clamp, not_lt_negInf, if_false, finite_lt_finite, ← apply_ite finite,
      finite.injEq, exists_eq_left']
    rcases oneWay with ⟨up, up'⟩ | ⟨down, down'⟩ <;> split_ifs <;> linarith
  · simp only [clamp, not_posInf_lt, if_false, finite_lt_finite, ← apply_ite finite,
      finite.injEq, exists_eq_left']
    rcases oneWay with ⟨up, up'⟩ | ⟨down, down'⟩ <;> split_ifs <;> linarith
  · simp only [clamp_finite, finite.injEq, exists_eq_left']
    exact Theory.clamp_clamp_add above' below' oneWay

/-- A value within its bounds is left alone. -/
theorem Double.clamp_eq_self {x : ℚ} {lower upper : Double} (above : lower ≤ finite x)
    (below : finite x ≤ upper) : clamp (finite x) lower upper = finite x := by
  rcases le_finite_cases above with rfl | ⟨l, rfl, above'⟩ <;>
    rcases finite_le_cases below with rfl | ⟨u, rfl, below'⟩ <;>
    simp [clamp, not_lt_negInf, not_posInf_lt, not_lt.mpr, *]

/-- A finite value clamped to a range around a rational is finite and in the range. -/
theorem Double.exists_clamp_eq {x : ℚ} {lower upper : Double} (above : lower ≤ finite x)
    (below : finite x ≤ upper) (value : ℚ) :
    ∃ y : ℚ, clamp (finite value) lower upper = finite y ∧ lower ≤ finite y ∧ finite y ≤ upper := by
  rcases le_finite_cases above with rfl | ⟨l, rfl, above'⟩ <;>
    rcases finite_le_cases below with rfl | ⟨u, rfl, below'⟩
  · exact ⟨value, by simp [clamp, not_lt_negInf, not_posInf_lt], rfl, rfl⟩
  · simp only [clamp, not_lt_negInf, if_false, finite_lt_finite, ← apply_ite finite,
      finite.injEq, exists_eq_left', finite_le_finite]
    refine ⟨rfl, ?_⟩
    split_ifs <;> linarith
  · simp only [clamp, not_posInf_lt, if_false, finite_lt_finite, ← apply_ite finite,
      finite.injEq, exists_eq_left', finite_le_finite]
    refine ⟨?_, rfl⟩
    split_ifs <;> linarith
  · simp only [clamp_finite, finite.injEq, exists_eq_left', finite_le_finite]
    exact ⟨le_clamp (above'.trans below') value, clamp_le (above'.trans below') value⟩

theorem stdMax_eq_max (x y : ℚ) : stdMax x y = max x y := by
  unfold stdMax
  split_ifs with less
  · exact (max_eq_right less.le).symm
  · exact (max_eq_left (not_lt.mp less)).symm

end Tb20e.Theory
