/-
# Theory.Remainder -- the remainder of nearest-even division

`remainder x y` subtracts from `x` the multiple of `y` nearest to it, and the
even multiple when two are equally near.  Three facts carry its use as an
angular distance:

* `abs_remainder_le`: it lies in the half-period around zero;
* `abs_remainder_le_abs_add`: no representative of `x` modulo `y` is nearer to
  zero, so in particular a remainder never exceeds the difference it came from;
* `remainder_add_int_mul_eq`: `x` and its remainder differ by a multiple of `y`.

From these: what is nearer to zero than half a period is its own remainder
(`remainder_add_int_mul_of_lt`), a remainder is its own (`remainder_remainder`), the
distance satisfies the triangle inequality (`abs_remainder_sub_le`), and points a whole
number of periods apart have the same remainder unless it is half a period
(`remainder_congr`).

Nothing here is about angles: `K` is any ordered field with a floor.
-/
import Mathlib.Algebra.Order.Floor.Ring
import Mathlib.Algebra.Order.Field.Basic
import Mathlib.Algebra.Ring.Parity
import Mathlib.Tactic.Linarith
import Mathlib.Tactic.FieldSimp
import Mathlib.Tactic.Ring

namespace Tb20e.Theory

set_option autoImplicit false

variable {K : Type*} [Field K] [LinearOrder K] [IsStrictOrderedRing K] [FloorRing K]

/-- The integer nearest to `x`; of two equally near, the even one. -/
def roundTiesEven (x : K) : ℤ :=
  if Int.fract x < 1 / 2 then ⌊x⌋
  else if 1 / 2 < Int.fract x then ⌊x⌋ + 1
  else if Even ⌊x⌋ then ⌊x⌋
  else ⌊x⌋ + 1

/-- `x` less the multiple of `y` nearest to it. -/
def remainder (x y : K) : K := x - roundTiesEven (x / y) * y

theorem abs_sub_roundTiesEven_le (x : K) : |x - roundTiesEven x| ≤ 1 / 2 := by
  have nonneg := Int.fract_nonneg x
  have below := Int.fract_lt_one x
  have split : x = ⌊x⌋ + Int.fract x := (Int.floor_add_fract x).symm
  unfold roundTiesEven
  rw [abs_le]
  split_ifs <;> push_cast <;> constructor <;> linarith

omit [IsStrictOrderedRing K] in
theorem remainder_eq_mul {y : K} (pos : 0 < y) (x : K) :
    remainder x y = (x / y - roundTiesEven (x / y)) * y := by
  unfold remainder
  field_simp

/-- A remainder lies within half a period of zero. -/
theorem abs_remainder_le {y : K} (pos : 0 < y) (x : K) : |remainder x y| ≤ y / 2 := by
  rw [remainder_eq_mul pos, abs_mul, abs_of_pos pos]
  calc |x / y - roundTiesEven (x / y)| * y ≤ 1 / 2 * y :=
        mul_le_mul_of_nonneg_right (abs_sub_roundTiesEven_le _) pos.le
    _ = y / 2 := by ring

omit [IsStrictOrderedRing K] in
theorem remainder_add_int_mul_eq (x y : K) : ∃ n : ℤ, x = remainder x y + n * y :=
  ⟨roundTiesEven (x / y), by unfold remainder; ring⟩

/-- **The remainder is the nearest representative**: moving `x` by any whole
number of periods gives nothing nearer to zero. -/
theorem abs_remainder_le_abs_add {y : K} (pos : 0 < y) (x : K) (n : ℤ) :
    |remainder x y| ≤ |x + n * y| := by
  obtain ⟨m, hm⟩ := remainder_add_int_mul_eq x y
  have half := abs_remainder_le pos x
  have moved : x + n * y = remainder x y + (m + n : ℤ) * y := by
    rw [Int.cast_add, add_mul, ← add_assoc, ← hm]
  rw [moved]
  by_cases same : m + n = 0
  · simp [same]
  · have far : y ≤ |((m + n : ℤ) : K) * y| := by
      have one : (1 : K) ≤ |((m + n : ℤ) : K)| := by
        exact_mod_cast Int.one_le_abs same
      rw [abs_mul, abs_of_pos pos]
      nlinarith
    have apart := abs_sub_abs_le_abs_sub (((m + n : ℤ) : K) * y) (-remainder x y)
    rw [abs_neg, sub_neg_eq_add, add_comm (((m + n : ℤ) : K) * y)] at apart
    linarith

/-- Subtracting a point from the remainder of a moved point, and taking the
remainder again, gives at most the move. -/
theorem abs_remainder_remainder_add_sub_le {y : K} (pos : 0 < y) (x move : K) :
    |remainder (remainder (x + move) y - x) y| ≤ |move| := by
  obtain ⟨n, hn⟩ := remainder_add_int_mul_eq (x + move) y
  have back : remainder (x + move) y - x + n * y = move := by linarith
  calc |remainder (remainder (x + move) y - x) y|
      ≤ |remainder (x + move) y - x + n * y| := abs_remainder_le_abs_add pos _ n
    _ = |move| := by rw [back]

omit [FloorRing K] in
/-- Two points less than a period apart that differ by whole periods are equal. -/
theorem eq_of_eq_add_int_mul {y a b : K} {n : ℤ} (apart : a = b + n * y) (near : |a - b| < y) :
    a = b := by
  have pos : 0 < y := (abs_nonneg _).trans_lt near
  have small : |(n : K)| < 1 := by
    rw [apart, add_sub_cancel_left, abs_mul, abs_of_pos pos] at near
    exact lt_of_mul_lt_mul_right (near.trans_eq (one_mul y).symm) pos.le
  have zero : n = 0 := Int.abs_lt_one_iff.mp (by exact_mod_cast small)
  simp [apart, zero]

/-- What lies within half a period of zero is the remainder of every point a
whole number of periods away from it. -/
theorem remainder_add_int_mul_of_lt {y x : K} (near : |x| < y / 2) (n : ℤ) :
    remainder (x + n * y) y = x := by
  have pos : 0 < y := by linarith [abs_nonneg x]
  obtain ⟨m, split⟩ := remainder_add_int_mul_eq (x + n * y) y
  have half := abs_remainder_le pos (x + n * y)
  refine eq_of_eq_add_int_mul (n := n - m) (y := y) (by push_cast; linarith) ?_
  calc |remainder (x + n * y) y - x| ≤ |remainder (x + n * y) y| + |x| := abs_sub _ _
    _ < y := by linarith

theorem roundTiesEven_eq_zero {x : K} (near : |x| ≤ 1 / 2) : roundTiesEven x = 0 := by
  obtain ⟨low, high⟩ := abs_le.mp near
  rcases lt_or_ge x 0 with negative | nonneg
  · have floor : ⌊x⌋ = -1 := Int.floor_eq_iff.mpr ⟨by push_cast; linarith, by push_cast; linarith⟩
    have above : 1 / 2 ≤ Int.fract x := by
      rw [Int.fract, floor]
      push_cast
      linarith
    rw [roundTiesEven, if_neg (not_lt.mpr above)]
    simp [floor]
  · have floor : ⌊x⌋ = 0 := Int.floor_eq_iff.mpr ⟨by simpa using nonneg, by push_cast; linarith⟩
    have below : Int.fract x ≤ 1 / 2 := by
      rw [Int.fract, floor]
      push_cast
      linarith
    rw [roundTiesEven, if_neg (not_lt.mpr below)]
    simp [floor]

/-- Taking the remainder again changes nothing, half a period included. -/
theorem remainder_remainder {y : K} (pos : 0 < y) (x : K) :
    remainder (remainder x y) y = remainder x y := by
  have near : |remainder x y / y| ≤ 1 / 2 := by
    rw [abs_div, abs_of_pos pos, div_le_iff₀ pos]
    linarith [abs_remainder_le pos x]
  conv_lhs => rw [remainder, roundTiesEven_eq_zero near]
  simp

/-- **The triangle inequality** of the distance modulo `y`. -/
theorem abs_remainder_sub_le {y : K} (pos : 0 < y) (a b c : K) :
    |remainder (a - c) y| ≤ |remainder (a - b) y| + |remainder (b - c) y| := by
  obtain ⟨m, first⟩ := remainder_add_int_mul_eq (a - b) y
  obtain ⟨n, second⟩ := remainder_add_int_mul_eq (b - c) y
  have whole : a - c + (-(m + n) : ℤ) * y = remainder (a - b) y + remainder (b - c) y := by
    push_cast
    linarith
  calc |remainder (a - c) y| ≤ |a - c + (-(m + n) : ℤ) * y| := abs_remainder_le_abs_add pos _ _
    _ = |remainder (a - b) y + remainder (b - c) y| := by rw [whole]
    _ ≤ |remainder (a - b) y| + |remainder (b - c) y| := abs_add_le _ _

/-- Points a whole number of periods apart have remainders that are, which are
equal unless the remainder is half a period. -/
theorem remainder_congr {y : K} (pos : 0 < y) {a b : K} {n : ℤ} (apart : a = b + n * y) :
    (∃ k : ℤ, remainder a y = remainder b y + k * y) ∧
      (|remainder b y| ≠ y / 2 → remainder a y = remainder b y) := by
  obtain ⟨i, splitA⟩ := remainder_add_int_mul_eq a y
  obtain ⟨j, splitB⟩ := remainder_add_int_mul_eq b y
  have differ : remainder a y = remainder b y + (n + j - i : ℤ) * y := by
    push_cast
    linarith
  refine ⟨⟨n + j - i, differ⟩, ?_⟩
  intro notHalf
  have halfA := abs_remainder_le pos a
  have halfB := lt_of_le_of_ne (abs_remainder_le pos b) notHalf
  refine eq_of_eq_add_int_mul differ ?_
  calc |remainder a y - remainder b y| ≤ |remainder a y| + |remainder b y| := abs_sub _ _
    _ < y := by linarith

end Tb20e.Theory
