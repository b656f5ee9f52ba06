/-
  DevAdminToken formalization — Python `float` arithmetic, as the production dashboard
  (`demos/python_client/example_3_production_analytics.py`) uses it.

  A float is a rational number, and an operation on floats rounds its exact result with
  `rnd`, as IEEE 754 binary64 does (so does `int / int`, which CPython rounds correctly).
  The rounding is not fixed: `Rounding` carries the laws the proofs use, which binary64
  round-to-nearest-even has below its overflow threshold `2^1024` (the model has no
  infinities; the dashboard's values stay far below it):
  * `rnd` is monotone and idempotent (its results are floats), and exact on the binary64
    values `m / 2^k` (`|m| ≤ 2^53`, `k ≤ 1074`), the integers up to `2^53` among them;
  * a decimal literal such as `0.1` is `rnd (1/10)`.
  From monotonicity and exactness, a rounded value lies between any two binary64 values
  around the exact one (`rnd_le_of_le`, `le_rnd_of_le`).

  `PyFloat` adds the builtin `sum` of floats, `fsum`.  Before Python 3.12 it adds left to
  right from the `int` `0`, rounding after each `+` (`foldSum`, also the running value of a
  dict entry updated with `d.get(k, 0) + x`; `Rounding.toPyFloat`); from 3.12 on it uses
  Neumaier's compensated summation.  The proofs use only what both give: `sum([]) == 0`,
  `sum([x]) == x`, and a positive sum of nonnegative floats one of which is positive.
  `PyFloat.exact` is exact rational arithmetic.
-/
import Mathlib.Algebra.Order.Field.Rat
import Mathlib.Order.Monotone.Basic
import Mathlib.Tactic.NormNum

namespace DevAdminToken

/-- Rounding of an exact result to a float, with the laws of binary64 rounding. -/
structure Rounding where
  rnd : ℚ → ℚ
  rnd_mono : Monotone rnd
  rnd_rnd : ∀ q, rnd (rnd q) = rnd q
  rnd_dyadic : ∀ (m : ℤ) (k : ℕ), |m| ≤ 2 ^ 53 → k ≤ 1074 → rnd (m / 2 ^ k) = m / 2 ^ k

/-- Float arithmetic with the builtin `sum` of a list of floats. -/
structure PyFloat extends Rounding where
  fsum : List ℚ → ℚ
  fsum_nil : fsum [] = 0
  fsum_singleton : ∀ x, rnd x = x → fsum [x] = x
  fsum_pos : ∀ l, (∀ x ∈ l, rnd x = x ∧ 0 ≤ x) → (∃ x ∈ l, 0 < x) → 0 < fsum l

namespace Rounding

variable (r : Rounding) {q x : ℚ}

theorem rnd_intCast {n : ℤ} (h : |n| ≤ 2 ^ 53) : r.rnd n = n := by
  simpa using r.rnd_dyadic n 0 h (Nat.zero_le _)

@[simp] theorem rnd_zero : r.rnd 0 = 0 := by
  simpa using r.rnd_intCast (n := 0) (by norm_num)

@[simp] theorem rnd_one : r.rnd 1 = 1 := by
  simpa using r.rnd_intCast (n := 1) (by decide)

theorem rnd_ofNat (n : ℕ) [n.AtLeastTwo] (h : n ≤ 2 ^ 53) :
    r.rnd (OfNat.ofNat n) = OfNat.ofNat n := by
  simpa using r.rnd_intCast (n := n) (by rw [Nat.abs_cast]; exact_mod_cast h)

/-- Below a float, the rounded value is below it too. -/
theorem rnd_le_of_le (hq : q ≤ x) (hx : r.rnd x = x) : r.rnd q ≤ x :=
  (r.rnd_mono hq).trans_eq hx

/-- Above a float, the rounded value is above it too. -/
theorem le_rnd_of_le (hq : x ≤ q) (hx : r.rnd x = x) : x ≤ r.rnd q :=
  hx.symm.trans_le (r.rnd_mono hq)

theorem rnd_nonneg (hq : 0 ≤ q) : 0 ≤ r.rnd q :=
  r.le_rnd_of_le hq r.rnd_zero

/-- `x₁ + x₂ + ... + xₙ` from the `int` `0`, rounding after each `+`. -/
def foldSum (l : List ℚ) : ℚ := l.foldl (fun s y => r.rnd (s + y)) 0

@[simp] theorem foldSum_nil : r.foldSum [] = 0 := rfl

@[simp] theorem foldSum_singleton (x : ℚ) : r.foldSum [x] = r.rnd x := by
  simp [foldSum]

@[simp] theorem foldSum_append_singleton (l : List ℚ) (x : ℚ) :
    r.foldSum (l ++ [x]) = r.rnd (r.foldSum l + x) := by
  simp [foldSum, List.foldl_append]

/-- Adding nonnegative numbers to a float never makes it smaller. -/
theorem le_foldl {s : ℚ} (hs : r.rnd s = s) {l : List ℚ} (hl : ∀ y ∈ l, 0 ≤ y) :
    s ≤ l.foldl (fun s y => r.rnd (s + y)) s := by
  induction l generalizing s with
  | nil => exact le_rfl
  | cons y l ih =>
    simp only [List.mem_cons, forall_eq_or_imp] at hl
    exact (r.le_rnd_of_le (le_add_of_nonneg_right hl.1) hs).trans
      (ih (r.rnd_rnd _) hl.2)

theorem foldl_pos {s : ℚ} (hs : r.rnd s = s) (h0 : 0 ≤ s) {l : List ℚ}
    (hl : ∀ y ∈ l, r.rnd y = y ∧ 0 ≤ y) (hpos : ∃ y ∈ l, 0 < y) :
    0 < l.foldl (fun s y => r.rnd (s + y)) s := by
  induction l generalizing s with
  | nil => simp at hpos
  | cons y l ih =>
    simp only [List.mem_cons, forall_eq_or_imp, exists_eq_or_imp] at hl hpos
    have hy : y ≤ r.rnd (s + y) := r.le_rnd_of_le (le_add_of_nonneg_left h0) hl.1.1
    rcases hpos with hy0 | hpos
    · exact (hy0.trans_le hy).trans_le
        (r.le_foldl (r.rnd_rnd _) fun z hz => (hl.2 z hz).2)
    · exact ih (r.rnd_rnd _) (hl.1.2.trans hy) hl.2 hpos

/-- The builtin `sum` before Python 3.12: left to right from `0`. -/
def toPyFloat : PyFloat where
  toRounding := r
  fsum := r.foldSum
  fsum_nil := rfl
  fsum_singleton x hx := by simp [foldSum, hx]
  fsum_pos _ hl hpos := r.foldl_pos r.rnd_zero le_rfl hl hpos

/-- Exact rational arithmetic. -/
def exact : Rounding := ⟨id, monotone_id, fun _ => rfl, fun _ _ _ _ => rfl⟩

end Rounding

/-- Exact rational arithmetic, with `sum` adding left to right. -/
def PyFloat.exact : PyFloat := Rounding.exact.toPyFloat

end DevAdminToken
