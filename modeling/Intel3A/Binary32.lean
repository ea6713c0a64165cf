import Mathlib.Data.Int.Log
import Mathlib.Data.Rat.Floor
import Mathlib.Algebra.Order.Field.Rat
/-!
# Single-precision values

`Intel3AParameter.cpp` computes its frame-time and ISO limits, its manual gain and its
focus distance in `float`.  A finite `float` is a rational, and the result of each
operation is the exact result rounded to the nearest value with a 24-bit significand,
ties to the even one (IEEE 754 binary32, in its default rounding mode).  `round32` is that
rounding.  It keeps the subnormal spacing `2^-149` at the bottom of the range and has no
limit at the top: overflow to infinity is not modelled.

The facts the later modules rest on are that rounding is monotone (`round32_mono`), keeps
every value of the binary32 grid (`round32_intCast_mul_zpow`), and moves a value of the
normal range by at most `2^-24` of its size (`abs_round32_sub_le`).

The binade of a value is computed from its numerator and denominator (`binade`, which
agrees with `Int.log 2` by `binade_eq_log`), so that the rounding of a constant reduces by
evaluation.  A request's `float` may also be NaN; `CFloat` is such a value.
-/

namespace Intel3A

/-! ## Rounding to an integer -/

/-- The nearest integer, ties to the even one. -/
def roundHalfEven (x : ℚ) : ℤ :=
  if x - ⌊x⌋ < 1 / 2 then ⌊x⌋
  else if 1 / 2 < x - ⌊x⌋ then ⌊x⌋ + 1
  else if ⌊x⌋ % 2 = 0 then ⌊x⌋ else ⌊x⌋ + 1

section RoundHalfEven

variable {x y : ℚ}

theorem roundHalfEven_mem (x : ℚ) : roundHalfEven x = ⌊x⌋ ∨ roundHalfEven x = ⌊x⌋ + 1 := by
  unfold roundHalfEven; split_ifs <;> simp

theorem abs_roundHalfEven_sub_le (x : ℚ) : |(roundHalfEven x : ℚ) - x| ≤ 1 / 2 := by
  have hlo := Int.floor_le x
  have hhi := Int.lt_floor_add_one x
  unfold roundHalfEven
  rw [abs_le]
  split_ifs <;> push_cast <;> constructor <;> linarith

theorem roundHalfEven_eq {n : ℤ} (hlo : (n : ℚ) - 1 / 2 < x) (hhi : x < n + 1 / 2) :
    roundHalfEven x = n := by
  have h := abs_roundHalfEven_sub_le x
  rw [abs_le] at h
  have hlt : (roundHalfEven x : ℚ) < n + 1 := by linarith
  have hgt : (n : ℚ) - 1 < roundHalfEven x := by linarith
  exact_mod_cast le_antisymm (Int.lt_add_one_iff.mp (by exact_mod_cast hlt))
    (Int.sub_one_lt_iff.mp (by exact_mod_cast hgt))

@[simp] theorem roundHalfEven_intCast (n : ℤ) : roundHalfEven n = n :=
  roundHalfEven_eq (by linarith) (by linarith)

theorem roundHalfEven_mono (h : x ≤ y) : roundHalfEven x ≤ roundHalfEven y := by
  rcases lt_or_eq_of_le (Int.floor_mono h) with hlt | heq
  · rcases roundHalfEven_mem x with hx | hx <;> rcases roundHalfEven_mem y with hy | hy <;>
      omega
  · unfold roundHalfEven
    rw [heq]
    split_ifs <;> first | omega | (exfalso; linarith)

end RoundHalfEven

/-! ## Rounding onto a grid -/

/-- `q` rounded onto the multiples of `2^e`, ties to the even multiple. -/
def roundTo (e : ℤ) (q : ℚ) : ℚ := roundHalfEven (q / 2 ^ e) * 2 ^ e

section RoundTo

variable {e : ℤ} {x y : ℚ}

theorem roundTo_mono (e : ℤ) (h : x ≤ y) : roundTo e x ≤ roundTo e y := by
  have hpow : (0 : ℚ) < 2 ^ e := zpow_pos two_pos e
  exact mul_le_mul_of_nonneg_right
    (Int.cast_le.mpr (roundHalfEven_mono (div_le_div_of_nonneg_right h hpow.le))) hpow.le

theorem roundTo_intCast_mul (e : ℤ) (k : ℤ) : roundTo e (k * 2 ^ e) = k * 2 ^ e := by
  have hpow : (2 : ℚ) ^ e ≠ 0 := zpow_ne_zero e two_ne_zero
  rw [roundTo, mul_div_cancel_right₀ _ hpow, roundHalfEven_intCast]

theorem roundTo_nonneg (e : ℤ) (h : 0 ≤ x) : 0 ≤ roundTo e x := by
  have h0 := roundTo_intCast_mul e 0
  simp only [Int.cast_zero, zero_mul] at h0
  exact h0 ▸ roundTo_mono e h

theorem abs_roundTo_sub_le (e : ℤ) (x : ℚ) : |roundTo e x - x| ≤ 2 ^ e / 2 := by
  have hpow : (0 : ℚ) < 2 ^ e := zpow_pos two_pos e
  have hsplit : roundTo e x - x = ((roundHalfEven (x / 2 ^ e) : ℚ) - x / 2 ^ e) * 2 ^ e := by
    rw [roundTo, sub_mul, div_mul_cancel₀ _ hpow.ne']
  rw [hsplit, abs_mul, abs_of_pos hpow]
  linarith [mul_le_mul_of_nonneg_right (abs_roundHalfEven_sub_le (x / 2 ^ e)) hpow.le]

/-- A multiple of a power of two at or above the grid's spacing lies on the grid. -/
theorem roundTo_intCast_mul_zpow (m : ℤ) {k : ℤ} (hk : e ≤ k) :
    roundTo e (m * 2 ^ k) = m * 2 ^ k := by
  have hsplit : (m : ℚ) * 2 ^ k = ((m * 2 ^ (k - e).toNat : ℤ) : ℚ) * 2 ^ e := by
    rw [Int.cast_mul, Int.cast_pow, Int.cast_ofNat, ← zpow_natCast,
      Int.toNat_of_nonneg (by omega), mul_assoc, ← zpow_add₀ two_ne_zero, sub_add_cancel]
  rw [hsplit, roundTo_intCast_mul]

theorem roundTo_zpow {k : ℤ} (hk : e ≤ k) : roundTo e (2 ^ k) = 2 ^ k := by
  simpa using roundTo_intCast_mul_zpow 1 hk

end RoundTo

/-! ## Binades -/

theorem log_two_eq {q : ℚ} {k : ℤ} (hlo : (2 : ℚ) ^ k ≤ q) (hhi : q < 2 ^ (k + 1)) :
    Int.log 2 q = k := by
  have hq : 0 < q := lt_of_lt_of_le (zpow_pos two_pos k) hlo
  have hle := (Int.zpow_le_iff_le_log one_lt_two hq).mp (by exact_mod_cast hlo)
  have hlt := (Int.lt_zpow_iff_log_lt one_lt_two hq).mp (by exact_mod_cast hhi)
  omega

/-- `⌊log₂ n⌋` for `1 ≤ n ≤ fuel`, by halving. -/
def natLog2 : ℕ → ℕ → ℕ
  | 0, _ => 0
  | fuel + 1, n => if n < 2 then 0 else natLog2 fuel (n / 2) + 1

/-- The difference of the binades of numerator and denominator, which is the binade of
the quotient or one above it. -/
def binadeEstimate (q : ℚ) : ℤ := natLog2 q.num.toNat q.num.toNat - natLog2 q.den q.den

/-- The binade of a positive rational: the `k` with `2^k ≤ q < 2^(k+1)`. -/
def binade (q : ℚ) : ℤ :=
  if (2 : ℚ) ^ binadeEstimate q ≤ q then binadeEstimate q else binadeEstimate q - 1

theorem natLog2_spec (fuel : ℕ) {n : ℕ} (hn : 1 ≤ n) (hfuel : n ≤ fuel) :
    2 ^ natLog2 fuel n ≤ n ∧ n < 2 ^ (natLog2 fuel n + 1) := by
  induction fuel generalizing n with
  | zero => omega
  | succ fuel ih =>
    rw [natLog2]
    split_ifs with hsmall
    · simp only [pow_zero, zero_add, pow_one]; omega
    · obtain ⟨hlo, hhi⟩ := ih (n := n / 2) (by omega) (by omega)
      rw [pow_succ, pow_succ, pow_succ] at *
      omega

theorem binadeEstimate_spec {q : ℚ} (hq : 0 < q) :
    2 ^ (binadeEstimate q - 1) ≤ q ∧ q < 2 ^ (binadeEstimate q + 1) := by
  have hn : 1 ≤ q.num.toNat := by have := Rat.num_pos.mpr hq; omega
  obtain ⟨hnlo, hnhi⟩ := natLog2_spec q.num.toNat hn le_rfl
  obtain ⟨hdlo, hdhi⟩ := natLog2_spec q.den q.den_pos le_rfl
  have hq' : q = (q.num.toNat : ℚ) / q.den := by
    rw [show ((q.num.toNat : ℕ) : ℚ) = q.num by
      exact_mod_cast Int.toNat_of_nonneg (Rat.num_pos.mpr hq).le, Rat.num_div_den]
  rw [binadeEstimate]
  generalize natLog2 q.num.toNat q.num.toNat = a at hnlo hnhi ⊢
  generalize natLog2 q.den q.den = b at hdlo hdhi ⊢
  rw [hq']
  rw [show (a : ℤ) - b - 1 = (a : ℤ) - (b + 1 : ℕ) by push_cast; ring,
    show (a : ℤ) - b + 1 = (a + 1 : ℕ) - (b : ℤ) by push_cast; ring,
    zpow_sub₀ two_ne_zero, zpow_sub₀ two_ne_zero, zpow_natCast, zpow_natCast, zpow_natCast,
    zpow_natCast]
  have hpos : (0 : ℚ) < 2 ^ b := pow_pos two_pos b
  constructor
  · exact div_le_div₀ (Nat.cast_nonneg _) (by exact_mod_cast hnlo) (by exact_mod_cast q.den_pos)
      (by exact_mod_cast hdhi.le)
  · calc (q.num.toNat : ℚ) / q.den ≤ q.num.toNat / 2 ^ b :=
          div_le_div_of_nonneg_left (Nat.cast_nonneg _) hpos (by exact_mod_cast hdlo)
      _ < 2 ^ (a + 1) / 2 ^ b := div_lt_div_of_pos_right (by exact_mod_cast hnhi) hpos

theorem binade_spec {q : ℚ} (hq : 0 < q) : 2 ^ binade q ≤ q ∧ q < 2 ^ (binade q + 1) := by
  obtain ⟨hlo, hhi⟩ := binadeEstimate_spec hq
  rw [binade]
  split_ifs with h
  · exact ⟨h, hhi⟩
  · exact ⟨hlo, by rw [sub_add_cancel]; exact not_le.mp h⟩

theorem binade_eq_log {q : ℚ} (hq : 0 < q) : binade q = Int.log 2 q :=
  (log_two_eq (binade_spec hq).1 (binade_spec hq).2).symm

/-! ## Binary32 -/

/-- The exponent of the spacing of binary32 values at `q`: `2^(k-23)` in the binade
`[2^k, 2^(k+1))`, and `2^-149` below the normal range. -/
def ulpExponent (q : ℚ) : ℤ := max (binade |q| - 23) (-149)

theorem ulpExponent_of_pos {q : ℚ} (h : 0 < |q|) :
    ulpExponent q = max (Int.log 2 |q| - 23) (-149) := by
  rw [ulpExponent, binade_eq_log h]

/-- `q` rounded to the nearest binary32 value, ties to even; the sign is kept. -/
def round32 (q : ℚ) : ℚ :=
  if q < 0 then -roundTo (ulpExponent q) (-q) else roundTo (ulpExponent q) q

section Round32

variable {x y q : ℚ}

/-- The spacing at a value of the binade `[2^k, 2^(k+1))`. -/
theorem ulpExponent_of_binade {k : ℤ} (hlo : (2 : ℚ) ^ k ≤ |q|) (hhi : |q| < 2 ^ (k + 1)) :
    ulpExponent q = max (k - 23) (-149) := by
  rw [ulpExponent_of_pos ((zpow_pos two_pos k).trans_le hlo), log_two_eq hlo hhi]

theorem ulpExponent_neg (q : ℚ) : ulpExponent (-q) = ulpExponent q := by
  rw [ulpExponent, ulpExponent, abs_neg]

theorem round32_of_nonneg (h : 0 ≤ q) : round32 q = roundTo (ulpExponent q) q := by
  rw [round32, if_neg (not_lt.mpr h)]

@[simp] theorem round32_zero : round32 0 = 0 := by
  rw [round32_of_nonneg le_rfl]; simpa using roundTo_intCast_mul (ulpExponent 0) 0

theorem round32_neg (q : ℚ) : round32 (-q) = -round32 q := by
  rcases lt_trichotomy q 0 with hq | rfl | hq
  · rw [round32_of_nonneg (by linarith), round32, if_pos hq, ulpExponent_neg, neg_neg]
  · simp
  · rw [round32, if_pos (by linarith), ulpExponent_neg, neg_neg, round32_of_nonneg hq.le]

theorem round32_nonneg (h : 0 ≤ q) : 0 ≤ round32 q := by
  rw [round32_of_nonneg h]; exact roundTo_nonneg _ h

theorem round32_nonpos (h : q ≤ 0) : round32 q ≤ 0 := by
  have := round32_nonneg (neg_nonneg.mpr h)
  rw [round32_neg] at this
  linarith

theorem round32_mono_of_nonneg (hx : 0 ≤ x) (h : x ≤ y) : round32 x ≤ round32 y := by
  rcases hx.eq_or_lt with rfl | hpos
  · rw [round32_zero]; exact round32_nonneg h
  have hy : 0 ≤ y := hx.trans h
  rw [round32_of_nonneg hx, round32_of_nonneg hy]
  have hlog : Int.log 2 x ≤ Int.log 2 y := Int.log_mono_right hpos h
  have hxe := ulpExponent_of_pos (abs_pos.mpr hpos.ne')
  have hye := ulpExponent_of_pos (abs_pos.mpr (hpos.trans_le h).ne')
  rw [abs_of_nonneg hx] at hxe
  rw [abs_of_nonneg hy] at hye
  have hexp : ulpExponent x ≤ ulpExponent y := by omega
  rcases hexp.eq_or_lt with heq | hlt
  · exact heq ▸ roundTo_mono _ h
  -- Across binades the power of two that starts `y`'s binade separates the two results.
  have hbinade : Int.log 2 x + 1 ≤ Int.log 2 y := by omega
  have hyexp : ulpExponent y = Int.log 2 y - 23 := by omega
  have hxP : x ≤ 2 ^ Int.log 2 y := by
    have hnext : x < (2 : ℚ) ^ (Int.log 2 x + 1) := by
      exact_mod_cast Int.lt_zpow_succ_log_self one_lt_two x
    exact hnext.le.trans (zpow_le_zpow_right₀ one_le_two hbinade)
  have hPy : (2 : ℚ) ^ Int.log 2 y ≤ y := by
    exact_mod_cast Int.zpow_log_le_self one_lt_two (hpos.trans_le h)
  calc roundTo (ulpExponent x) x ≤ roundTo (ulpExponent x) (2 ^ Int.log 2 y) := roundTo_mono _ hxP
    _ = 2 ^ Int.log 2 y := roundTo_zpow (by omega)
    _ = roundTo (ulpExponent y) (2 ^ Int.log 2 y) := (roundTo_zpow (by omega)).symm
    _ ≤ roundTo (ulpExponent y) y := roundTo_mono _ hPy

/-- Rounding to binary32 is monotone. -/
theorem round32_mono (h : x ≤ y) : round32 x ≤ round32 y := by
  rcases le_or_lt 0 x with hx | hx
  · exact round32_mono_of_nonneg hx h
  rcases le_or_lt y 0 with hy | hy
  · have := round32_mono_of_nonneg (neg_nonneg.mpr hy) (neg_le_neg h)
    rw [round32_neg, round32_neg] at this
    linarith
  · exact (round32_nonpos hx.le).trans (round32_nonneg hy.le)

/-- Every value `m · 2^k` with a 24-bit significand `m` and `k ≥ -149` is a binary32 value,
which rounding keeps. -/
theorem round32_intCast_mul_zpow {m k : ℤ} (hm : |m| < 2 ^ 24) (hk : -149 ≤ k) :
    round32 (m * 2 ^ k) = m * 2 ^ k := by
  rcases eq_or_ne m 0 with rfl | hm0
  · simp
  have hpos : 0 < |(m : ℚ) * 2 ^ k| :=
    abs_pos.mpr (mul_ne_zero (Int.cast_ne_zero.mpr hm0) (zpow_ne_zero k two_ne_zero))
  have hbound : |(m : ℚ) * 2 ^ k| < 2 ^ (k + 24) := by
    have hm' : |(m : ℚ)| < 16777216 := by rw [← Int.cast_abs]; norm_num at hm; exact_mod_cast hm
    rw [abs_mul, abs_of_pos (zpow_pos (two_pos : (0 : ℚ) < 2) k),
      zpow_add₀ two_ne_zero, mul_comm]
    norm_num
    exact mul_lt_mul_of_pos_left hm' (zpow_pos two_pos k)
  have hlog := (Int.lt_zpow_iff_log_lt one_lt_two hpos).mp (by exact_mod_cast hbound)
  have he : ulpExponent (m * 2 ^ k) ≤ k := by rw [ulpExponent_of_pos hpos]; omega
  unfold round32
  split_ifs
  · rw [← neg_mul, ← Int.cast_neg, roundTo_intCast_mul_zpow _ he, Int.cast_neg, neg_mul, neg_neg]
  · exact roundTo_intCast_mul_zpow _ he

theorem round32_two_pow (n : ℕ) : round32 (2 ^ n) = 2 ^ n := by
  simpa using @round32_intCast_mul_zpow 1 n (by norm_num) (by omega)

theorem abs_round32_sub_le_half_ulp (q : ℚ) : |round32 q - q| ≤ 2 ^ ulpExponent q / 2 := by
  unfold round32
  split_ifs
  · rw [show -roundTo (ulpExponent q) (-q) - q = -(roundTo (ulpExponent q) (-q) - -q) by ring,
      abs_neg]
    exact abs_roundTo_sub_le _ _
  · exact abs_roundTo_sub_le _ _

/-- In the normal range rounding moves a value by at most `2^-24` of its size. -/
theorem abs_round32_sub_le (h : 2 ^ (-126 : ℤ) ≤ |q|) : |round32 q - q| ≤ |q| / 2 ^ 24 := by
  have hq : 0 < |q| := (zpow_pos two_pos _).trans_le h
  have hlog : -126 ≤ Int.log 2 |q| :=
    (Int.zpow_le_iff_le_log one_lt_two hq).mp (by exact_mod_cast h)
  have he : ulpExponent q = Int.log 2 |q| - 23 := by rw [ulpExponent_of_pos hq]; omega
  have hpow : (2 : ℚ) ^ Int.log 2 |q| ≤ |q| := by
    exact_mod_cast Int.zpow_log_le_self one_lt_two hq
  calc |round32 q - q| ≤ 2 ^ ulpExponent q / 2 := abs_round32_sub_le_half_ulp q
    _ = 2 ^ Int.log 2 |q| / 2 ^ 24 := by
      rw [he, zpow_sub₀ two_ne_zero]; norm_num; ring
    _ ≤ |q| / 2 ^ 24 := div_le_div_of_nonneg_right hpow (by positivity)

/-- A positive value of the normal range, rounded, scaled by `c ≥ 1` and rounded again, is
within `2^-22` of the exact product: two relative errors of `2^-24`, the second one taken on
a value at most `1 + 2^-24` times the exact one. -/
theorem abs_round32_mul_round32_sub_le {c x : ℚ} (hc : 1 ≤ c) (hx : 2 ^ (-126 : ℤ) ≤ x) :
    |round32 (c * round32 x) - c * x| ≤ c * x / 2 ^ 22 := by
  have hx0 : 0 < x := (zpow_pos two_pos _).trans_le hx
  have hmin : round32 (2 ^ (-126 : ℤ)) = 2 ^ (-126 : ℤ) := by
    simpa using @round32_intCast_mul_zpow 1 (-126) (by norm_num) (by norm_num)
  have hr : 2 ^ (-126 : ℤ) ≤ round32 x := hmin ▸ round32_mono hx
  have hr0 : 0 < round32 x := (zpow_pos two_pos _).trans_le hr
  have hcr : 2 ^ (-126 : ℤ) ≤ c * round32 x := hr.trans (le_mul_of_one_le_left hr0.le hc)
  have hcr0 : 0 < c * round32 x := mul_pos (zero_lt_one.trans_le hc) hr0
  have hfirst : |round32 x - x| ≤ x / 2 ^ 24 := by
    have h := @abs_round32_sub_le x (by rw [abs_of_pos hx0]; exact hx)
    rwa [abs_of_pos hx0] at h
  have hsecond : |round32 (c * round32 x) - c * round32 x| ≤ c * round32 x / 2 ^ 24 := by
    have h := @abs_round32_sub_le (c * round32 x) (by rw [abs_of_pos hcr0]; exact hcr)
    rwa [abs_of_pos hcr0] at h
  have hc0 : 0 ≤ c := zero_le_one.trans hc
  have hscaled : c * round32 x ≤ c * (x + x / 2 ^ 24) :=
    mul_le_mul_of_nonneg_left (by linarith [(abs_le.mp hfirst).2]) hc0
  calc |round32 (c * round32 x) - c * x|
      = |(round32 (c * round32 x) - c * round32 x) + c * (round32 x - x)| := by
        congr 1; ring
    _ ≤ |round32 (c * round32 x) - c * round32 x| + c * |round32 x - x| := by
      rw [← abs_of_nonneg hc0, ← abs_mul, abs_of_nonneg hc0]; exact abs_add _ _
    _ ≤ c * round32 x / 2 ^ 24 + c * (x / 2 ^ 24) :=
      add_le_add hsecond (mul_le_mul_of_nonneg_left hfirst hc0)
    _ ≤ c * x / 2 ^ 22 := by linarith [mul_nonneg hc0 hx0.le]

/-- `round32` at a value of the binade `[2^k, 2^(k+1))` whose scaled value lies within a
half of `n`; concrete roundings are evaluated through it. -/
theorem round32_eq_of_binade (k n : ℤ) (hlo : (2 : ℚ) ^ k ≤ q) (hhi : q < 2 ^ (k + 1))
    (hnlo : (n : ℚ) - 1 / 2 < q / 2 ^ max (k - 23) (-149))
    (hnhi : q / 2 ^ max (k - 23) (-149) < n + 1 / 2) :
    round32 q = n * 2 ^ max (k - 23) (-149) := by
  have hq : 0 ≤ q := (zpow_pos two_pos k).le.trans hlo
  rw [round32_of_nonneg hq, ulpExponent_of_binade (by rwa [abs_of_nonneg hq])
    (by rwa [abs_of_nonneg hq]), roundTo, roundHalfEven_eq hnlo hnhi]

end Round32

/-! ## Floats of a request -/

/-- A `float` an application sends: NaN, or a finite value. -/
inductive CFloat
  | nan
  | num (q : ℚ)
  deriving DecidableEq

namespace CFloat

instance (n : ℕ) : OfNat CFloat n := ⟨num n⟩

/-- C's `a < b` on floats: false when an operand is NaN. -/
def lt : CFloat → CFloat → Prop
  | num a, num b => a < b
  | _, _ => False

instance : LT CFloat := ⟨lt⟩

instance decLt : (a b : CFloat) → Decidable (a < b)
  | num a, num b => inferInstanceAs (Decidable (a < b))
  | nan, _ => isFalse id
  | num _, nan => isFalse id

/-- An operation on a float; a NaN operand gives NaN. -/
def map (f : ℚ → ℚ) : CFloat → CFloat
  | nan => nan
  | num q => num (f q)

@[simp] theorem num_lt_num (a b : ℚ) : num a < num b ↔ a < b := Iff.rfl

@[simp] theorem not_nan_lt (b : CFloat) : ¬nan < b := id

@[simp] theorem map_nan (f : ℚ → ℚ) : nan.map f = nan := rfl

@[simp] theorem map_num (f : ℚ → ℚ) (q : ℚ) : (num q).map f = num (f q) := rfl

end CFloat

end Intel3A
