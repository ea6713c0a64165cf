import Intel3A.Binary32
/-!
# C value conventions

`Intel3AParameter.cpp` computes with `float`, `int`, `int64_t` and `unsigned` values and
with fixed arrays indexed by an `unsigned int`.  This module fixes how the model reads
them.  A `float` is a rational, rounded by `round32` where the code's arithmetic rounds
(`Intel3A.Binary32`).  A conversion to an integer type truncates toward zero; out of the
type's range C leaves it undefined, and the model gives what the x86 conversion
instructions give, so that a theorem can show where such a conversion happens.  An array
is a function from slot indices to values, so that a write outside the declared capacity
is kept rather than dropped, and the loops that fill a prefix of an array are structural
recursions with one closed-form lemma each.
-/

namespace Intel3A

/-- The `CLIP(value, max, min)` macro of `iutils/Utils.h`, which lies outside the modelled
sources: a clamp of `value` between `min` and `max`, as the design document reads it. -/
def clip (x hi lo : ℚ) : ℚ := max (min x hi) lo

/-- Truncation toward zero, C's conversion of a floating value to an integer type. -/
def truncate (q : ℚ) : ℤ := if 0 ≤ q then ⌊q⌋ else ⌈q⌉

/-- A floating value converted to a signed integer type of `bits` bits as the x86
conversion instructions do it: the truncation when it fits, and otherwise the "integer
indefinite" value `-2^(bits-1)`.  C leaves the second case undefined. -/
def floatToSigned (bits : ℕ) (q : ℚ) : ℤ :=
  if -2 ^ (bits - 1) ≤ truncate q ∧ truncate q < 2 ^ (bits - 1) then truncate q
  else -2 ^ (bits - 1)

/-- A floating value converted to `int`. -/
def floatToInt (q : ℚ) : ℤ := floatToSigned 32 q

/-- A floating value converted to `int64_t`. -/
def floatToInt64 (q : ℚ) : ℤ := floatToSigned 64 q

/-- An integer converted to `unsigned int`: reduction modulo `2^32`. -/
def intToUnsigned (n : ℤ) : UInt32 := UInt32.ofNat (n % 4294967296).toNat

/-- A floating value converted to `unsigned int` by x86-64 code: the low 32 bits of its
conversion to a 64-bit integer.  Outside `[0, 2^32)` C leaves the result undefined. -/
def floatToUnsigned (q : ℚ) : UInt32 := intToUnsigned (floatToInt64 q)

/-- The loop `for (unsigned int i = 0; i < count; i++) a[i] = v;`. -/
def fillSlots {α : Type} (a : ℕ → α) (v : α) : ℕ → ℕ → α
  | 0 => a
  | count + 1 => Function.update (fillSlots a v count) count v

theorem le_clip (x hi lo : ℚ) : lo ≤ clip x hi lo := le_max_right _ _

theorem clip_le (x : ℚ) {hi lo : ℚ} (h : lo ≤ hi) : clip x hi lo ≤ hi :=
  max_le (min_le_right _ _) h

/-- The clip of `1` into the band `[1 / m, m]` is `1` exactly when the band is ordered. -/
theorem clip_one_eq_one_iff (m : ℚ) : clip 1 m (1 / m) = 1 ↔ 1 ≤ m := by
  unfold clip
  constructor
  · intro h
    by_contra hm
    rw [min_eq_right (le_of_lt (not_le.mp hm))] at h
    rcases max_choice m (1 / m) with hmax | hmax <;> rw [hmax] at h
    · exact hm h.ge
    · exact hm (by rw [one_div, inv_eq_one] at h; exact h.ge)
  · intro hm
    rw [min_eq_left hm, max_eq_left (div_le_one_of_le₀ hm (zero_le_one.trans hm))]

/-! ## Conversions to integers -/

section Conversions

variable {q r : ℚ}

theorem truncate_mono (h : q ≤ r) : truncate q ≤ truncate r := by
  unfold truncate
  by_cases hq : 0 ≤ q
  · rw [if_pos hq, if_pos (hq.trans h)]
    exact Int.floor_mono h
  · rw [if_neg hq]
    have hceil : ⌈q⌉ ≤ 0 := Int.ceil_le.mpr (by push_cast; linarith)
    split_ifs with hr
    · exact hceil.trans (Int.floor_nonneg.mpr hr)
    · exact Int.ceil_mono h

/-- Inside the range of the type the conversion is the truncation. -/
theorem floatToSigned_of_fits {bits : ℕ} (hlo : -2 ^ (bits - 1) ≤ q)
    (hhi : q < 2 ^ (bits - 1)) : floatToSigned bits q = truncate q := by
  have hpos : (0 : ℚ) < 2 ^ (bits - 1) := pow_pos two_pos _
  refine if_pos ⟨?_, ?_⟩ <;> unfold truncate <;> split_ifs with hq
  · exact (neg_nonpos.mpr (pow_pos two_pos _).le).trans (Int.floor_nonneg.mpr hq)
  · have hceil : ((-2 ^ (bits - 1) : ℤ) : ℚ) ≤ ⌈q⌉ := by
      push_cast; exact hlo.trans (Int.le_ceil q)
    exact_mod_cast hceil
  · exact Int.floor_lt.mpr (by push_cast; exact hhi)
  · exact (Int.ceil_le.mpr (by push_cast; linarith)).trans_lt (pow_pos two_pos _)

theorem floatToInt_of_fits (hlo : -2147483648 ≤ q) (hhi : q < 2147483648) :
    floatToInt q = truncate q :=
  floatToSigned_of_fits (by norm_num; exact hlo) (by norm_num; exact hhi)

theorem floatToInt64_of_fits (hlo : -9223372036854775808 ≤ q) (hhi : q < 9223372036854775808) :
    floatToInt64 q = truncate q :=
  floatToSigned_of_fits (by norm_num; exact hlo) (by norm_num; exact hhi)

/-- Between two values that fit an `int` the conversion is monotone. -/
theorem floatToInt_le_floatToInt (hlo : -2147483648 ≤ q) (h : q ≤ r) (hhi : r < 2147483648) :
    floatToInt q ≤ floatToInt r := by
  rw [floatToInt_of_fits hlo (h.trans_lt hhi), floatToInt_of_fits (hlo.trans h) hhi]
  exact truncate_mono h

theorem floatToInt_nonneg (h0 : 0 ≤ q) (h : q < 2147483648) : 0 ≤ floatToInt q := by
  rw [floatToInt_of_fits (by linarith) h, truncate, if_pos h0]
  exact Int.floor_nonneg.mpr h0

/-- A value at or above `2^31` converts to `INT_MIN`. -/
theorem floatToInt_of_le (h : 2147483648 ≤ q) : floatToInt q = -2147483648 := by
  have htrunc : 2147483648 ≤ truncate q := by
    rw [truncate, if_pos (by linarith)]
    exact Int.le_floor.mpr (by exact_mod_cast h)
  rw [floatToInt, floatToSigned, if_neg (by norm_num; omega)]
  norm_num

theorem floatToUnsigned_toNat (hq : 0 ≤ q) (hlt : q < 2 ^ 32) :
    (floatToUnsigned q).toNat = ⌊q⌋₊ := by
  have hfloor : ⌊q⌋₊ < 2 ^ 32 := (Nat.floor_lt hq).mpr (by exact_mod_cast hlt)
  have hmod : ((⌊q⌋₊ : ℤ) % 4294967296).toNat = ⌊q⌋₊ := by
    rw [Int.emod_eq_of_lt (by positivity) (by exact_mod_cast hfloor), Int.toNat_natCast]
  rw [floatToUnsigned, floatToInt64_of_fits (by linarith) (by linarith), truncate, if_pos hq,
    ← Int.natCast_floor_eq_floor hq, intToUnsigned, hmod]
  exact Nat.mod_eq_of_lt hfloor

end Conversions

theorem fillSlots_apply {α : Type} (a : ℕ → α) (v : α) (count i : ℕ) :
    fillSlots a v count i = if i < count then v else a i := by
  induction count with
  | zero => rw [if_neg (Nat.not_lt_zero i)]; rfl
  | succ count ih =>
    rw [fillSlots, Function.update_apply, ih]
    by_cases hi : i = count
    · rw [if_pos hi, if_pos (by omega)]
    · have hlt : i < count + 1 ↔ i < count := by omega
      simp only [hi, hlt, if_false]

end Intel3A
