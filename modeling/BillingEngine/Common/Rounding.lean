import Mathlib

/-!
# Rounding to nearest

`roundHalfEven x` is the integer nearest to `x`, the even one on a tie.
`roundToBits p x` is the number with a `p`-bit significand nearest to `x`, the
one with the even significand on a tie; the exponent is not bounded.
`roundToDecimals d x` is the same for `d` decimal places.

Results: integers are their own rounding (`roundHalfEven_intCast`). Below `2 ^ p`
the integers bound the rounding of what they bound (`roundToBits_le`,
`le_roundToBits`), so its ceiling is that of the number itself, unless the number
is within half a unit above an integer (`ceil_roundToBits`, `ceil_roundToBits_of_near`).
Rounding is monotone (`roundToBits_mono`), and rounding the parts of an amount up, not
the amount, costs less than one unit for each part (`SplitsUp.sum_bounds`).
-/

namespace Rounding

/-- The nearest integer, ties to even. -/
def roundHalfEven (x : ℚ) : ℤ :=
  let n := ⌊x⌋
  if x - n < 1 / 2 then n
  else if 1 / 2 < x - n then n + 1
  else if n % 2 = 0 then n else n + 1

/-- The nearest number with a `p`-bit significand, ties to even. -/
def roundToBits (p : ℕ) (x : ℚ) : ℚ :=
  -- the unit in the last place of `x`
  let ulp : ℚ := 2 ^ (Int.log 2 |x| - (p - 1))
  roundHalfEven (x / ulp) * ulp

/-- The nearest number with `d` decimal places, ties to even. -/
def roundToDecimals (d : ℕ) (x : ℚ) : ℚ := roundHalfEven (x * 10 ^ d) / 10 ^ d

@[simp] theorem roundHalfEven_intCast (n : ℤ) : roundHalfEven n = n := by
  simp [roundHalfEven]

/-! ## Bounds on the nearest integer -/

section Nearest

variable {x : ℚ} {m : ℤ}

theorem roundHalfEven_cases (x : ℚ) :
    roundHalfEven x = ⌊x⌋ ∧ x ≤ ⌊x⌋ + 1 / 2 ∨ roundHalfEven x = ⌊x⌋ + 1 ∧ ⌊x⌋ + 1 / 2 ≤ x := by
  unfold roundHalfEven
  dsimp only
  split_ifs with hbelow habove heven
  · exact .inl ⟨rfl, by linarith⟩
  · exact .inr ⟨rfl, by linarith⟩
  · exact .inl ⟨rfl, by linarith⟩
  · exact .inr ⟨rfl, by linarith⟩

theorem le_roundHalfEven (h : (m : ℚ) ≤ x) : m ≤ roundHalfEven x := by
  have hfloor := Int.le_floor.mpr h
  rcases roundHalfEven_cases x with ⟨heq, -⟩ | ⟨heq, -⟩ <;> rw [heq] <;> omega

/-- Less than a half above `m` is rounded to `m` at most. -/
theorem roundHalfEven_le_of_lt (h : x < m + 1 / 2) : roundHalfEven x ≤ m := by
  rcases roundHalfEven_cases x with ⟨heq, -⟩ | ⟨heq, hhalf⟩
  · have hlt : (⌊x⌋ : ℚ) < (m + 1 : ℤ) := by push_cast; linarith [Int.floor_le x]
    rw [heq]
    exact Int.lt_add_one_iff.mp (Int.cast_lt.mp hlt)
  · have hlt : (⌊x⌋ : ℚ) < m := by linarith
    rw [heq]
    exact Int.cast_lt.mp hlt

theorem roundHalfEven_le (h : x ≤ m) : roundHalfEven x ≤ m :=
  roundHalfEven_le_of_lt (by linarith)

/-- More than a half above `m` is rounded to more than `m`. -/
theorem lt_roundHalfEven (h : m + 1 / 2 < x) : m < roundHalfEven x := by
  rcases roundHalfEven_cases x with ⟨heq, hhalf⟩ | ⟨heq, -⟩
  · have hlt : (m : ℚ) < ⌊x⌋ := by linarith
    rw [heq]
    exact Int.cast_lt.mp hlt
  · have hlt : (m : ℚ) < (⌊x⌋ + 1 : ℤ) := by push_cast; linarith [Int.lt_floor_add_one x]
    rw [heq]
    exact Int.cast_lt.mp hlt

theorem roundHalfEven_mono {x y : ℚ} (h : x ≤ y) : roundHalfEven x ≤ roundHalfEven y := by
  rcases roundHalfEven_cases x with ⟨heq, -⟩ | ⟨heq, hhalf⟩
  · rw [heq]
    exact le_roundHalfEven ((Int.floor_le x).trans h)
  · rcases h.eq_or_lt with rfl | hlt
    · exact le_rfl
    · -- `y` is more than a half above the floor of `x`
      rw [heq]
      exact lt_roundHalfEven (hhalf.trans_lt hlt)

end Nearest

/-! ## The unit in the last place -/

/-- The unit in the last place of `x` at `p` bits. -/
def ulp (p : ℕ) (x : ℚ) : ℚ := 2 ^ (Int.log 2 |x| - (p - 1))

section Ulp

variable {p : ℕ} {x : ℚ} {k : ℤ}

theorem roundToBits_eq (p : ℕ) (x : ℚ) :
    roundToBits p x = roundHalfEven (x / ulp p x) * ulp p x := rfl

@[simp] theorem roundToBits_zero (p : ℕ) : roundToBits p 0 = 0 := by
  have hzero : roundHalfEven 0 = 0 := by exact_mod_cast roundHalfEven_intCast 0
  rw [roundToBits_eq, zero_div, hzero, Int.cast_zero, zero_mul]

theorem ulp_pos (p : ℕ) (x : ℚ) : 0 < ulp p x := zpow_pos two_pos _

theorem ulp_le (hx : 0 < x) (h : x < 2 ^ k) : ulp p x ≤ 2 ^ (k - p) := by
  have hlog : Int.log 2 x < k := (Int.lt_zpow_iff_log_lt one_lt_two hx).mp (by simpa using h)
  rw [ulp, abs_of_pos hx]
  exact zpow_le_zpow_right₀ one_le_two (by omega)

theorem le_ulp (hx : 0 < x) (h : 2 ^ k ≤ x) : 2 ^ (k - p + 1) ≤ ulp p x := by
  have hlog : k ≤ Int.log 2 x := (Int.zpow_le_iff_le_log one_lt_two hx).mp (by simpa using h)
  rw [ulp, abs_of_pos hx]
  exact zpow_le_zpow_right₀ one_le_two (by omega)

/-- Below `2 ^ p` every integer is a multiple of the unit. -/
theorem exists_eq_mul_ulp (hx : 0 < x) (h : x < 2 ^ p) (n : ℤ) :
    ∃ m : ℤ, (n : ℚ) = m * ulp p x := by
  have hlog : Int.log 2 x < p := (Int.lt_zpow_iff_log_lt one_lt_two hx).mp (by simpa using h)
  obtain ⟨j, hj⟩ : ∃ j : ℕ, Int.log 2 |x| - (p - 1) = -(j : ℤ) :=
    ⟨(p - 1 - Int.log 2 |x|).toNat, by rw [abs_of_pos hx]; omega⟩
  refine ⟨n * 2 ^ j, ?_⟩
  rw [ulp, hj, zpow_neg, zpow_natCast, Int.cast_mul, Int.cast_pow, Int.cast_ofNat]
  exact (mul_inv_cancel_right₀ (pow_ne_zero j two_ne_zero) _).symm

end Ulp

/-! ## Bounds on the nearest number of `p` bits -/

section Bits

variable {p : ℕ} {x : ℚ} {n : ℤ}

theorem le_roundToBits (hx : 0 < x) (hlt : x < 2 ^ p) (h : n ≤ x) : n ≤ roundToBits p x := by
  obtain ⟨m, hm⟩ := exists_eq_mul_ulp hx hlt n
  rw [hm, ← le_div_iff₀ (ulp_pos p x)] at h
  rw [hm, roundToBits_eq, mul_le_mul_iff_left₀ (ulp_pos p x), Int.cast_le]
  exact le_roundHalfEven h

/-- Less than half a unit above `n` is rounded to `n` at most. -/
theorem roundToBits_le_of_lt (hx : 0 < x) (hlt : x < 2 ^ p) (h : x < n + ulp p x / 2) :
    roundToBits p x ≤ n := by
  obtain ⟨m, hm⟩ := exists_eq_mul_ulp hx hlt n
  have hdiv : x / ulp p x < m + 1 / 2 := by
    rw [div_lt_iff₀ (ulp_pos p x), add_mul, ← hm]
    linarith
  rw [hm, roundToBits_eq, mul_le_mul_iff_left₀ (ulp_pos p x), Int.cast_le]
  exact roundHalfEven_le_of_lt hdiv

theorem roundToBits_le (hx : 0 < x) (hlt : x < 2 ^ p) (h : x ≤ n) : roundToBits p x ≤ n :=
  roundToBits_le_of_lt hx hlt (by linarith [ulp_pos p x])

/-- More than half a unit above `n` is rounded to more than `n`. -/
theorem lt_roundToBits (hx : 0 < x) (hlt : x < 2 ^ p) (h : n + ulp p x / 2 < x) :
    n < roundToBits p x := by
  obtain ⟨m, hm⟩ := exists_eq_mul_ulp hx hlt n
  have hdiv : m + 1 / 2 < x / ulp p x := by
    rw [lt_div_iff₀ (ulp_pos p x), add_mul, ← hm]
    linarith
  rw [hm, roundToBits_eq, mul_lt_mul_iff_left₀ (ulp_pos p x), Int.cast_lt]
  exact lt_roundHalfEven hdiv

/-- The ceiling survives the rounding when the number is more than half a unit
    above the integer below it. -/
theorem ceil_roundToBits (hx : 0 < x) (hlt : x < 2 ^ p) (hbelow : n - 1 + ulp p x / 2 < x)
    (habove : x ≤ n) : ⌈roundToBits p x⌉ = n := by
  refine Int.ceil_eq_iff.mpr ⟨?_, roundToBits_le hx hlt habove⟩
  have hlower : ((n - 1 : ℤ) : ℚ) + ulp p x / 2 < x := by push_cast; exact hbelow
  simpa using lt_roundToBits hx hlt hlower

/-- A number within half a unit above an integer is rounded to the integer. -/
theorem ceil_roundToBits_of_near (hx : 0 < x) (hlt : x < 2 ^ p) (hbelow : n ≤ x)
    (habove : x < n + ulp p x / 2) : ⌈roundToBits p x⌉ = n := by
  rw [le_antisymm (roundToBits_le_of_lt hx hlt habove) (le_roundToBits hx hlt hbelow),
    Int.ceil_intCast]

end Bits

/-! ## Monotonicity -/

section Mono

variable {p : ℕ} {x y : ℚ}

theorem roundToBits_nonneg (h : 0 ≤ x) : 0 ≤ roundToBits p x := by
  have hnearest : 0 ≤ roundHalfEven (x / ulp p x) :=
    le_roundHalfEven (by exact_mod_cast div_nonneg h (ulp_pos p x).le)
  exact mul_nonneg (Int.cast_nonneg hnearest) (ulp_pos p x).le

/-- The rounding of a number stays below the power of two above it. -/
theorem roundToBits_le_two_zpow (hx : 0 < x) :
    roundToBits p x ≤ 2 ^ (Int.log 2 x + 1) := by
  have hpow : ((2 ^ p : ℤ) : ℚ) * ulp p x = 2 ^ (Int.log 2 x + 1) := by
    rw [ulp, abs_of_pos hx, Int.cast_pow, Int.cast_ofNat, ← zpow_natCast, ← zpow_add₀ two_ne_zero]
    congr 1
    omega
  rw [← hpow, roundToBits_eq, mul_le_mul_iff_left₀ (ulp_pos p x), Int.cast_le]
  refine roundHalfEven_le ?_
  rw [div_le_iff₀ (ulp_pos p x), hpow]
  exact_mod_cast (Int.lt_zpow_succ_log_self one_lt_two x).le

/-- And it does not fall below the power of two under the number. -/
theorem two_zpow_le_roundToBits (hp : 0 < p) (hx : 0 < x) :
    2 ^ Int.log 2 x ≤ roundToBits p x := by
  have hpow : ((2 ^ (p - 1) : ℤ) : ℚ) * ulp p x = 2 ^ Int.log 2 x := by
    rw [ulp, abs_of_pos hx, Int.cast_pow, Int.cast_ofNat, ← zpow_natCast, ← zpow_add₀ two_ne_zero]
    congr 1
    omega
  rw [← hpow, roundToBits_eq, mul_le_mul_iff_left₀ (ulp_pos p x), Int.cast_le]
  refine le_roundHalfEven ?_
  rw [le_div_iff₀ (ulp_pos p x), hpow]
  exact_mod_cast Int.zpow_log_le_self one_lt_two hx

theorem roundToBits_mono (hp : 0 < p) (hx : 0 ≤ x) (h : x ≤ y) :
    roundToBits p x ≤ roundToBits p y := by
  rcases hx.eq_or_lt with rfl | hx
  · rw [roundToBits_zero]
    exact roundToBits_nonneg h
  · have hy := hx.trans_le h
    rcases (Int.log_mono_right hx h : Int.log 2 x ≤ Int.log 2 y).eq_or_lt with hlog | hlog
    · -- one unit for both
      have hulp : ulp p x = ulp p y := by rw [ulp, ulp, abs_of_pos hx, abs_of_pos hy, hlog]
      rw [roundToBits_eq, roundToBits_eq, hulp, mul_le_mul_iff_left₀ (ulp_pos p y), Int.cast_le]
      exact roundHalfEven_mono (div_le_div_of_nonneg_right h (ulp_pos p y).le)
    · -- a power of two lies between them
      calc roundToBits p x ≤ 2 ^ (Int.log 2 x + 1) := roundToBits_le_two_zpow hx
        _ ≤ 2 ^ Int.log 2 y := zpow_le_zpow_right₀ one_le_two hlog
        _ ≤ roundToBits p y := two_zpow_le_roundToBits hp hy

end Mono

/-! ## Amounts rounded up in parts -/

/-- Splitting an amount up to `bound` saves nothing and costs at most one unit. -/
def SplitsUp (f : ℤ → ℤ) (bound : ℤ) : Prop :=
  ∀ x y, 0 ≤ x → 0 ≤ y → x + y ≤ bound → f (x + y) ≤ f x + f y ∧ f x + f y ≤ f (x + y) + 1

theorem SplitsUp.sum_bounds {f : ℤ → ℤ} {bound : ℤ} (hf : SplitsUp f bound) :
    ∀ {l : List ℤ}, l ≠ [] → (∀ x ∈ l, 0 ≤ x) → l.sum ≤ bound →
      f l.sum ≤ (l.map f).sum ∧ (l.map f).sum ≤ f l.sum + (l.length - 1)
  | [x], _, _, _ => by simp
  | x :: y :: l, _, hnonneg, hsum => by
    obtain ⟨hx, hl⟩ := List.forall_mem_cons.mp hnonneg
    have hrest : 0 ≤ (y :: l).sum := List.sum_nonneg hl
    rw [List.sum_cons] at hsum
    obtain ⟨hlower, hupper⟩ := SplitsUp.sum_bounds hf (List.cons_ne_nil y l) hl (by omega)
    obtain ⟨hsub, hone⟩ := hf x (y :: l).sum hx hrest hsum
    have hmap : ((x :: y :: l).map f).sum = f x + ((y :: l).map f).sum := List.sum_cons
    have hlength : ((x :: y :: l).length : ℤ) = (y :: l).length + 1 := rfl
    rw [List.sum_cons, hmap, hlength]
    constructor <;> omega

end Rounding
