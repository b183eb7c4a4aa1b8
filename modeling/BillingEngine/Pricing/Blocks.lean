import BillingEngine.Services.Cost

/-!
# The division detour (`app/services/cost_service.py`, lines 35–64)

`math.ceil(count / 1000)` divides in floats. The quotient of a count that is not
a multiple of 1000 is at least 1/1000 above the integer below it, and half a unit
in the last place is less than that for quotients below `2 ^ 44`; from there on a
count just above a multiple of 1000 loses its block. The bucket that adds two
counts may be twice as large as a count, so the formula goes up to `2 ^ 54`.

Results:
* `blocks_eq`: the blocks of a count up to `2 ^ 54`.
* `blocks_first_failure`: a count that loses its last block.
* `pricing_exact`: up to `2 ^ 53` both costs are the integer block pricing.
-/

namespace BillingEngine

open Rounding CostService

namespace Pricing

/-- The ceiling of `count` over 1000, in integers. -/
def integerBlocks (count : ℤ) : ℤ := -(-count / 1000)

theorem integerBlocks_eq_ceil (count : ℤ) : integerBlocks count = ⌈(count : ℚ) / 1000⌉ :=
  (Rat.ceil_intCast_div_natCast count 1000).symm

/-- The integer block pricing of tokens. -/
def integerTokenCost (cachedInputTokens inputTokens outputTokens reasoningTokens : ℤ) : ℤ :=
  integerBlocks cachedInputTokens * RATES.cachedInputPer1k +
    integerBlocks inputTokens * RATES.inputPer1k +
    integerBlocks (outputTokens + reasoningTokens) * RATES.outputPer1k

/-- The integer block pricing of API calls. -/
def integerApiCallCost (quantity : ℤ) : ℤ := integerBlocks quantity * RATES.apiCallPer1k

/-- One past a multiple of 1000, where half a unit in the last place is more than 1/1000. -/
def LosesBlock (count : ℤ) : Prop := 1000 * 2 ^ 44 ≤ count ∧ count % 1000 = 1

instance (count : ℤ) : Decidable (LosesBlock count) := inferInstanceAs (Decidable (_ ∧ _))

theorem blocks_zero : blocks 0 = 0 := by
  simp [blocks, binary64]

section Positive

variable {count n r : ℤ}

/-- The quotient of a count that is `r` short of `n` blocks. -/
theorem div_eq_sub (h : count = 1000 * n - r) : (count : ℚ) / 1000 = n - r / 1000 := by
  rw [h]
  push_cast
  ring

theorem blocks_of_near (hbelow : 1000 * 2 ^ 44 ≤ count) (habove : count ≤ 2 ^ 54)
    (h : count = 1000 * n + 1) : blocks count = n := by
  have hq : (count : ℚ) / 1000 = n + 1 / 1000 := by rw [h]; push_cast; ring
  have hlower : (2 : ℚ) ^ (44 : ℤ) ≤ count / 1000 := by
    rw [le_div_iff₀ (by norm_num)]
    exact_mod_cast (by omega : (2 : ℤ) ^ 44 * 1000 ≤ count)
  have hupper : (count : ℚ) / 1000 < 2 ^ 53 := by
    rw [div_lt_iff₀ (by norm_num)]
    exact_mod_cast (by omega : count < (2 : ℤ) ^ 53 * 1000)
  have hpos : 0 < (count : ℚ) / 1000 := lt_of_lt_of_le (by positivity) hlower
  have hulp : (2 : ℚ) ^ (44 - (53 : ℕ) + 1 : ℤ) ≤ ulp 53 (count / 1000) := le_ulp hpos hlower
  norm_num at hulp
  refine ceil_roundToBits_of_near hpos hupper ?_ ?_ <;> rw [hq] at * <;> linarith

/-- The ceiling is exact when the quotient is far enough above the integer below it. -/
theorem blocks_of_far (hpos : 0 < count) (habove : count ≤ 2 ^ 54) (h : count = 1000 * n - r)
    (hr : 0 ≤ r) (hfar : r ≤ 998 ∨ count < 1000 * 2 ^ 44 ∧ r ≤ 999) : blocks count = n := by
  have hq := div_eq_sub h
  have hqpos : 0 < (count : ℚ) / 1000 := div_pos (Int.cast_pos.mpr hpos) (by norm_num)
  have hupper {k : ℕ} (hk : count < 1000 * 2 ^ k) : (count : ℚ) / 1000 < 2 ^ (k : ℤ) := by
    rw [div_lt_iff₀ (by norm_num), zpow_natCast]
    exact_mod_cast (by linarith : count < (2 : ℤ) ^ k * 1000)
  have hr' : (0 : ℚ) ≤ r := by exact_mod_cast hr
  refine ceil_roundToBits hqpos (by exact_mod_cast hupper (k := 53) (by omega)) ?_ ?_
  · rcases hfar with hfar | ⟨hsmall, hfar⟩
    · have hulp := ulp_le (p := 53) hqpos (hupper (k := 45) (by omega))
      have hfar' : (r : ℚ) ≤ 998 := by exact_mod_cast hfar
      norm_num at hulp
      rw [hq] at *
      linarith
    · have hulp := ulp_le (p := 53) hqpos (hupper hsmall)
      have hfar' : (r : ℚ) ≤ 999 := by exact_mod_cast hfar
      norm_num at hulp
      rw [hq] at *
      linarith
  · rw [hq]
    linarith

end Positive

/-- **The blocks of a count**, as the code computes them. -/
theorem blocks_eq {count : ℤ} (hnonneg : 0 ≤ count) (habove : count ≤ 2 ^ 54) :
    blocks count = integerBlocks count - if LosesBlock count then 1 else 0 := by
  rcases hnonneg.eq_or_lt with rfl | hpos
  · rw [blocks_zero]
    decide
  · by_cases hnear : LosesBlock count
    · rw [if_pos hnear, integerBlocks]
      exact blocks_of_near hnear.1 habove (by have := hnear.2; omega)
    · rw [if_neg hnear, sub_zero, integerBlocks]
      refine blocks_of_far (r := -count % 1000) hpos habove (by omega) (by omega) ?_
      unfold LosesBlock at hnear
      omega

theorem blocks_eq_integerBlocks {count : ℤ} (hnonneg : 0 ≤ count) (habove : count ≤ 2 ^ 53) :
    blocks count = integerBlocks count := by
  have hkeeps : ¬ LosesBlock count := fun h => by
    have := h.1
    omega
  rw [blocks_eq hnonneg (by omega), if_neg hkeeps, sub_zero]

/-- From `1000 * 2 ^ 44` on, a count just above a multiple of 1000 loses its last block. -/
theorem blocks_first_failure :
    blocks (1000 * 2 ^ 44 + 1) = 2 ^ 44 ∧ integerBlocks (1000 * 2 ^ 44 + 1) = 2 ^ 44 + 1 := by
  refine ⟨?_, by decide⟩
  rw [blocks_eq (by norm_num) (by norm_num)]
  decide

/-- **The division detour is exact** for counts up to `2 ^ 53`: neither a block too
    few nor a block too many. -/
theorem pricing_exact {cached input output reasoning quantity : ℤ}
    (hcached : 0 ≤ cached ∧ cached ≤ 2 ^ 53) (hinput : 0 ≤ input ∧ input ≤ 2 ^ 53)
    (houtput : 0 ≤ output + reasoning ∧ output + reasoning ≤ 2 ^ 53)
    (hquantity : 0 ≤ quantity ∧ quantity ≤ 2 ^ 53) :
    (∀ count ∈ [cached, input, output + reasoning, quantity],
      ⌈binary64 (count / 1000)⌉ = ⌈(count : ℚ) / 1000⌉) ∧
    calculateTokenCost cached input output reasoning =
      integerTokenCost cached input output reasoning ∧
    calculateApiCallCost quantity = integerApiCallCost quantity := by
  have hceil : ∀ count : ℤ, 0 ≤ count ∧ count ≤ 2 ^ 53 →
      ⌈binary64 (count / 1000)⌉ = ⌈(count : ℚ) / 1000⌉ := fun count h =>
    (blocks_eq_integerBlocks h.1 h.2).trans (integerBlocks_eq_ceil count)
  refine ⟨?_, ?_, ?_⟩
  · simp only [List.forall_mem_cons]
    exact ⟨hceil _ hcached, hceil _ hinput, hceil _ houtput, hceil _ hquantity, by simp⟩
  · simp only [calculateTokenCost, integerTokenCost, blocks_eq_integerBlocks hcached.1 hcached.2,
      blocks_eq_integerBlocks hinput.1 hinput.2, blocks_eq_integerBlocks houtput.1 houtput.2]
  · rw [calculateApiCallCost, integerApiCallCost, blocks_eq_integerBlocks hquantity.1 hquantity.2]

theorem pricing_exact_largest :
    (∀ count ∈ [(1 : ℤ), 1000, 2 ^ 52 + 2 ^ 52, 2 ^ 53],
      ⌈binary64 (count / 1000)⌉ = ⌈(count : ℚ) / 1000⌉) ∧
    calculateTokenCost 1 1000 (2 ^ 52) (2 ^ 52) = integerTokenCost 1 1000 (2 ^ 52) (2 ^ 52) ∧
    calculateApiCallCost (2 ^ 53) = integerApiCallCost (2 ^ 53) :=
  pricing_exact (by decide) (by decide) (by decide) (by decide)

end Pricing

end BillingEngine
