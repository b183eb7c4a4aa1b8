import BillingEngine.Pricing.Blocks

/-!
# Tokens served from the cache

Each bucket of `calculate_token_cost` is rounded up on its own. So `k` fresh
tokens that come from the cache instead may open a block of the cached bucket and
free none of the fresh one, which costs a cached block more; whenever they free a
block, the price falls.

Results:
* `cacheHit_raises_price`: two fresh tokens, one of them from the cache.
* `cacheHits_price`: when the price rises, and by how much.
-/

namespace BillingEngine

open CostService

namespace Pricing

/-- The blocks that `k` more tokens open in the cached bucket. -/
def opened (cached k : ℤ) : ℤ := blocks (cached + k) - blocks cached

/-- The blocks that `k` fewer tokens free in the fresh bucket. -/
def freed (fresh k : ℤ) : ℤ := blocks fresh - blocks (fresh - k)

/-- Two fresh tokens are 3000 micro-units; with one of them from the cache 4000. -/
theorem cacheHit_raises_price :
    ¬ calculateTokenCost (0 + 1) (2 - 1) 0 0 ≤ calculateTokenCost 0 2 0 0 := by
  decide +kernel

variable {cached fresh output reasoning k : ℤ}

theorem calculateTokenCost_cacheHits (cached fresh output reasoning k : ℤ) :
    calculateTokenCost (cached + k) (fresh - k) output reasoning =
      calculateTokenCost cached fresh output reasoning + opened cached k * RATES.cachedInputPer1k -
        freed fresh k * RATES.inputPer1k := by
  unfold calculateTokenCost opened freed
  ring

/-- Up to `2 ^ 53`, more cached than freed blocks are one block against none. -/
theorem opened_freed_of_exact (hcached : 0 ≤ cached) (hk : 0 ≤ k) (hfresh : k ≤ fresh)
    (hcached' : cached + k ≤ 2 ^ 53) (hfresh' : fresh ≤ 2 ^ 53) :
    (3 * freed fresh k < opened cached k ↔ -cached % 1000 < k ∧ k ≤ (fresh - 1) % 1000) ∧
      (3 * freed fresh k < opened cached k → opened cached k = 1 ∧ freed fresh k = 0) := by
  unfold opened freed
  rw [blocks_eq_integerBlocks (by omega) hcached', blocks_eq_integerBlocks hcached (by omega),
    blocks_eq_integerBlocks (by omega) hfresh', blocks_eq_integerBlocks (by omega) (by omega)]
  unfold integerBlocks
  omega

/-- **The price of cache hits.** For all counts the price does not rise exactly when
    at most three cached blocks are opened for each fresh block that is freed. For
    counts up to `2 ^ 53` it rises exactly when the tokens from the cache are more
    than the room in the last cached block and fewer than the tokens in the last
    fresh one, and then by the rate of one cached block. -/
theorem cacheHits_price (hcached : 0 ≤ cached) (hk : 0 ≤ k) (hfresh : k ≤ fresh) :
    (calculateTokenCost (cached + k) (fresh - k) output reasoning ≤
        calculateTokenCost cached fresh output reasoning ↔ opened cached k ≤ 3 * freed fresh k) ∧
    (cached + k ≤ 2 ^ 53 → fresh ≤ 2 ^ 53 →
      (calculateTokenCost cached fresh output reasoning <
          calculateTokenCost (cached + k) (fresh - k) output reasoning ↔
        -cached % 1000 < k ∧ k ≤ (fresh - 1) % 1000) ∧
      (calculateTokenCost cached fresh output reasoning <
          calculateTokenCost (cached + k) (fresh - k) output reasoning →
        calculateTokenCost (cached + k) (fresh - k) output reasoning =
          calculateTokenCost cached fresh output reasoning + RATES.cachedInputPer1k)) := by
  have hafter : calculateTokenCost (cached + k) (fresh - k) output reasoning =
      calculateTokenCost cached fresh output reasoning + opened cached k * 1000 -
        freed fresh k * 3000 := by
    rw [calculateTokenCost_cacheHits, RATES_eq]
  have hrises : calculateTokenCost cached fresh output reasoning <
      calculateTokenCost (cached + k) (fresh - k) output reasoning ↔
        3 * freed fresh k < opened cached k := by
    omega
  refine ⟨by omega, fun hcached' hfresh' => ?_⟩
  obtain ⟨hwhen, hone⟩ := opened_freed_of_exact hcached hk hfresh hcached' hfresh'
  refine ⟨hrises.trans hwhen, fun hraised => ?_⟩
  obtain ⟨hopened, hfreed⟩ := hone (hrises.mp hraised)
  rw [hafter, hopened, hfreed, RATES_eq]
  ring

theorem cacheHits_price_oneOfTwo :
    calculateTokenCost (0 + 1) (2 - 1) 0 0 = calculateTokenCost 0 2 0 0 + RATES.cachedInputPer1k :=
  ((cacheHits_price (le_refl 0) (by decide : (0 : ℤ) ≤ 1) (by decide : (1 : ℤ) ≤ 2)).2
    (by decide) (by decide)).2 (by decide +kernel)

end Pricing

end BillingEngine
