import BillingEngine.Common.Rounding
import BillingEngine.Services.Usage

/-!
# Costs (`app/services/cost_service.py`, `generate_service.py`, `constants/pricing.py`)

Money is in integer micro-units. Floats occur in three places: the pinned
`PRICING` table, `math.ceil(count / 1000)`, and `to_cents`. A float is the
rational it stands for, and an operation on floats the exact result rounded to
the nearest number with a 53-bit significand, ties to even; no value here comes
near the exponent range.

Results:
* `RATES_eq`: the micro-unit rates that the float table converts to.
* `rollup_of_subscription`, `rollup_eq_ok`: when there is a rollup, and what it reports.
* `generate_fst`: `generate` leaves the database as `record_usage` does.
-/

namespace BillingEngine

open Rounding UsageRepository SubscriptionRepository

/-- The float nearest to `x`. -/
def binary64 (x : ℚ) : ℚ := roundToBits 53 x

/-- `CENTS_TO_MICRO` -/
def centsToMicro : ℤ := 10000

/-- The values of one entry per price category. -/
structure PriceTable (α : Type*) where
  cachedInputPer1k : α
  inputPer1k : α
  outputPer1k : α
  reasoningPer1k : α
  apiCallPer1k : α
deriving DecidableEq

/-- `{key: f(value) for key, value in table.items()}` -/
def PriceTable.map {α β : Type*} (f : α → β) (t : PriceTable α) : PriceTable β where
  cachedInputPer1k := f t.cachedInputPer1k
  inputPer1k := f t.inputPer1k
  outputPer1k := f t.outputPer1k
  reasoningPer1k := f t.reasoningPer1k
  apiCallPer1k := f t.apiCallPer1k

/-- `PRICING`: cents per 1k, as the decimals written in the source. -/
def PRICING : PriceTable ℚ where
  cachedInputPer1k := 1 / 10
  inputPer1k := 3 / 10
  outputPer1k := 6 / 10
  reasoningPer1k := 6 / 10
  apiCallPer1k := 2

namespace CostService

/-- `_per_1k_micro(cents_per_1k)` (lines 9–15). -/
def perOneKMicro (centsPer1k : ℚ) : ℤ :=
  roundHalfEven (binary64 (binary64 centsPer1k * centsToMicro))

/-- `RATES` (line 19). -/
def RATES : PriceTable ℤ := PRICING.map perOneKMicro

theorem RATES_eq : RATES = { cachedInputPer1k := 1000, inputPer1k := 3000, outputPer1k := 6000,
                             reasoningPer1k := 6000, apiCallPer1k := 20000 } := by
  decide +kernel

/-- `math.ceil(count / 1000)` -/
def blocks (count : ℤ) : ℤ := ⌈binary64 (count / 1000)⌉

/-- `calculate_token_cost` (lines 35–60). -/
def calculateTokenCost (cachedInputTokens inputTokens outputTokens reasoningTokens : ℤ) : ℤ :=
  let outputTotal := outputTokens + reasoningTokens
  let cached := blocks cachedInputTokens * RATES.cachedInputPer1k
  let fresh := blocks inputTokens * RATES.inputPer1k
  let output := blocks outputTotal * RATES.outputPer1k
  cached + fresh + output

/-- `calculate_api_call_cost` (lines 62–64). -/
def calculateApiCallCost (quantity : ℤ) : ℤ := blocks quantity * RATES.apiCallPer1k

/-- `to_cents`: `round(micro_units / CENTS_TO_MICRO, 4)`. -/
def toCents (microUnits : ℤ) : ℚ :=
  binary64 (roundToDecimals 4 (binary64 (microUnits / centsToMicro)))

/-- `rollup(subscription_id, period_start, period_end)` (lines 69–110). -/
def rollup (db : Database) (subscriptionId : Uuid) (periodStart periodEnd : DateTime) :
    Except Exn (Option UsageRollupResponse) :=
  match getById db subscriptionId with
  | none => .ok none
  | some subscription =>
    match planOf db subscription with
    | none => .error .attributeError
    | some plan =>
      let usedApiCalls :=
        getTotalByType db subscriptionId .apiCall (some periodStart) (some periodEnd)
      let usedTokens := getTotalByType db subscriptionId .tokens (some periodStart) (some periodEnd)
      let (cached, fresh, output, reasoning) :=
        getTokenTotals db subscriptionId (some periodStart) (some periodEnd)
      let apiCost := calculateApiCallCost usedApiCalls
      let tokenCost := calculateTokenCost cached fresh output reasoning
      let totalCost := apiCost + tokenCost
      .ok (some
        { subscriptionId := subscriptionId
          planId := plan.id
          usedApiCalls := usedApiCalls
          apiCallLimit := plan.apiCallLimit
          usedTokens := usedTokens
          tokensLimit := plan.tokensLimit
          costMicro := totalCost
          costCents := toCents totalCost })

/-! ### What a rollup reports -/

/-- The used amount that a rollup reports for a usage type. -/
def usedOf (figures : UsageRollupResponse) : UsageType → ℤ
  | .apiCall => figures.usedApiCalls
  | .tokens => figures.usedTokens

/-- The limit that it reports. -/
def limitOf (figures : UsageRollupResponse) : UsageType → ℤ
  | .apiCall => figures.apiCallLimit
  | .tokens => figures.tokensLimit

variable {db : Database} {subscriptionId : Uuid} {start stop : DateTime}
  {figures : UsageRollupResponse}

theorem rollup_eq_ok (h : rollup db subscriptionId start stop = .ok (some figures)) :
    ∃ subscription plan, getById db subscriptionId = some subscription ∧
      planOf db subscription = some plan ∧
      ∀ usageType, limitOf figures usageType = UsageService.limitFor plan usageType := by
  unfold rollup at h
  split at h
  · cases h
  · split at h
    · cases h
    · rename_i subscription hsub _ plan hplan
      cases h
      exact ⟨subscription, plan, hsub, hplan, fun usageType => by cases usageType <;> rfl⟩

/-- The plan of a subscription that has been looked up. -/
theorem limitOf_rollup {subscription : Subscription}
    (hsub : getById db subscriptionId = some subscription)
    (h : rollup db subscriptionId start stop = .ok (some figures)) :
    ∃ plan, planOf db subscription = some plan ∧
      ∀ usageType, limitOf figures usageType = UsageService.limitFor plan usageType := by
  obtain ⟨subscription', plan, hsub', hplan, hlimit⟩ := rollup_eq_ok h
  rw [hsub] at hsub'
  cases hsub'
  exact ⟨plan, hplan, hlimit⟩

theorem usedOf_rollup (h : rollup db subscriptionId start stop = .ok (some figures))
    (usageType : UsageType) : usedOf figures usageType =
      getTotalByType db subscriptionId usageType (some start) (some stop) := by
  unfold rollup at h
  split at h
  · cases h
  · split at h
    · cases h
    · cases h; cases usageType <;> rfl

theorem costMicro_rollup {cached fresh output reasoning : ℤ}
    (h : rollup db subscriptionId start stop = .ok (some figures))
    (htotals : getTokenTotals db subscriptionId (some start) (some stop) =
      (cached, fresh, output, reasoning)) : figures.costMicro =
      calculateApiCallCost (getTotalByType db subscriptionId .apiCall (some start) (some stop)) +
        calculateTokenCost cached fresh output reasoning := by
  unfold rollup at h
  split at h
  · cases h
  · split at h
    · cases h
    · rw [htotals] at h
      cases h
      rfl

/-- Every stored subscription has a rollup. -/
theorem rollup_of_subscription (h : (getById db subscriptionId).isSome) (start stop : DateTime) :
    ∃ figures, rollup db subscriptionId start stop = .ok (some figures) := by
  obtain ⟨subscription, h⟩ := Option.isSome_iff_exists.mp h
  obtain ⟨plan, hplan⟩ := planOf_isSome (getById_eq_some_iff.mp h).1
  unfold rollup
  simp only [h, hplan]
  exact ⟨_, rfl⟩

end CostService

/-! ## `GenerateService.generate` -/

/-- The dictionary that `generate` returns. -/
structure GenerateResponse where
  usageEvent : UsageResponse
  costMicro : ℤ
  costCents : ℚ
deriving DecidableEq

namespace GenerateService

/-- The cost of an event from its stored token breakdown (lines 33–38). -/
def costOf (event : UsageEvent) : ℤ :=
  CostService.calculateTokenCost event.cachedInputTokens event.inputTokens event.outputTokens
    event.reasoningTokens

/-- The response about an event. -/
def respond (event : UsageEvent) : GenerateResponse where
  usageEvent := .ofEvent event
  costMicro := costOf event
  costCents := CostService.toCents (costOf event)

/-- `generate(request)` (lines 23–44); on `None` the first attribute access
    raises. -/
def generate (db : Database) (request : TokenUsageCreate) (nowBounds nowInsert : DateTime)
    (id : Uuid) : Database × Except Exn GenerateResponse :=
  match UsageService.recordUsage db (.tokens request) nowBounds nowInsert id with
  | (db', .ok (some event)) => (db', .ok (respond event))
  | (db', .ok none) => (db', .error .attributeError)
  | (db', .error exn) => (db', .error exn)

/-- `generate` leaves the database as `record_usage` does. -/
theorem generate_fst (db : Database) (request : TokenUsageCreate) (nowBounds nowInsert : DateTime)
    (id : Uuid) : (generate db request nowBounds nowInsert id).1 =
      (UsageService.recordUsage db (.tokens request) nowBounds nowInsert id).1 := by
  unfold generate
  split <;> simp [*]

end GenerateService

end BillingEngine
