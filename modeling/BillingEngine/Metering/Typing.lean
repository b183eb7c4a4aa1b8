import BillingEngine.Services.Cost
import BillingEngine.System.Serial

/-!
# Usage types and token counts

`POST /generate` meters tokens and `POST /usage` meters API calls. The docstring
of `TokenUsageCreate` has its `usage_type` pinned to `TOKENS`, but it is only the
default of an inherited field: both endpoints take the type that the caller
sends. A token request can be booked as API calls, and tokens can be booked
without a breakdown.

Results:
* `wellTyped_newEvent`: an event is well typed exactly if its request has the type of
  its endpoint.
* `ledger_typed`: as long as all new requests have the type of their endpoint, the
  ledger is well typed and the rollup prices the tokens that it counts.
* `mistyped_forever`: a request that does not and is recorded spoils the ledger for good.
* `caller_chooses_type`: both ways to do so.
-/

namespace BillingEngine

open Runs Ledger UsageRepository

namespace Typing

/-- The token counts of the event fit its type. -/
def WellTyped (e : UsageEvent) : Prop :=
  match e.usageType with
  | .tokens =>
    e.quantity = e.cachedInputTokens + e.inputTokens + e.outputTokens + e.reasoningTokens
  | .apiCall =>
    e.cachedInputTokens = 0 ∧ e.inputTokens = 0 ∧ e.outputTokens = 0 ∧ e.reasoningTokens = 0

instance (e : UsageEvent) : Decidable (WellTyped e) := by
  unfold WellTyped; cases e.usageType <;> infer_instance

/-- The request has the type of its endpoint; without any tokens it may have either. -/
def OfItsEndpoint : UsageRequest → Prop
  | .usage body => body.usageType = .apiCall
  | .tokens body => body.usageType = .tokens ∨ body.quantity = 0

/-- A usage request with an unused key has the type of its endpoint. -/
def NewOfItsEndpoint (s : Serial) : Op → Prop
  | .recordUsage usage _ _ _ =>
    getByIdempotencyKey s.db usage.idempotencyKey = none → OfItsEndpoint usage
  | _ => True

instance : DecidablePred OfItsEndpoint
  | .usage body => inferInstanceAs (Decidable (body.usageType = .apiCall))
  | .tokens body => inferInstanceAs (Decidable (body.usageType = .tokens ∨ body.quantity = 0))

instance (s : Serial) : DecidablePred (NewOfItsEndpoint s)
  | .recordUsage usage _ _ _ => inferInstanceAs (Decidable (_ → OfItsEndpoint usage))
  | .createTenant .. | .createPlan .. | .createSubscription .. | .editPlans .. |
    .calculateBill .. | .handleWebhook .. | .runOnce .. | .advance .. => .isTrue trivial

variable {driver : Driver} {db : Database} {t₀ : DateTime} {s s' : Serial}

/-- **The type of an event** fits exactly if that of its request does. -/
theorem wellTyped_newEvent {usage : UsageRequest} {id : Uuid} {now : DateTime} :
    WellTyped (newEvent usage id now) ↔ OfItsEndpoint usage := by
  cases usage with
  | usage body =>
    have hpos := body.quantity_pos
    cases htype : body.usageType <;>
      simp [WellTyped, OfItsEndpoint, newEvent, UsageRequest.usageType, UsageRequest.quantity,
        UsageRequest.cachedInputTokens, UsageRequest.inputTokens, UsageRequest.outputTokens,
        UsageRequest.reasoningTokens, htype]
    omega
  | tokens body =>
    have hnonneg := body.tokens_nonneg
    have hsum := body.quantity_eq
    cases htype : body.usageType <;>
      simp only [WellTyped, OfItsEndpoint, newEvent, UsageRequest.usageType, UsageRequest.quantity,
        UsageRequest.cachedInputTokens, UsageRequest.inputTokens, UsageRequest.outputTokens,
        UsageRequest.reasoningTokens, htype]
    · simp only [reduceCtorEq, false_or]; omega
    · simpa using hsum

/-! ## What the rollup prices -/

/-- In a well-typed ledger the total of the tokens is the sum of the four categories. -/
theorem totalByType_tokens (htyped : ∀ e ∈ db.usageEvents, WellTyped e) {subscriptionId : Uuid}
    {start stop : Option DateTime} {cached fresh output reasoning : ℤ}
    (h : getTokenTotals db subscriptionId start stop = (cached, fresh, output, reasoning)) :
    getTotalByType db subscriptionId .tokens start stop =
      cached + fresh + output + reasoning := by
  simp only [getTokenTotals, Prod.mk.injEq] at h
  obtain ⟨rfl, rfl, rfl, rfl⟩ := h
  rw [← sumWhere_add, ← sumWhere_add, ← sumWhere_add, getTotalByType]
  refine sumWhere_congr fun e he hcounts => ?_
  have htype : e.usageType = .tokens := by
    simp only [countsTowardsType, Bool.and_eq_true, decide_eq_true_eq] at hcounts
    exact hcounts.1
  have hwell := htyped e he
  rw [WellTyped, htype] at hwell
  exact hwell

/-! ## Runs -/

/-- **The ledger is well typed** while every new request has the type of its endpoint. -/
theorem ledger_typed
    (hrun : Run (Serial.next driver) NewOfItsEndpoint (Serial.initial t₀) s) :
    (∀ e ∈ s.db.usageEvents, WellTyped e) ∧
    ∀ subscriptionId start stop rollup cached fresh output reasoning,
      CostService.rollup s.db subscriptionId start stop = .ok (some rollup) →
      getTokenTotals s.db subscriptionId (some start) (some stop) =
        (cached, fresh, output, reasoning) →
      rollup.usedTokens = cached + fresh + output + reasoning := by
  have htyped : ∀ e ∈ s.db.usageEvents, WellTyped e := by
    refine Serial.run_events ?_ hrun (by simp [Serial.initial, Database.empty])
    intro s usage _ _ _ _ hok hrec
    exact wellTyped_newEvent.mpr (hok hrec.fresh_key)
  refine ⟨htyped, fun sid start stop rollup cached fresh output reasoning hrollup htotals => ?_⟩
  rw [← totalByType_tokens htyped htotals]
  exact CostService.usedOf_rollup hrollup .tokens

/-- A subscription with a limit of 10 API calls and 10 tokens a month. -/
def setUp : List Op :=
  [.createTenant { name := "Acme", email := "billing@acme.test" } ⟨1⟩,
    .createPlan { name := "Pro", price := 4900, usageLimit := 10,
                  apiCallLimit := 10, tokensLimit := 10 } ⟨2⟩,
    .createSubscription { tenantId := ⟨1⟩, planId := ⟨2⟩ } Sample.firstOfJuly ⟨3⟩]

/-- A response of three input and two output tokens. -/
def fiveTokens (usageType : UsageType) : UsageRequest :=
  .tokens
    { subscriptionId := ⟨3⟩, usageType, idempotencyKey := "k", cachedInputTokens := 0
      inputTokens := 3, outputTokens := 2, reasoningTokens := 0, quantity := 5
      tokens_nonneg := by decide, quantity_eq := rfl }

/-- The response is metered as such. -/
def metered : Serial :=
  (execGuarded (Serial.next .stringsOnly) NewOfItsEndpoint (Serial.initial Sample.firstOfJuly)
    (setUp ++ [.recordUsage (fiveTokens .tokens) Sample.july Sample.july ⟨10⟩])).get (by decide)

theorem ledger_typed_five : ∃ rollup,
    metered.db.usageEvents = [newEvent (fiveTokens .tokens) ⟨10⟩ Sample.july] ∧
    CostService.rollup metered.db ⟨3⟩ Sample.firstOfJuly Sample.firstOfAugust =
      .ok (some rollup) ∧
    rollup.usedTokens = 0 + 3 + 2 + 0 := by
  have hstored : (SubscriptionRepository.getById metered.db ⟨3⟩).isSome := by decide
  obtain ⟨rollup, hrollup⟩ :=
    CostService.rollup_of_subscription hstored Sample.firstOfJuly Sample.firstOfAugust
  exact ⟨rollup, rfl, hrollup,
    (ledger_typed (Run.of_execGuarded_isSome _)).2 _ _ _ _ _ _ _ _ hrollup (by decide)⟩

/-- **The condition is needed.** -/
theorem mistyped_forever {ok : Serial → Op → Prop} {usage : UsageRequest} {t₁ t₂ : DateTime}
    {id : Uuid} (hbad : ¬ OfItsEndpoint usage)
    (hrec : UsageService.Recorded db usage t₁ t₂ id s.db)
    (hrun : Run (Serial.next driver) ok s s') : ¬ ∀ e ∈ s'.db.usageEvents, WellTyped e := by
  intro htyped
  have hmem : newEvent usage id t₂ ∈ s.db.usageEvents := by rw [hrec.tables]; simp
  exact hbad (wellTyped_newEvent.mp (htyped _ ((Serial.run_grows hrun).1.subset hmem)))

/-- Seven tokens without a breakdown. -/
def noBreakdown : UsageRequest :=
  .usage { subscriptionId := ⟨3⟩, quantity := 7, usageType := .tokens, idempotencyKey := "l"
           quantity_pos := by decide }

/-- Tokens sent to `/generate` under the API-call type, and tokens sent to `/usage`. -/
def mistyped : Serial :=
  (exec (Serial.next .stringsOnly) (Serial.initial Sample.firstOfJuly)
    (setUp ++ [.recordUsage (fiveTokens .apiCall) Sample.july Sample.july ⟨10⟩,
      .recordUsage noBreakdown Sample.july Sample.july ⟨11⟩])).get (by decide)

/-- The caller chooses the type: three input tokens are stored with API calls, and the
    rollup counts seven tokens and prices none. -/
theorem caller_chooses_type :
    Run (Serial.next .stringsOnly) Always (Serial.initial Sample.firstOfJuly) mistyped ∧
    (∃ e ∈ mistyped.db.usageEvents, e.usageType = .apiCall ∧ e.inputTokens = 3) ∧
    (∃ e ∈ mistyped.db.usageEvents, e.usageType = .tokens ∧ e.quantity = 7 ∧
      e.cachedInputTokens + e.inputTokens + e.outputTokens + e.reasoningTokens = 0) ∧
    ∃ rollup, CostService.rollup mistyped.db ⟨3⟩ Sample.firstOfJuly Sample.firstOfAugust =
        .ok (some rollup) ∧
      rollup.usedTokens = 7 ∧
      getTokenTotals mistyped.db ⟨3⟩ (some Sample.firstOfJuly) (some Sample.firstOfAugust) =
        (0, 0, 0, 0) := by
  have hstored : (SubscriptionRepository.getById mistyped.db ⟨3⟩).isSome := by decide
  obtain ⟨rollup, hrollup⟩ :=
    CostService.rollup_of_subscription hstored Sample.firstOfJuly Sample.firstOfAugust
  exact ⟨Run.of_exec_isSome _, by decide, by decide, rollup, hrollup,
    (CostService.usedOf_rollup hrollup .tokens).trans (by decide), by decide⟩

end Typing

end BillingEngine
