import BillingEngine.Metering.Replay
import BillingEngine.Pricing.Blocks

/-!
# Rolled-up and quoted costs

`generate` rounds each event up to whole blocks, `rollup` adds the tokens first
and rounds the totals. A split of a count into events saves no block and costs at
most one more for each event after the first, in each of the three buckets.

Results:
* `splitsUp_blocks`, `blocks_mono`: the blocks of a sum and of the summands.
* `rollup_cost_bounds`: the rolled-up cost of a period against the quoted costs.
-/

namespace BillingEngine

open Rounding Ledger CostService UsageRepository GenerateService

namespace Pricing

/-! ## Blocks of a sum -/

theorem splitsUp_blocks : SplitsUp blocks (2 ^ 54) := by
  intro x y hx hy hsum
  rw [blocks_eq hx (by omega), blocks_eq hy (by omega), blocks_eq (by omega) hsum]
  unfold integerBlocks LosesBlock
  constructor <;> split_ifs <;> omega

theorem blocks_mono {x y : ℤ} (hx : 0 ≤ x) (h : x ≤ y) : blocks x ≤ blocks y := by
  have hdiv : (x : ℚ) / 1000 ≤ y / 1000 :=
    div_le_div_of_nonneg_right (Int.cast_le.mpr h) (by norm_num)
  have hnonneg : (0 : ℚ) ≤ x / 1000 := div_nonneg (Int.cast_nonneg hx) (by norm_num)
  exact Int.ceil_mono (roundToBits_mono (by norm_num) hnonneg hdiv)

/-! ## The events of the period -/

/-- A call of `generate` recorded the event and returned this cost. -/
def RecordedFor (event : UsageEvent) (costMicro : ℤ) : Prop :=
  ∃ db request nowBounds nowInsert id response,
    (generate db request nowBounds nowInsert id).2 = .ok response ∧
    (generate db request nowBounds nowInsert id).1.usageEvents = db.usageEvents ++ [event] ∧
    response.costMicro = costMicro

/-- The rows of `usage_events` in the period. -/
def periodEvents (db : Database) (subscriptionId : Uuid) (start stop : DateTime) :
    List UsageEvent :=
  db.usageEvents.filter (countsTowards subscriptionId (some start) (some stop))

/-- The period has `TOKENS` events only, all of them recorded through `generate`. -/
structure Generated (events : List UsageEvent) (quoted : UsageEvent → ℤ) : Prop where
  tokens : ∀ e ∈ events, e.usageType = .tokens
  recorded : ∀ e ∈ events, RecordedFor e (quoted e)

/-- The columns that are summed. -/
structure CountsTokens (e : UsageEvent) : Prop where
  cached : 0 ≤ e.cachedInputTokens
  input : 0 ≤ e.inputTokens
  output : 0 ≤ e.outputTokens
  reasoning : 0 ≤ e.reasoningTokens

theorem countsTokens_newEvent (usage : UsageRequest) (id : Uuid) (now : DateTime) :
    CountsTokens (newEvent usage id now) := by
  obtain ⟨hcached, hinput, houtput, hreasoning⟩ := usage.tokens_le_quantity
  exact ⟨hcached.1, hinput.1, houtput.1, hreasoning.1⟩

/-- A quoted cost is that of the stored breakdown. -/
theorem RecordedFor.spec {event : UsageEvent} {costMicro : ℤ} (h : RecordedFor event costMicro) :
    costMicro = costOf event ∧ CountsTokens event := by
  obtain ⟨db, request, nowBounds, nowInsert, id, response, hanswer, hstored, rfl⟩ := h
  obtain ⟨returned, hreturned, rfl⟩ := Replay.generate_eq_ok hanswer
  rw [generate_fst] at hstored
  rcases UsageService.recordUsage_effect db (.tokens request) nowBounds nowInsert id with
    hsame | ⟨hrec, hresult⟩
  · rw [hsame] at hstored
    exact absurd hstored (by simp)
  · rw [hreturned] at hresult
    cases hresult
    rw [hrec.tables, List.append_cancel_left_eq] at hstored
    cases hstored
    exact ⟨rfl, countsTokens_newEvent _ _ _⟩

section Totals

variable {db : Database} {subscriptionId : Uuid} {start stop : DateTime}
  {quoted : UsageEvent → ℤ}

/-- Where all events are of one type, the query by type sums all of them. -/
theorem sumWhere_tokens (htokens : ∀ e ∈ periodEvents db subscriptionId start stop,
    e.usageType = .tokens) (column : UsageEvent → ℤ) :
    sumWhere (countsTowardsType subscriptionId .tokens (some start) (some stop)) column
      db.usageEvents = ((periodEvents db subscriptionId start stop).map column).sum := by
  refine congrArg (fun l => (l.map column).sum) (List.filter_congr fun e he => ?_)
  by_cases hcounts : countsTowards subscriptionId (some start) (some stop) e = true
  · rw [countsTowardsType, hcounts, htokens e (List.mem_filter.mpr ⟨he, hcounts⟩)]
    rfl
  · simp [countsTowardsType, hcounts]

theorem getTotalByType_apiCall (htokens : ∀ e ∈ periodEvents db subscriptionId start stop,
    e.usageType = .tokens) :
    getTotalByType db subscriptionId .apiCall (some start) (some stop) = 0 := by
  refine sumWhere_eq_zero fun e he => ?_
  by_cases hcounts : countsTowards subscriptionId (some start) (some stop) e = true
  · rw [countsTowardsType, htokens e (List.mem_filter.mpr ⟨he, hcounts⟩)]
    rfl
  · simp [countsTowardsType, hcounts]

/-! ## One bucket -/

variable {events : List UsageEvent}

/-- The blocks of the total of a bucket, against those of its events. -/
theorem bucket_bounds (hn : 1 ≤ events.length) {column : UsageEvent → ℤ}
    (hnonneg : ∀ e ∈ events, 0 ≤ column e) (hbound : (events.map column).sum ≤ 2 ^ 54) :
    blocks (events.map column).sum ≤ (events.map fun e => blocks (column e)).sum ∧
      (events.map fun e => blocks (column e)).sum ≤
        blocks (events.map column).sum + (events.length - 1) := by
  have hne : events.map column ≠ [] := by
    rw [ne_eq, List.map_eq_nil_iff, ← List.length_eq_zero_iff]
    omega
  have hbounds := splitsUp_blocks.sum_bounds hne (List.forall_mem_map.mpr hnonneg) hbound
  rwa [List.map_map, List.length_map] at hbounds

theorem sum_costOf (events : List UsageEvent) : (events.map costOf).sum =
    (events.map fun e => blocks e.cachedInputTokens).sum * 1000 +
      (events.map fun e => blocks e.inputTokens).sum * 3000 +
      (events.map fun e => blocks (e.outputTokens + e.reasoningTokens)).sum * 6000 := by
  rw [← List.sum_map_mul_right, ← List.sum_map_mul_right, ← List.sum_map_mul_right,
    ← List.sum_map_add, ← List.sum_map_add]
  exact congrArg List.sum (List.map_congr_left fun e _ => by
    rw [costOf, calculateTokenCost, RATES_eq])

theorem calculateTokenCost_bounds (hn : 1 ≤ events.length) (hcounts : ∀ e ∈ events, CountsTokens e)
    {cached fresh output reasoning : ℤ}
    (hcached : (events.map UsageEvent.cachedInputTokens).sum = cached)
    (hfresh : (events.map UsageEvent.inputTokens).sum = fresh)
    (houtput : (events.map UsageEvent.outputTokens).sum = output)
    (hreasoning : (events.map UsageEvent.reasoningTokens).sum = reasoning)
    (hbound : cached ≤ 2 ^ 53 ∧ fresh ≤ 2 ^ 53 ∧ output ≤ 2 ^ 53 ∧ reasoning ≤ 2 ^ 53) :
    calculateTokenCost cached fresh output reasoning ≤ (events.map costOf).sum ∧
      (events.map costOf).sum ≤ calculateTokenCost cached fresh output reasoning +
        (events.length - 1) * (RATES.cachedInputPer1k + RATES.inputPer1k + RATES.outputPer1k) := by
  have hmerged : (events.map fun e => e.outputTokens + e.reasoningTokens).sum =
      output + reasoning := by
    rw [List.sum_map_add, houtput, hreasoning]
  obtain ⟨hboundCached, hboundFresh, hboundOutput, hboundReasoning⟩ := hbound
  obtain ⟨hcached₁, hcached₂⟩ := bucket_bounds hn (fun e he => (hcounts e he).cached)
    (by rw [hcached]; omega)
  obtain ⟨hfresh₁, hfresh₂⟩ := bucket_bounds hn (fun e he => (hcounts e he).input)
    (by rw [hfresh]; omega)
  obtain ⟨houtput₁, houtput₂⟩ := bucket_bounds hn
    (fun e he => add_nonneg (hcounts e he).output (hcounts e he).reasoning)
    (by rw [hmerged]; omega)
  rw [hcached] at hcached₁ hcached₂
  rw [hfresh] at hfresh₁ hfresh₂
  rw [hmerged] at houtput₁ houtput₂
  rw [sum_costOf, calculateTokenCost, RATES_eq]
  dsimp only
  constructor <;> linarith

/-! ## One more event -/

theorem calculateTokenCost_mono {cached fresh output reasoning : ℤ}
    {cached' fresh' output' reasoning' : ℤ}
    (hcached : 0 ≤ cached ∧ cached ≤ cached') (hfresh : 0 ≤ fresh ∧ fresh ≤ fresh')
    (houtput : 0 ≤ output ∧ output ≤ output')
    (hreasoning : 0 ≤ reasoning ∧ reasoning ≤ reasoning') :
    calculateTokenCost cached fresh output reasoning ≤
      calculateTokenCost cached' fresh' output' reasoning' := by
  have hblocks₁ := blocks_mono hcached.1 hcached.2
  have hblocks₂ := blocks_mono hfresh.1 hfresh.2
  have hblocks₃ : blocks (output + reasoning) ≤ blocks (output' + reasoning') :=
    blocks_mono (add_nonneg houtput.1 hreasoning.1) (add_le_add houtput.2 hreasoning.2)
  rw [calculateTokenCost, calculateTokenCost, RATES_eq]
  dsimp only
  linarith

/-- What `record_usage` appends never lowers the cost of a rollup. -/
theorem costMicro_recordUsage_mono {usage : UsageRequest} {nowBounds nowInsert : DateTime}
    {id : Uuid} {figures figures' : UsageRollupResponse}
    (htokens : ∀ e ∈ periodEvents db subscriptionId start stop, e.usageType = .tokens)
    (hcounts : ∀ e ∈ periodEvents db subscriptionId start stop, CountsTokens e)
    (h : rollup db subscriptionId start stop = .ok (some figures))
    (h' : rollup (UsageService.recordUsage db usage nowBounds nowInsert id).1 subscriptionId
      start stop = .ok (some figures')) :
    figures.costMicro ≤ figures'.costMicro := by
  rcases UsageService.recordUsage_effect db usage nowBounds nowInsert id with
    hsame | ⟨hrec, -⟩
  · rw [hsame, h] at h'
    cases h'
    exact le_rfl
  · -- every sum of the rollup is at least the one before
    have hnew := countsTokens_newEvent usage id nowInsert
    have hgrows : ∀ {p : UsageEvent → Bool} {column : UsageEvent → ℤ},
        0 ≤ column (newEvent usage id nowInsert) → sumWhere p column db.usageEvents ≤
          sumWhere p column (UsageService.recordUsage db usage nowBounds nowInsert id).1.usageEvents
        := fun hcolumn => by
      rw [hrec.tables]
      exact sumWhere_le_concat _ _ hcolumn
    have hnonneg : ∀ {column : UsageEvent → ℤ}, (∀ e, CountsTokens e → 0 ≤ column e) →
        0 ≤ sumWhere (countsTowardsType subscriptionId .tokens (some start) (some stop)) column
          db.usageEvents := fun hcolumn => by
      rw [sumWhere_tokens htokens]
      exact List.sum_nonneg (List.forall_mem_map.mpr fun e he => hcolumn e (hcounts e he))
    have hcalls := getTotalByType_apiCall htokens
    have hcallsGrow : getTotalByType db subscriptionId .apiCall (some start) (some stop) ≤ _ :=
      hgrows usage.quantity_nonneg
    have hapi := blocks_mono hcalls.ge hcallsGrow
    rw [costMicro_rollup h rfl, costMicro_rollup h' rfl, calculateApiCallCost,
      calculateApiCallCost, RATES_eq]
    refine add_le_add (mul_le_mul_of_nonneg_right hapi (by norm_num))
      (calculateTokenCost_mono ⟨hnonneg fun e he => he.cached, hgrows hnew.cached⟩
        ⟨hnonneg fun e he => he.input, hgrows hnew.input⟩
        ⟨hnonneg fun e he => he.output, hgrows hnew.output⟩
        ⟨hnonneg fun e he => he.reasoning, hgrows hnew.reasoning⟩)

/-! ## The rollup -/

/-- **Rolled-up against quoted costs.** The cost of a period of `n` generated events is
    at most the sum of what `generate` returned for them, and less than that by at
    most one block of each bucket for each event after the first. No further call of
    `record_usage`, so none of `generate` either, lowers it. -/
theorem rollup_cost_bounds {figures : UsageRollupResponse} {cached fresh output reasoning : ℤ}
    (hn : 1 ≤ (periodEvents db subscriptionId start stop).length)
    (hgenerated : Generated (periodEvents db subscriptionId start stop) quoted)
    (htotals : getTokenTotals db subscriptionId (some start) (some stop) =
      (cached, fresh, output, reasoning))
    (hbound : cached ≤ 2 ^ 53 ∧ fresh ≤ 2 ^ 53 ∧ output ≤ 2 ^ 53 ∧ reasoning ≤ 2 ^ 53)
    (h : rollup db subscriptionId start stop = .ok (some figures)) :
    let events := periodEvents db subscriptionId start stop
    figures.costMicro ≤ (events.map quoted).sum ∧
    (events.map quoted).sum ≤ figures.costMicro +
      (events.length - 1) * (RATES.cachedInputPer1k + RATES.inputPer1k + RATES.outputPer1k) ∧
    ∀ usage nowBounds nowInsert id figures',
      rollup (UsageService.recordUsage db usage nowBounds nowInsert id).1 subscriptionId start
        stop = .ok (some figures') → figures.costMicro ≤ figures'.costMicro := by
  intro events
  have hcounts : ∀ e ∈ events, CountsTokens e := fun e he => (hgenerated.recorded e he).spec.2
  have hquoted : events.map quoted = events.map costOf :=
    List.map_congr_left fun e he => (hgenerated.recorded e he).spec.1
  have hcost : figures.costMicro = calculateTokenCost cached fresh output reasoning := by
    rw [costMicro_rollup h htotals, getTotalByType_apiCall hgenerated.tokens, calculateApiCallCost,
      blocks_zero, zero_mul, zero_add]
  simp only [getTokenTotals, Prod.mk.injEq, sumWhere_tokens hgenerated.tokens] at htotals
  obtain ⟨hcached, hfresh, houtput, hreasoning⟩ := htotals
  obtain ⟨hlower, hupper⟩ :=
    calculateTokenCost_bounds hn hcounts hcached hfresh houtput hreasoning hbound
  rw [hquoted, hcost]
  refine ⟨hlower, hupper, fun usage nowBounds nowInsert id figures' h' => ?_⟩
  rw [← hcost]
  exact costMicro_recordUsage_mono hgenerated.tokens hcounts h h'

end Totals

/-- One token of output. -/
def oneToken (idempotencyKey : String) : TokenUsageCreate where
  subscriptionId := ⟨3⟩
  idempotencyKey := idempotencyKey
  cachedInputTokens := 0
  inputTokens := 0
  outputTokens := 1
  reasoningTokens := 0
  quantity := 1
  tokens_nonneg := by decide
  quantity_eq := by decide

/-- The first response of July, and the second. -/
def once : Database := (generate Sample.db (oneToken "k") Sample.july Sample.july ⟨10⟩).1

def twice : Database := (generate once (oneToken "l") Sample.july Sample.july ⟨11⟩).1

theorem generated_twice :
    Generated (periodEvents twice ⟨3⟩ Sample.firstOfJuly Sample.firstOfAugust) costOf := by
  have hevents : periodEvents twice ⟨3⟩ Sample.firstOfJuly Sample.firstOfAugust =
      [newEvent (.tokens (oneToken "k")) ⟨10⟩ Sample.july,
        newEvent (.tokens (oneToken "l")) ⟨11⟩ Sample.july] := by decide
  rw [hevents]
  constructor
  · decide
  · simp only [List.forall_mem_cons]
    exact ⟨⟨Sample.db, oneToken "k", Sample.july, Sample.july, ⟨10⟩, _, rfl, rfl, rfl⟩,
      ⟨once, oneToken "l", Sample.july, Sample.july, ⟨11⟩, _, rfl, rfl, rfl⟩, by simp⟩

/-- Two blocks are quoted, and one is rolled up. -/
theorem rollup_cost_bounds_twice :
    ∃ figures, rollup twice ⟨3⟩ Sample.firstOfJuly Sample.firstOfAugust = .ok (some figures) ∧
      figures.costMicro ≤ 12000 ∧ 12000 ≤ figures.costMicro + 10000 := by
  obtain ⟨hlower, hupper, -⟩ :=
    rollup_cost_bounds (by decide) generated_twice rfl (by decide) rfl
  exact ⟨_, rfl, hlower.trans (by decide +kernel),
    hupper.trans' (by decide +kernel) |>.trans (by decide +kernel)⟩

end Pricing

end BillingEngine
