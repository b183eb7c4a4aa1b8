import BillingEngine.Metering.MonthlyQuota

/-!
# The monthly quota bounds the bill

Metering and billing count differently: `record_usage` compares the total of one
usage type with the limit of that type, `calculate_bill` compares the total over
all types with `usage_limit`. But the billed total is the sum of the totals by
type, so while a subscription stays on one plan the limits by type bound what the
plan can charge for.

Results:
* `kept_step`, `run_kept`: in every month the total of each type is within its
  limit.
* `quota_bounds_bill`: so every invoice is within both limits together.
* `quota_bounds_monthBill`: and so is a bill that is asked for an explicit month.
-/

namespace BillingEngine

open Runs Ledger UsageRepository SubscriptionRepository

namespace QuotaBound

/-- The subscription is on the plan, where it exists, and no plan row is edited. -/
def StaysOn (subscriptionId planId : Uuid) (s : Serial) (op : Op) : Prop :=
  op.editsPlans = false ∧ ∀ row ∈ s.db.subscriptions, row.id = subscriptionId → row.planId = planId

instance (subscriptionId planId : Uuid) (s : Serial) (op : Op) :
    Decidable (StaysOn subscriptionId planId s op) := inferInstanceAs (Decidable (_ ∧ _))

/-- What the two limits of the plan admit in a month. -/
def admitted (plan : Plan) : ℤ := max plan.apiCallLimit 0 + max plan.tokensLimit 0

variable {driver : Driver} {subscriptionId planId : Uuid} {s s' : Serial} {op : Op}

/-! ## The quota of every month -/

/-- In every month the total of each type is within the limit of the plan, or
    there is none. -/
structure Kept (subscriptionId planId : Uuid) (s : Serial) : Prop where
  chronicle : MonthlyQuota.Chronicle s
  within : ∀ usageType t, monthTotal s.db subscriptionId usageType t ≤ 0 ∨
    ∃ plan ∈ s.db.plans, plan.id = planId ∧
      monthTotal s.db subscriptionId usageType t ≤ UsageService.limitFor plan usageType

theorem kept_of_empty (hempty : s.db.usageEvents = []) : Kept subscriptionId planId s where
  chronicle := by intro e he; rw [hempty] at he; cases he
  within usageType t := .inl (by rw [monthTotal, hempty, sumWhere_nil])

/-- A call that records keeps the quota: the total of the event's month is within
    the limit it has read, and the other totals are as before. -/
theorem kept_recorded {usage : UsageRequest} {t₁ t₂ : DateTime} {id : Uuid} {db' : Database}
    (hs : Kept subscriptionId planId s) (hclock : s.clock ≤ t₁) (hlater : t₁ ≤ t₂)
    (hplan : ∀ row ∈ s.db.subscriptions, row.id = subscriptionId → row.planId = planId)
    (hrec : UsageService.Recorded s.db usage t₁ t₂ id db') (usageType : UsageType) (t : DateTime) :
    monthTotal db' subscriptionId usageType t ≤ 0 ∨
      ∃ plan ∈ s.db.plans, plan.id = planId ∧
        monthTotal db' subscriptionId usageType t ≤ UsageService.limitFor plan usageType := by
  have hevents : db'.usageEvents = s.db.usageEvents ++ [newEvent usage id t₂] := by
    rw [hrec.tables]
  by_cases hcounts : inMonthOf subscriptionId usageType t (newEvent usage id t₂) = true
  · obtain ⟨rfl, rfl, hmonth⟩ := MonthlyQuota.inMonthOf_iff.mp hcounts
    obtain ⟨subscription, plan, start, stop, hsub, -, hbounds, hfound, hquota⟩ := hrec.within
    obtain ⟨hmem, hid⟩ := Rows.find?_mem hfound
    obtain ⟨hrow, hrowId⟩ := getById_eq_some_iff.mp hsub
    have hpast : ∀ e ∈ s.db.usageEvents, 0 ≤ e.quantity ∧ e.createdAt ≤ t₁ := fun e he =>
      (hs.chronicle e he).imp_right fun hle => hle.trans hclock
    refine .inr ⟨plan, hmem, hid.trans (hplan subscription hrow hrowId), ?_⟩
    calc monthTotal db' usage.subscriptionId usage.usageType t
        = monthTotal db' usage.subscriptionId usage.usageType t₂ :=
          (MonthlyQuota.monthTotal_congr db' hmonth).symm
      _ ≤ getTotalByType s.db usage.subscriptionId usage.usageType (some start) (some stop) +
            usage.quantity := MonthlyQuota.monthTotal_le_checked hpast hlater hbounds hevents
      _ ≤ UsageService.limitFor plan usage.usageType := hquota
  · rw [MonthlyQuota.monthTotal_concat hevents, if_neg hcounts, add_zero]
    exact hs.within usageType t

theorem kept_step (hs : Kept subscriptionId planId s) (hok : StaysOn subscriptionId planId s op)
    (hnext : Serial.next driver s op = some s') : Kept subscriptionId planId s' := by
  refine ⟨MonthlyQuota.chronicle_step hs.chronicle hnext, fun usageType t => ?_⟩
  obtain ⟨hclock, hdb⟩ := Serial.next_eq_some.mp hnext
  have hplans : s.db.plans <+: s'.db.plans := hdb ▸ Op.apply_plans driver s.db hok.1
  have hwithin : monthTotal s'.db subscriptionId usageType t ≤ 0 ∨
      ∃ plan ∈ s.db.plans, plan.id = planId ∧
        monthTotal s'.db subscriptionId usageType t ≤ UsageService.limitFor plan usageType := by
    rw [hdb]
    rcases Op.apply_cases driver s.db op with
      ⟨usage, t₁, t₂, id, rfl, hrec⟩ | ⟨_, _, _, _, _, -, hbilled⟩ | hkeep
    · obtain ⟨hle, hlater, -⟩ := Serial.readClock_pair hclock
      exact kept_recorded hs hle hlater hok.2 hrec usageType t
    · rw [monthTotal, hbilled.tables]; exact hs.within usageType t
    · rw [monthTotal, hkeep.usageEvents]; exact hs.within usageType t
  rcases hwithin with hnone | ⟨plan, hmem, hrest⟩
  · exact .inl hnone
  · exact .inr ⟨plan, hplans.subset hmem, hrest⟩

theorem run_kept (hempty : s.db.usageEvents = [])
    (hrun : Run (Serial.next driver) (StaysOn subscriptionId planId) s s') :
    Kept subscriptionId planId s' :=
  hrun.invariant (fun _ _ _ hs hok hnext => kept_step hs hok hnext) (kept_of_empty hempty)

theorem run_plans (hrun : Run (Serial.next driver) (StaysOn subscriptionId planId) s s') :
    s.db.plans <+: s'.db.plans :=
  Serial.run_appends (fun db => db.plans) (fun s _ hok => Op.apply_plans driver s.db hok.1) hrun

/-! ## The bill -/

/-- What a call of `calculate_bill` sums up is within both limits. -/
theorem getTotalUsage_le_admitted {plan : Plan} {t start stop : DateTime}
    (hs : Kept subscriptionId planId s) (hmem : plan ∈ s.db.plans) (hid : plan.id = planId)
    (hbounds : monthBounds t = .ok (start, stop)) :
    getTotalUsage s.db subscriptionId (some start) (some stop) ≤ admitted plan := by
  have htype : ∀ usageType, getTotalByType s.db subscriptionId usageType (some start) (some stop) ≤
      max (UsageService.limitFor plan usageType) 0 := by
    intro usageType
    rw [← MonthlyQuota.monthTotal_eq_getTotalByType hbounds]
    rcases hs.within usageType t with h | ⟨plan', hmem', hid', h⟩
    · exact h.trans (le_max_right _ _)
    · -- there is one plan with the key
      rw [Rows.eq_of_unique s.db.constraints.plans_pkey hmem hmem' (hid.trans hid'.symm)]
      exact h.trans (le_max_left _ _)
  rw [getTotalUsage_eq_types]
  exact add_le_add (htype .apiCall) (htype .tokens)

/-! ### The amount -/

section Amount

open BillingService

variable {total bound limit price : ℤ}

theorem overageOf_eq_zero (h : total ≤ limit) : overageOf total limit = 0 := by
  simp only [overageOf]; omega

theorem amountDueOf_zero : amountDueOf price 0 = price := by
  rw [amountDueOf, zero_mul, add_zero]

theorem le_amountDueOf : price ≤ amountDueOf price (overageOf total limit) := by
  simp only [amountDueOf, overageOf, overagePrice]; omega

theorem amountDueOf_le (h : total ≤ bound) : amountDueOf price (overageOf total limit) ≤
    price + overagePrice * max (bound - limit) 0 := by
  simp only [amountDueOf, overageOf, overagePrice]; omega

end Amount

/-- The bounds of an invoice of the plan. -/
def Bounded (plan : Plan) (invoice : Invoice) : Prop :=
  invoice.planPrice = plan.price ∧
    invoice.totalUsage ≤ admitted plan ∧
    plan.price ≤ invoice.amountDue ∧
    invoice.amountDue ≤
      plan.price + BillingService.overagePrice * max (admitted plan - plan.usageLimit) 0 ∧
    (0 ≤ plan.apiCallLimit → 0 ≤ plan.tokensLimit →
      plan.apiCallLimit + plan.tokensLimit ≤ plan.usageLimit →
      invoice.overage = 0 ∧ invoice.amountDue = plan.price)

/-- A bill for a calendar month, whether the month is given or read from the clock. -/
theorem bounded_of_billed {periodStart periodEnd : Option DateTime} {t t₁ t₂ start stop : DateTime}
    {id : Uuid} {db' : Database} {invoice : Invoice} (hs : Kept subscriptionId planId s)
    (hplan : ∀ row ∈ s.db.subscriptions, row.id = subscriptionId → row.planId = planId)
    (hperiod : BillingService.billedPeriod periodStart periodEnd t₁ = .ok (start, stop))
    (hmonth : monthBounds t = .ok (start, stop))
    (hbilled : BillingService.Billed s.db subscriptionId periodStart periodEnd t₁ t₂ id db'
      invoice) :
    ∃ plan ∈ s.db.plans, plan.id = planId ∧ Bounded plan invoice := by
  obtain ⟨subscription, plan, start', stop', hsub, hfound, hperiod', -, rfl⟩ := hbilled.computed
  rw [hperiod] at hperiod'
  cases hperiod'
  obtain ⟨hrow, rfl⟩ := getById_eq_some_iff.mp hsub
  obtain ⟨hmem, hid⟩ := Rows.find?_mem hfound
  replace hid : plan.id = planId := hid.trans (hplan subscription hrow rfl)
  have htotal := getTotalUsage_le_admitted hs hmem hid hmonth
  refine ⟨plan, hmem, hid, rfl, htotal, le_amountDueOf, amountDueOf_le htotal,
    fun hcalls htokens hcovered => ?_⟩
  have hle : admitted plan ≤ plan.usageLimit := by
    rwa [admitted, max_eq_left hcalls, max_eq_left htokens]
  have hzero := overageOf_eq_zero (htotal.trans hle)
  exact ⟨hzero, (congrArg (BillingService.amountDueOf plan.price) hzero).trans amountDueOf_zero⟩

/-- **The quota bounds the bill.** Of a subscription that stays on one plan, from
    an empty ledger on, no invoice has more usage than the two limits admit, and
    overage is charged at most for what they admit beyond the plan's `usage_limit`:
    for nothing, if that covers them. -/
theorem quota_bounds_bill {invoice : Invoice} (hempty : s.db.usageEvents = [])
    (hrun : Run (Serial.next driver) (StaysOn subscriptionId planId) s s')
    (hold : invoice ∉ s.db.invoices) (hmem : invoice ∈ s'.db.invoices)
    (hsid : invoice.subscriptionId = subscriptionId) :
    ∃ plan ∈ s'.db.plans, plan.id = planId ∧ invoice.planPrice = plan.price ∧
      invoice.totalUsage ≤ admitted plan ∧
      plan.price ≤ invoice.amountDue ∧
      invoice.amountDue ≤
        plan.price + BillingService.overagePrice * max (admitted plan - plan.usageLimit) 0 ∧
      (0 ≤ plan.apiCallLimit → 0 ≤ plan.tokensLimit →
        plan.apiCallLimit + plan.tokensLimit ≤ plan.usageLimit →
        invoice.overage = 0 ∧ invoice.amountDue = plan.price) := by
  obtain ⟨s₁, s₂, sid, t₁, t₂, id, hbefore, hok, hnext, hafter, -, hbilled⟩ :=
    Serial.exists_billed hrun hold hmem
  obtain ⟨subscription, _, start, stop, hsub, -, hmonth, -, rfl⟩ := hbilled.computed
  obtain rfl : sid = subscriptionId := (getById_eq_some_iff.mp hsub).2.symm.trans hsid
  have hplans := run_plans ((Run.single hok hnext).trans hafter)
  obtain ⟨plan, hplan, hid, hbounded⟩ :=
    bounded_of_billed (run_kept hempty hbefore) hok.2 hmonth hmonth hbilled
  exact ⟨plan, hplans.subset hplan, hid, hbounded⟩

/-- **A bill for an explicit month**, at any point of such a run. -/
theorem quota_bounds_monthBill {t t₁ t₂ start stop : DateTime} {id : Uuid} {db' : Database}
    {invoice : Invoice} (hempty : s.db.usageEvents = [])
    (hrun : Run (Serial.next driver) (StaysOn subscriptionId planId) s s')
    (hplan : ∀ row ∈ s'.db.subscriptions, row.id = subscriptionId → row.planId = planId)
    (hmonth : monthBounds t = .ok (start, stop))
    (hbilled : BillingService.Billed s'.db subscriptionId (some start) (some stop) t₁ t₂ id db'
      invoice) :
    ∃ plan ∈ s'.db.plans, plan.id = planId ∧ Bounded plan invoice :=
  bounded_of_billed (run_kept hempty hrun) hplan rfl hmonth hbilled

/-! ## A month with overage -/

def fourTokens : TokenUsageCreate where
  subscriptionId := ⟨3⟩
  idempotencyKey := "l"
  cachedInputTokens := 0
  inputTokens := 3
  outputTokens := 1
  reasoningTokens := 0
  quantity := 4
  tokens_nonneg := by decide
  quantity_eq := by decide

/-- A plan that admits ten calls and five tokens but includes ten units: ten calls
    and four tokens are used and billed. -/
def fourOver : List Op :=
  [.createTenant { name := "Acme", email := "billing@acme.test" } ⟨1⟩,
    .createPlan { name := "Pro", price := 4900, usageLimit := 10, apiCallLimit := 10,
                  tokensLimit := 5 } ⟨2⟩,
    .createSubscription { tenantId := ⟨1⟩, planId := ⟨2⟩ } Sample.firstOfJuly ⟨3⟩,
    .recordUsage (Sample.tenCalls "k") Sample.july Sample.july ⟨10⟩,
    .recordUsage (.tokens fourTokens) Sample.july Sample.july ⟨11⟩,
    .calculateBill ⟨3⟩ Sample.july Sample.july ⟨12⟩]

def overrun : Serial :=
  (execGuarded (Serial.next .stringsOnly) (StaysOn ⟨3⟩ ⟨2⟩) (Serial.initial Sample.firstOfJuly)
    fourOver).get (by decide)

theorem quota_bounds_bill_overrun : ∃ invoice ∈ overrun.db.invoices,
    invoice.totalUsage = 14 ∧ invoice.overage = 4 ∧ invoice.amountDue = 4940 ∧
    ∃ plan ∈ overrun.db.plans, admitted plan = 15 ∧ invoice.totalUsage ≤ admitted plan ∧
      invoice.amountDue ≤
        plan.price + BillingService.overagePrice * max (admitted plan - plan.usageLimit) 0 := by
  have hinvoice : overrun.db.invoices.head (by decide) ∈ overrun.db.invoices := List.head_mem _
  have hrun : Run (Serial.next .stringsOnly) (StaysOn ⟨3⟩ ⟨2⟩) (Serial.initial Sample.firstOfJuly)
      overrun := Run.of_execGuarded_isSome _
  obtain ⟨plan, hplan, -, -, htotal, -, hdue, -⟩ :=
    quota_bounds_bill rfl hrun (by simp [Serial.initial, Database.empty]) hinvoice (by decide)
  have honly : ∀ plan ∈ overrun.db.plans, admitted plan = 15 := by decide
  exact ⟨_, hinvoice, by decide, by decide, by decide, plan, hplan, honly plan hplan, htotal, hdue⟩

end QuotaBound

end BillingEngine
