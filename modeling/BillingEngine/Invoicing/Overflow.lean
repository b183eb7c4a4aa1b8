import BillingEngine.Invoicing.QuotaBound
import BillingEngine.Metering.Decision

/-!
# Overflow of the invoice columns

The figures of an invoice are stored in `INTEGER` columns. Each limit of a plan
fits such a column, but the billed total is up to the sum of both limits, and the
amount is ten times the overage: nothing in the schema of a plan keeps these in
range. The figures grow with the total, and a month in which both limits are used
up has the largest one. So a plan is safe exactly if the figures of that month fit.

Results:
* `figuresFit_iff`: only the total and the amount can leave the range.
* `figuresFit_mono`: what fits for a total fits for a smaller one.
* `exists_full_month`: both limits can be used up in one month.
* `neverOverflows_iff`: which plans can be billed in every run.
* `large_quota_overflows`: a plan that cannot.
-/

namespace BillingEngine

open Runs Ledger UsageRepository SubscriptionRepository BillingService QuotaBound

namespace Overflow

/-- The figures that `calculate_bill` computes from a total fit their columns. -/
structure FiguresFit (plan : Plan) (total : ℤ) : Prop where
  totalUsage : inInteger total
  overage : inInteger (overageOf total plan.usageLimit)
  amountDue : inInteger (amountDueOf plan.price (overageOf total plan.usageLimit))

/-- What both limits admit can be billed. -/
def Covers (plan : Plan) : Prop :=
  admitted plan ≤ 2147483647 ∧
    plan.price + overagePrice * max (admitted plan - plan.usageLimit) 0 ≤ 2147483647

/-- No bill of the subscription fails for range, in any run in which it stays on the
    plan. -/
def NeverOverflows (driver : Driver) (s : Serial) (subscriptionId : Uuid) (plan : Plan) : Prop :=
  ∀ s' t₁ t₂ id start stop, Run (Serial.next driver) (StaysOn subscriptionId plan.id) s s' →
    StaysOn subscriptionId plan.id s' (.calculateBill subscriptionId t₁ t₂ id) →
    monthBounds t₁ = .ok (start, stop) →
    FiguresFit plan (getTotalUsage s'.db subscriptionId (some start) (some stop)) ∧
      (calculateBill s'.db subscriptionId none none t₁ t₂ id).2 ≠ .error .dataError

variable {plan : Plan} {total total' : ℤ}

/-! ## The figures -/

/-- A price and a limit that fit leave two bounds to check. -/
theorem figuresFit_iff (hplan : plan.Fits) (hnonneg : 0 ≤ total) :
    FiguresFit plan total ↔ total ≤ 2147483647 ∧
      plan.price + overagePrice * max (total - plan.usageLimit) 0 ≤ 2147483647 := by
  obtain ⟨-, hprice, hlimit, -⟩ := hplan
  simp only [inInteger] at hprice hlimit
  constructor
  · rintro ⟨htotal, -, hdue⟩
    simp only [inInteger, amountDueOf, overageOf, overagePrice] at htotal hdue ⊢
    omega
  · rintro ⟨htotal, hdue⟩
    simp only [overagePrice] at hdue
    constructor <;> simp only [inInteger, amountDueOf, overageOf, overagePrice] <;> omega

theorem figuresFit_mono (hplan : plan.Fits) (hnonneg : 0 ≤ total) (hle : total ≤ total')
    (h : FiguresFit plan total') : FiguresFit plan total := by
  rw [figuresFit_iff hplan (hnonneg.trans hle)] at h
  rw [figuresFit_iff hplan hnonneg]
  simp only [overagePrice] at h ⊢
  omega

theorem admitted_nonneg (plan : Plan) : 0 ≤ admitted plan :=
  add_nonneg (le_max_right _ _) (le_max_right _ _)

theorem covers_iff (hplan : plan.Fits) : Covers plan ↔ FiguresFit plan (admitted plan) :=
  (figuresFit_iff hplan (admitted_nonneg plan)).symm

/-! ## The insert -/

theorem commit_ne_dataError {t : Tables} (h : t.Fits) : commit t ≠ .error .dataError := by
  rcases commit_cases t with ⟨db, hok, -⟩ | ⟨herr, -⟩ | ⟨-, hno⟩
  · rw [hok]; simp
  · rw [herr]; simp
  · exact absurd h hno

/-- A bill whose figures fit does not fail for range. -/
theorem calculateBill_ne_dataError {db : Database} {subscriptionId id : Uuid}
    {t₁ t₂ start stop : DateTime} {subscription : Subscription}
    (hsub : getById db subscriptionId = some subscription)
    (hplan : planOf db subscription = some plan) (hbounds : monthBounds t₁ = .ok (start, stop))
    (hfit : FiguresFit plan (getTotalUsage db subscriptionId (some start) (some stop))) :
    (calculateBill db subscriptionId none none t₁ t₂ id).2 ≠ .error .dataError := by
  have hrow := db.fits.plans plan (Rows.find?_mem hplan).1
  have hperiod : billedPeriod none none t₁ = .ok (start, stop) := hbounds
  simp only [calculateBill, hsub, hplan, hperiod]
  split
  · simp
  · have hfits := (fits_insertInvoice_iff db (newInvoice subscription plan
      (getTotalUsage db subscriptionId (some start) (some stop)) start stop id t₂)).mpr
      ⟨hrow.2.1, hrow.2.2.1, hfit.totalUsage, hfit.overage, hfit.amountDue⟩
    have hcreate := commit_ne_dataError hfits
    rw [InvoiceRepository.create]
    split
    · simp
    · rename_i exn herr
      rw [herr] at hcreate
      simpa using hcreate

/-! ## A month in which both limits are used up -/

/-- One request for the whole quota of a type. -/
def wholeQuota (subscriptionId : Uuid) (usageType : UsageType) (quantity : ℤ) (key : String)
    (h : 0 < quantity) : UsageRequest :=
  .usage { subscriptionId, quantity, usageType, idempotencyKey := key, quantity_pos := h }

/-- The event of that request; none if the plan admits nothing. -/
def quotaEvents (subscriptionId : Uuid) (usageType : UsageType) (quantity : ℤ) (key : String)
    (id : Uuid) (now : DateTime) : List UsageEvent :=
  if h : 0 < quantity then [newEvent (wholeQuota subscriptionId usageType quantity key h) id now]
  else []

variable {driver : Driver} {s s' : Serial} {subscription : Subscription} {start stop : DateTime}
  {usageType : UsageType} {key : String} {id : Uuid}

theorem totalByType_quotaEvents {now : DateTime} {usageType' : UsageType} {quantity : ℤ}
    (hnow : start ≤ now ∧ now < stop) :
    sumWhere (countsTowardsType subscription.id usageType (some start) (some stop))
      UsageEvent.quantity (quotaEvents subscription.id usageType' quantity key id now) =
      if usageType' = usageType then max quantity 0 else 0 := by
  have hin : inPeriod (some start) (some stop) now = true := inPeriod_some_some.mpr hnow
  unfold quotaEvents
  split_ifs with hpos htype htype
  · rw [sumWhere_singleton, max_eq_left hpos.le]
    simp [countsTowardsType, countsTowards, newEvent, wholeQuota, UsageRequest.usageType,
      UsageRequest.subscriptionId, UsageRequest.quantity, hin, htype]
  · rw [sumWhere_singleton]
    simp [countsTowardsType, newEvent, wholeQuota, UsageRequest.usageType, htype]
  · rw [sumWhere_nil, max_eq_right (not_lt.mp hpos)]
  · rw [sumWhere_nil]

/-- The quota of a type that is unused can be used up. -/
theorem exists_used_up (driver : Driver) (usageType : UsageType) (key : String) (id : Uuid)
    (hsub : getById s.db subscription.id = some subscription)
    (hactive : subscription.status = .active) (hplan : planOf s.db subscription = some plan)
    (hbounds : monthBounds s.clock = .ok (start, stop)) (hcounts : Decision.Counts s.db)
    (hunused : getTotalByType s.db subscription.id usageType (some start) (some stop) = 0)
    (hstorable : Storable key) (hkey : key ∉ s.db.usageEvents.map UsageEvent.idempotencyKey)
    (hid : id ∉ s.db.usageEvents.map UsageEvent.id) :
    ∃ s', Run (Serial.next driver) (StaysOn subscription.id plan.id) s s' ∧ s'.clock = s.clock ∧
      s'.db.toTables = { s.db.toTables with
        usageEvents := s.db.usageEvents ++ quotaEvents subscription.id usageType
          (UsageService.limitFor plan usageType) key id s.clock } := by
  unfold quotaEvents
  split_ifs with hpos
  · let usage :=
      wholeQuota subscription.id usageType (UsageService.limitFor plan usageType) key hpos
    have hadmitted : Decision.Admitted s.db usage start stop := by
      obtain ⟨figures, hrollup⟩ := CostService.rollup_of_subscription
        (Option.isSome_iff_exists.mpr ⟨subscription, hsub⟩) start stop
      obtain ⟨plan', hplan', hlimit⟩ := CostService.limitOf_rollup hsub hrollup
      rw [hplan] at hplan'
      cases hplan'
      refine ⟨subscription, figures, hsub, hactive, hrollup, le_of_eq ?_⟩
      rw [hlimit, CostService.usedOf_rollup hrollup]
      change getTotalByType s.db subscription.id usageType _ _ + _ = _
      rw [hunused, zero_add]
      rfl
    have hfresh : getByIdempotencyKey s.db usage.idempotencyKey = none :=
      getByIdempotencyKey_eq_none_iff.mpr hkey
    have hinserts : Decision.Inserts s.db usage s.clock id
        (UsageService.recordUsage s.db usage s.clock s.clock id) :=
      Decision.inserts_of_admitted hcounts hstorable hfresh hid hbounds hadmitted
    have hstays : StaysOn subscription.id plan.id s (.recordUsage usage s.clock s.clock id) := by
      refine ⟨rfl, fun row hrow hrowId => ?_⟩
      obtain ⟨hmem, -⟩ := getById_eq_some_iff.mp hsub
      rw [Rows.eq_of_unique s.db.constraints.subscriptions_pkey hrow hmem hrowId]
      exact (Rows.find?_mem hplan).2.symm
    have hnext : Serial.next driver s (.recordUsage usage s.clock s.clock id) =
        some ⟨(UsageService.recordUsage s.db usage s.clock s.clock id).1, s.clock⟩ := by
      simp [Serial.next, Op.times, Serial.readClock, Op.apply]
    exact ⟨_, Run.single hstays hnext, rfl, hinserts.1⟩
  · exact ⟨s, .refl, rfl, by rw [List.append_nil]⟩

theorem of_mem_quotaEvents {subscriptionId : Uuid} {quantity : ℤ} {now : DateTime} {e : UsageEvent}
    (h : e ∈ quotaEvents subscriptionId usageType quantity key id now) :
    e.idempotencyKey = key ∧ e.id = id ∧ 0 ≤ e.quantity := by
  unfold quotaEvents at h
  split_ifs at h with hpos
  · rw [List.mem_singleton.mp h]
    exact ⟨rfl, rfl, hpos.le⟩
  · cases h

/-- Both limits can be used up in one month. -/
theorem exists_full_month (driver : Driver) (hempty : s.db.usageEvents = [])
    (hsub : getById s.db subscription.id = some subscription)
    (hactive : subscription.status = .active) (hplan : planOf s.db subscription = some plan)
    (hbounds : monthBounds s.clock = .ok (start, stop)) :
    ∃ s', Run (Serial.next driver) (StaysOn subscription.id plan.id) s s' ∧ s'.clock = s.clock ∧
      s'.db.subscriptions = s.db.subscriptions ∧
      getTotalUsage s'.db subscription.id (some start) (some stop) = admitted plan := by
  have hnow := monthBounds_mem_self hbounds
  obtain ⟨s₁, hrun₁, hclock₁, ht₁⟩ := exists_used_up driver .apiCall "calls" ⟨0⟩ hsub hactive
    hplan hbounds (by intro e he; rw [hempty] at he; cases he)
    (by rw [getTotalByType, hempty, sumWhere_nil]) (by decide) (by simp [hempty]) (by simp [hempty])
  rw [hempty, List.nil_append] at ht₁
  have hsub₁ : getById s₁.db subscription.id = some subscription := by
    rw [getById, ht₁]; exact hsub
  have hplan₁ : planOf s₁.db subscription = some plan := by
    rw [planOf, PlanRepository.getById, ht₁]; exact hplan
  -- what the second request has to do with the event of the first one
  have hold : ∀ e ∈ s₁.db.usageEvents,
      e.idempotencyKey = "calls" ∧ e.id = ⟨0⟩ ∧ 0 ≤ e.quantity := by
    rw [ht₁]; exact fun e => of_mem_quotaEvents
  have hunused₁ : getTotalByType s₁.db subscription.id .tokens (some start) (some stop) = 0 := by
    rw [getTotalByType, ht₁, totalByType_quotaEvents hnow]
    rfl
  have hkey₁ : "tokens" ∉ s₁.db.usageEvents.map UsageEvent.idempotencyKey := fun hmem => by
    obtain ⟨e, he, hkey⟩ := List.mem_map.mp hmem
    simp [(hold e he).1] at hkey
  have hid₁ : ⟨1⟩ ∉ s₁.db.usageEvents.map UsageEvent.id := fun hmem => by
    obtain ⟨e, he, hid⟩ := List.mem_map.mp hmem
    rw [(hold e he).2.1] at hid
    exact absurd hid (by decide)
  rw [← hclock₁] at hbounds
  obtain ⟨s₂, hrun₂, hclock₂, ht₂⟩ := exists_used_up driver .tokens "tokens" ⟨1⟩ hsub₁ hactive
    hplan₁ hbounds (fun e he => (hold e he).2.2) hunused₁ (by decide) hkey₁ hid₁
  refine ⟨s₂, hrun₁.trans hrun₂, hclock₂.trans hclock₁, by rw [ht₂, ht₁], ?_⟩
  have hevents : s₂.db.usageEvents =
      quotaEvents subscription.id .apiCall (UsageService.limitFor plan .apiCall) "calls" ⟨0⟩
          s.clock ++
        quotaEvents subscription.id .tokens (UsageService.limitFor plan .tokens) "tokens" ⟨1⟩
          s.clock := by
    rw [ht₂, ht₁, hclock₁]
  have htype : ∀ usageType, getTotalByType s₂.db subscription.id usageType (some start)
      (some stop) = max (UsageService.limitFor plan usageType) 0 := by
    intro usageType
    rw [getTotalByType, hevents, sumWhere_append, totalByType_quotaEvents hnow,
      totalByType_quotaEvents hnow]
    cases usageType <;> simp
  rw [getTotalUsage_eq_types, htype, htype]
  rfl

/-! ## The exact condition -/

/-- **Which plans can be billed.** From a state without usage, and in every run in
    which the subscription stays on the plan, the figures of a bill fit their columns
    and its insert does not fail for range, if what both limits admit in a month can be
    billed. Where the subscription can be metered in the month of the start, only if. -/
theorem neverOverflows_iff (hempty : s.db.usageEvents = [])
    (hsub : getById s.db subscription.id = some subscription)
    (hplan : planOf s.db subscription = some plan) :
    (Covers plan → NeverOverflows driver s subscription.id plan) ∧
      (subscription.status = .active → (∃ start stop, monthBounds s.clock = .ok (start, stop)) →
        NeverOverflows driver s subscription.id plan → Covers plan) := by
  have hmem := (Rows.find?_mem hplan).1
  have hfits := s.db.fits.plans plan hmem
  rw [covers_iff hfits]
  refine ⟨?_, fun hactive ⟨start, stop, hbounds⟩ hnever => ?_⟩
  · intro hcovers s' t₁ t₂ id start' stop' hrun hstays hbounds'
    have hkept := run_kept hempty hrun
    have hmem' := (run_plans hrun).subset hmem
    have htotal := getTotalUsage_le_admitted hkept hmem' rfl hbounds'
    have hnonneg : 0 ≤ getTotalUsage s'.db subscription.id (some start') (some stop') :=
      sumWhere_nonneg fun e he _ => (hkept.chronicle e he).1
    have hfigures := figuresFit_mono hfits hnonneg htotal hcovers
    refine ⟨hfigures, ?_⟩
    cases hsub' : getById s'.db subscription.id with
    | none => simp [calculateBill, hsub', notFound]
    | some row =>
      obtain ⟨hrow, hid⟩ := getById_eq_some_iff.mp hsub'
      obtain ⟨plan', hplan'⟩ := planOf_isSome hrow
      obtain ⟨hmem'', hid'⟩ := Rows.find?_mem hplan'
      have hsame : plan' = plan := Rows.eq_of_unique s'.db.constraints.plans_pkey hmem'' hmem'
        (hid'.trans (hstays.2 row hrow hid))
      rw [hsame] at hplan'
      exact calculateBill_ne_dataError hsub' hplan' hbounds' hfigures
  · obtain ⟨s', hrun, hclock, hrows, htotal⟩ :=
      exists_full_month driver hempty hsub hactive hplan hbounds
    have hstays : StaysOn subscription.id plan.id s'
        (.calculateBill subscription.id s.clock s.clock ⟨2⟩) := by
      refine ⟨rfl, fun row hrow hid => ?_⟩
      rw [hrows] at hrow
      obtain ⟨hsubMem, -⟩ := getById_eq_some_iff.mp hsub
      rw [Rows.eq_of_unique s.db.constraints.subscriptions_pkey hrow hsubMem hid]
      exact (Rows.find?_mem hplan).2.symm
    have hfigures := (hnever s' s.clock s.clock ⟨2⟩ start stop hrun hstays hbounds).1
    rwa [htotal] at hfigures

/-- The small system: ten calls a month of a plan for 49 dollars. -/
theorem neverOverflows_iff_ready : ∃ plan ∈ Sample.ready.db.plans, plan.apiCallLimit = 10 ∧
    (NeverOverflows .stringsOnly Sample.ready ⟨3⟩ plan ↔ Covers plan) ∧
    NeverOverflows .stringsOnly Sample.ready ⟨3⟩ plan := by
  have hcovers : ∀ plan ∈ Sample.ready.db.plans, Covers plan := by
    simp only [Covers]; decide
  have hsub : (getById Sample.ready.db ⟨3⟩).isSome := by decide
  obtain ⟨subscription, hsub⟩ := Option.isSome_iff_exists.mp hsub
  obtain ⟨hmem, hid⟩ := getById_eq_some_iff.mp hsub
  rw [← hid] at hsub
  obtain ⟨plan, hplan⟩ := planOf_isSome hmem
  have hplanMem := (Rows.find?_mem hplan).1
  have hactive : ∀ row ∈ Sample.ready.db.subscriptions, row.status = .active := by decide
  have hlimit : ∀ plan ∈ Sample.ready.db.plans, plan.apiCallLimit = 10 := by decide
  have hclock : Sample.ready.clock = Sample.firstOfJuly := by decide
  have hbounds : monthBounds Sample.ready.clock =
      .ok (Sample.firstOfJuly, Sample.firstOfAugust) := by
    rw [hclock]; rfl
  have hnever : NeverOverflows .stringsOnly Sample.ready subscription.id plan :=
    (neverOverflows_iff rfl hsub hplan).1 (hcovers plan hplanMem)
  have honly : NeverOverflows .stringsOnly Sample.ready subscription.id plan → Covers plan :=
    (neverOverflows_iff rfl hsub hplan).2 (hactive subscription hmem) ⟨_, _, hbounds⟩
  rw [hid] at hnever honly
  exact ⟨plan, hplanMem, hlimit plan hplanMem, ⟨honly, fun _ => hnever⟩, hnever⟩

/-- A plan without a price that admits 300 million calls, all of which are used. -/
def largeQuota : List Op :=
  [.createTenant { name := "Acme", email := "billing@acme.test" } ⟨1⟩,
    .createPlan { name := "Pro", price := 0, usageLimit := 0, apiCallLimit := 300000000 } ⟨2⟩,
    .createSubscription { tenantId := ⟨1⟩, planId := ⟨2⟩ } Sample.firstOfJuly ⟨3⟩,
    .recordUsage (wholeQuota ⟨3⟩ .apiCall 300000000 "k" (by decide)) Sample.july Sample.july ⟨10⟩]

def overflowing : Serial :=
  (execGuarded (Serial.next .stringsOnly) (StaysOn ⟨3⟩ ⟨2⟩) (Serial.initial Sample.firstOfJuly)
    largeQuota).get (by decide)

/-- The overage of 300 million units costs three billion cents, and the bill fails. -/
theorem large_quota_overflows :
    Run (Serial.next .stringsOnly) (StaysOn ⟨3⟩ ⟨2⟩) (Serial.initial Sample.firstOfJuly)
      overflowing ∧
    (∀ plan ∈ overflowing.db.plans, plan.Fits ∧
      getTotalByType overflowing.db ⟨3⟩ .apiCall (some Sample.firstOfJuly)
        (some Sample.firstOfAugust) ≤ plan.apiCallLimit ∧
      ¬ FiguresFit plan (getTotalUsage overflowing.db ⟨3⟩ (some Sample.firstOfJuly)
        (some Sample.firstOfAugust))) ∧
    (calculateBill overflowing.db ⟨3⟩ none none Sample.july Sample.july ⟨12⟩).2 =
      .error .dataError := by
  have htotal : getTotalUsage overflowing.db ⟨3⟩ (some Sample.firstOfJuly)
      (some Sample.firstOfAugust) = 300000000 := by decide
  refine ⟨Run.of_execGuarded_isSome _, fun plan hplan => ⟨?_, ?_, ?_⟩, ?_⟩
  · exact overflowing.db.fits.plans plan hplan
  · have hwithin : ∀ plan ∈ overflowing.db.plans, getTotalByType overflowing.db ⟨3⟩ .apiCall
        (some Sample.firstOfJuly) (some Sample.firstOfAugust) ≤ plan.apiCallLimit := by decide
    exact hwithin plan hplan
  · have hfree : ∀ plan ∈ overflowing.db.plans, plan.price = 0 ∧ plan.usageLimit = 0 := by decide
    obtain ⟨hprice, hlimit⟩ := hfree plan hplan
    rw [htotal]
    rintro ⟨-, -, hdue⟩
    simp only [hprice, hlimit, inInteger, amountDueOf, overageOf, overagePrice] at hdue
    omega
  · decide +kernel

end Overflow

end BillingEngine
