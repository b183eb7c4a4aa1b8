import BillingEngine.Model.Repositories

/-!
# `BillingService.calculate_bill` (`app/services/billing_service.py`, lines 27–69)

As for metering, the method is given run without interruption
(`BillingService.calculateBill`) and cut at its database steps (`billStep`):
subscription read, lazy load of the plan, total of the period, lookup of an
existing invoice, insert and commit.

Results:
* `BillingService.calculateBill_cases`, `BillingService.calculateBill_effect`: how a
  call ends, and what it has read when it inserts.
* `billSteps_eq_calculateBill`: the uninterrupted steps are the method.
* `billStep_effect`: one step inserts at most one invoice, the one computed from
  the local variables.
-/

namespace BillingEngine

open UsageRepository SubscriptionRepository InvoiceRepository

namespace BillingService

/-- Cents charged per unit of usage over the plan's `usage_limit`. -/
def overagePrice : ℤ := 10

/-- `max(total_usage - plan.usage_limit, 0)` -/
def overageOf (totalUsage usageLimit : ℤ) : ℤ := max (totalUsage - usageLimit) 0

/-- `plan.price + overage * OVERAGE_PRICE` -/
def amountDueOf (planPrice overage : ℤ) : ℤ := planPrice + overage * overagePrice

/-- The `Invoice(...)` of lines 56–65. -/
def newInvoice (subscription : Subscription) (plan : Plan) (totalUsage : ℤ)
    (start stop : DateTime) (id : Uuid) (now : DateTime) : Invoice where
  id := id
  subscriptionId := subscription.id
  planPrice := plan.price
  usageLimit := plan.usageLimit
  totalUsage := totalUsage
  overage := overageOf totalUsage plan.usageLimit
  amountDue := amountDueOf plan.price (overageOf totalUsage plan.usageLimit)
  createdAt := now
  periodStart := some start
  periodEnd := some stop

/-- `BillingService._to_dict` -/
def toDict (i : Invoice) : BillingResponse where
  subscriptionId := i.subscriptionId
  planPrice := i.planPrice
  usageLimit := i.usageLimit
  totalUsage := i.totalUsage
  overage := i.overage
  amountDue := i.amountDue

/-- The billed period: the given one, or the current month when a bound is
    missing (lines 39–41). -/
def billedPeriod (periodStart periodEnd : Option DateTime) (now : DateTime) :
    Except Exn (DateTime × DateTime) :=
  match periodStart, periodEnd with
  | some start, some stop => .ok (start, stop)
  | _, _ => monthBounds now

/-- The 404 of line 35. -/
def notFound (subscriptionId : Uuid) : Exn :=
  .resourceNotFound s!"Subscription {subscriptionId.str} not found"

/-- `calculate_bill(subscription_id, period_start, period_end)`; `nowBounds` is
    the time of `month_bounds()`, `nowInsert` the time of the insert. -/
def calculateBill (db : Database) (subscriptionId : Uuid) (periodStart periodEnd : Option DateTime)
    (nowBounds nowInsert : DateTime) (id : Uuid) : Database × Except Exn BillingResponse :=
  match getById db subscriptionId with
  | none => (db, .error (notFound subscriptionId))
  | some subscription =>
    match planOf db subscription with
    | none => (db, .error .attributeError)
    | some plan =>
      match billedPeriod periodStart periodEnd nowBounds with
      | .error exn => (db, .error exn)
      | .ok (start, stop) =>
        let totalUsage := getTotalUsage db subscriptionId (some start) (some stop)
        match getBySubscriptionAndPeriod db subscriptionId start stop with
        | some existing => (db, .ok (toDict existing))
        | none =>
          let invoice := newInvoice subscription plan totalUsage start stop id nowInsert
          match InvoiceRepository.create db invoice with
          | .ok db' => (db', .ok (toDict invoice))
          | .error exn => (db, .error exn)

/-- What `calculate_bill` has read when it inserts an invoice, and what it
    inserts. -/
structure Billed (db : Database) (subscriptionId : Uuid) (periodStart periodEnd : Option DateTime)
    (nowBounds nowInsert : DateTime) (id : Uuid) (db' : Database) (invoice : Invoice) : Prop where
  computed : ∃ subscription plan start stop,
    getById db subscriptionId = some subscription ∧ planOf db subscription = some plan ∧
    billedPeriod periodStart periodEnd nowBounds = .ok (start, stop) ∧
    getBySubscriptionAndPeriod db subscriptionId start stop = none ∧
    invoice = newInvoice subscription plan
      (getTotalUsage db subscriptionId (some start) (some stop)) start stop id nowInsert
  tables : db'.toTables = { db.toTables with invoices := db.invoices ++ [invoice] }

/-- **What one call can do.** It fails, it returns the invoice that the period
    has, or it inserts one and returns that. -/
theorem calculateBill_cases (db : Database) (subscriptionId : Uuid)
    (periodStart periodEnd : Option DateTime) (nowBounds nowInsert : DateTime) (id : Uuid) :
    (∃ exn, calculateBill db subscriptionId periodStart periodEnd nowBounds nowInsert id =
      (db, .error exn)) ∨
    (∃ start stop existing, subscriptionId ∈ db.subscriptions.map Subscription.id ∧
      billedPeriod periodStart periodEnd nowBounds = .ok (start, stop) ∧
      getBySubscriptionAndPeriod db subscriptionId start stop = some existing ∧
      calculateBill db subscriptionId periodStart periodEnd nowBounds nowInsert id =
        (db, .ok (toDict existing))) ∨
    ∃ db' invoice,
      Billed db subscriptionId periodStart periodEnd nowBounds nowInsert id db' invoice ∧
      calculateBill db subscriptionId periodStart periodEnd nowBounds nowInsert id =
        (db', .ok (toDict invoice)) := by
  unfold calculateBill
  cases hsub : getById db subscriptionId with
  | none => exact .inl ⟨_, rfl⟩
  | some subscription =>
    cases hplan : planOf db subscription with
    | none => exact .inl ⟨.attributeError, by simp only [hplan]⟩
    | some plan =>
      cases hper : billedPeriod periodStart periodEnd nowBounds with
      | error exn => exact .inl ⟨exn, by simp only [hplan]⟩
      | ok period =>
        obtain ⟨start, stop⟩ := period
        cases hinv : getBySubscriptionAndPeriod db subscriptionId start stop with
        | some existing =>
          obtain ⟨hmem, hid⟩ := getById_eq_some_iff.mp hsub
          exact .inr (.inl ⟨start, stop, existing, hid ▸ List.mem_map_of_mem hmem, rfl, hinv,
            by simp only [hplan, hinv]⟩)
        | none =>
          simp only [hplan, hinv]
          cases hcreate : InvoiceRepository.create db (newInvoice subscription plan
              (getTotalUsage db subscriptionId (some start) (some stop)) start stop id
              nowInsert) with
          | error exn => exact .inl ⟨exn, rfl⟩
          | ok db' =>
            exact .inr (.inr ⟨db', _, ⟨⟨subscription, plan, start, stop, hsub, hplan, hper, hinv,
              rfl⟩, commit_eq_ok.mp hcreate⟩, rfl⟩)

/-- **Effect of one call.** Nothing, or one invoice is inserted. -/
theorem calculateBill_effect (db : Database) (subscriptionId : Uuid)
    (periodStart periodEnd : Option DateTime) (nowBounds nowInsert : DateTime) (id : Uuid) :
    let r := calculateBill db subscriptionId periodStart periodEnd nowBounds nowInsert id
    r.1 = db ∨ ∃ invoice,
      Billed db subscriptionId periodStart periodEnd nowBounds nowInsert id r.1 invoice ∧
        r.2 = .ok (toDict invoice) := by
  rcases calculateBill_cases db subscriptionId periodStart periodEnd nowBounds nowInsert id with
    ⟨exn, heq⟩ | ⟨_, _, _, -, -, -, heq⟩ | ⟨db', invoice, hbilled, heq⟩
  · exact .inl (by rw [heq])
  · exact .inl (by rw [heq])
  · exact .inr ⟨invoice, by rw [heq]; exact ⟨hbilled, rfl⟩⟩

/-- The invoice of the period is returned, whatever has become of the plan and of
    the usage. -/
theorem calculateBill_of_stored {db : Database} {subscriptionId : Uuid}
    {periodStart periodEnd : Option DateTime} {nowBounds start stop : DateTime} {invoice : Invoice}
    (nowInsert : DateTime) (id : Uuid)
    (hsub : subscriptionId ∈ db.subscriptions.map Subscription.id)
    (hper : billedPeriod periodStart periodEnd nowBounds = .ok (start, stop))
    (hinv : getBySubscriptionAndPeriod db subscriptionId start stop = some invoice) :
    calculateBill db subscriptionId periodStart periodEnd nowBounds nowInsert id =
      (db, .ok (toDict invoice)) := by
  obtain ⟨subscription, hmem, hid⟩ := List.mem_map.mp hsub
  obtain ⟨plan, hplan⟩ := planOf_isSome hmem
  simp only [calculateBill, getById_eq_some_iff.mpr ⟨hmem, hid⟩, hplan, hper, hinv]

end BillingService

/-! ## The database steps -/

/-- The arguments of a call of `calculate_bill`. -/
structure BillRequest where
  subscriptionId : Uuid
  periodStart : Option DateTime
  periodEnd : Option DateTime
deriving DecidableEq

/-- Where a call of `calculate_bill` is, with its local variables. -/
inductive BillPc where
  | readSubscription
  | readPlan (subscription : Subscription)
  | readTotal (subscription : Subscription) (plan : Plan)
  | lookupInvoice (subscription : Subscription) (plan : Plan) (start stop : DateTime)
      (totalUsage : ℤ)
  | insert (subscription : Subscription) (plan : Plan) (start stop : DateTime) (totalUsage : ℤ)
  | done (result : Except Exn BillingResponse)
deriving DecidableEq

open BillingService in
/-- One database step of `calculate_bill`, up to the next one. -/
def billStep (bill : BillRequest) (now : DateTime) (id : Uuid) (db : Database) :
    BillPc → Option (Database × BillPc)
  | .readSubscription =>
    match getById db bill.subscriptionId with
    | none => some (db, .done (.error (notFound bill.subscriptionId)))
    | some subscription => some (db, .readPlan subscription)
  | .readPlan subscription =>
    match planOf db subscription with
    | none => some (db, .done (.error .attributeError))
    | some plan => some (db, .readTotal subscription plan)
  | .readTotal subscription plan =>
    match billedPeriod bill.periodStart bill.periodEnd now with
    | .error exn => some (db, .done (.error exn))
    | .ok (start, stop) =>
      some (db, .lookupInvoice subscription plan start stop
        (getTotalUsage db bill.subscriptionId (some start) (some stop)))
  | .lookupInvoice subscription plan start stop totalUsage =>
    match getBySubscriptionAndPeriod db bill.subscriptionId start stop with
    | some existing => some (db, .done (.ok (toDict existing)))
    | none => some (db, .insert subscription plan start stop totalUsage)
  | .insert subscription plan start stop totalUsage =>
    let invoice := newInvoice subscription plan totalUsage start stop id now
    match InvoiceRepository.create db invoice with
    | .ok db' => some (db', .done (.ok (toDict invoice)))
    | .error exn => some (db, .done (.error exn))
  | .done _ => none

/-- The call is about to insert its invoice. -/
def BillPc.isInsert : BillPc → Bool
  | insert .. => true
  | _ => false

/-- The steps of one call on an otherwise idle database; `nowInsert` is the
    clock of the insert and `nowBounds` that of every other step. -/
def billSteps (bill : BillRequest) (nowBounds nowInsert : DateTime) (id : Uuid) :
    ℕ → Database × BillPc → Database × BillPc
  | 0, c => c
  | fuel + 1, (db, pc) =>
    let now := if pc.isInsert then nowInsert else nowBounds
    match billStep bill now id db pc with
    | some c => billSteps bill nowBounds nowInsert id fuel c
    | none => (db, pc)

section Steps

variable {bill : BillRequest} {nowBounds nowInsert : DateTime} {id : Uuid} {n : ℕ} {db : Database}

theorem billSteps_done (result : Except Exn BillingResponse) :
    billSteps bill nowBounds nowInsert id n (db, .done result) = (db, .done result) := by
  cases n <;> simp [billSteps, billStep]

theorem billSteps_step {pc : BillPc} {c : Database × BillPc} (hpc : pc.isInsert = false)
    (h : billStep bill nowBounds id db pc = some c) :
    billSteps bill nowBounds nowInsert id (n + 1) (db, pc) =
      billSteps bill nowBounds nowInsert id n c := by
  simp [billSteps, hpc, h]

theorem billSteps_insert (subscription : Subscription) (plan : Plan) (start stop : DateTime)
    (totalUsage : ℤ) :
    billSteps bill nowBounds nowInsert id (n + 1)
        (db, .insert subscription plan start stop totalUsage) =
      let invoice := BillingService.newInvoice subscription plan totalUsage start stop id nowInsert
      match InvoiceRepository.create db invoice with
      | .ok db' => (db', .done (.ok (BillingService.toDict invoice)))
      | .error exn => (db, .done (.error exn)) := by
  cases hcreate : InvoiceRepository.create db
      (BillingService.newInvoice subscription plan totalUsage start stop id nowInsert) <;>
    simp [billSteps, billStep, BillPc.isInsert, hcreate, billSteps_done]

/-- **The steps are the method.** Five steps always suffice. -/
theorem billSteps_eq_calculateBill :
    billSteps bill nowBounds nowInsert id 5 (db, .readSubscription) =
      let r := BillingService.calculateBill db bill.subscriptionId bill.periodStart bill.periodEnd
        nowBounds nowInsert id
      (r.1, .done r.2) := by
  unfold BillingService.calculateBill
  cases hsub : getById db bill.subscriptionId with
  | none => rw [billSteps_step rfl (by simp only [billStep, hsub]; rfl), billSteps_done]
  | some subscription =>
    rw [billSteps_step rfl (by simp only [billStep, hsub]; rfl)]
    cases hplan : planOf db subscription with
    | none =>
      rw [billSteps_step rfl (by simp only [billStep, hplan]; rfl), billSteps_done]
      simp only [hplan]
    | some plan =>
      rw [billSteps_step rfl (by simp only [billStep, hplan]; rfl)]
      cases hper : BillingService.billedPeriod bill.periodStart bill.periodEnd nowBounds with
      | error exn =>
        rw [billSteps_step rfl (by simp only [billStep, hper]; rfl), billSteps_done]
        simp only [hplan]
      | ok period =>
        obtain ⟨start, stop⟩ := period
        rw [billSteps_step rfl (by simp only [billStep, hper]; rfl)]
        cases hinv : getBySubscriptionAndPeriod db bill.subscriptionId start stop with
        | some existing =>
          rw [billSteps_step rfl (by simp only [billStep, hinv]; rfl), billSteps_done]
          simp only [hplan, hinv]
        | none =>
          rw [billSteps_step rfl (by simp only [billStep, hinv]; rfl)]
          rw [billSteps_insert]
          simp only [hplan, hinv]
          cases InvoiceRepository.create db _ <;> rfl

end Steps

/-! ## What one step does -/

variable {bill : BillRequest} {now : DateTime} {id : Uuid} {db db' : Database} {pc pc' : BillPc}

/-- **Effect of one step on the database.** Nothing, unless it is an insert that
    commits: then one invoice is appended and nothing else changes. -/
theorem billStep_effect (h : billStep bill now id db pc = some (db', pc')) :
    db' = db ∨ ∃ subscription plan start stop totalUsage,
      pc = .insert subscription plan start stop totalUsage ∧
      db'.toTables = { db.toTables with invoices := db.invoices ++
        [BillingService.newInvoice subscription plan totalUsage start stop id now] } := by
  cases pc with
  | insert subscription plan start stop totalUsage =>
    simp only [billStep] at h
    split at h
    · rename_i db₁ hins
      cases h
      exact .inr ⟨subscription, plan, start, stop, totalUsage, rfl, commit_eq_ok.mp hins⟩
    · cases h; exact .inl rfl
  | done result => simp [billStep] at h
  | _ => simp only [billStep] at h; split at h <;> cases h <;> exact .inl rfl

theorem billStep_invoices (h : billStep bill now id db pc = some (db', pc')) :
    db.invoices <+: db'.invoices := by
  rcases billStep_effect h with rfl | ⟨_, _, _, _, _, -, ht⟩
  · exact List.prefix_rfl
  · rw [ht]; exact List.prefix_append _ _

/-- No step touches a table other than `invoices`. -/
theorem billStep_other (h : billStep bill now id db pc = some (db', pc')) :
    db'.toTables = { db.toTables with invoices := db'.invoices } := by
  rcases billStep_effect h with rfl | ⟨_, _, _, _, _, -, ht⟩
  · rfl
  · rw [ht]

end BillingEngine
