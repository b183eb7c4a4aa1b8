import BillingEngine.Common.Ledger
import BillingEngine.Model.Schemas

/-!
# Repositories (`app/repositories/`)

Queries are functions of the committed database; a comparison with a null column is
false, and `func.sum(..)` of no rows is read as `0` (`query.scalar() or 0`, `coalesce`).
`.first()` is the first matching row in table order. No query has an `ORDER BY`, so
where several rows match (`get_by_tenant`, `get_by_stripe_price_id`) PostgreSQL may
return another one, as a rule the one that was not updated last.
Writing methods return the committed database or the exception of the commit. A text
with a NUL is refused by the driver (`execute`, `lookupText`).

Results: what a lookup by key returns (`getByIdempotencyKey_eq_some_iff`,
`SubscriptionRepository.getById_eq_some_iff`), that a foreign key can be
followed (`planOf_isSome`), and the effect of one insert into `usage_events` on
every query that `record_usage` makes (`insert_cases`).
-/

namespace BillingEngine

open Ledger

/-! ## Plans, tenants, webhook events -/

namespace PlanRepository

/-- `Plan(**plan.model_dump())` -/
def newPlan (plan : PlanCreate) (id : Uuid) : Plan where
  id := id
  name := plan.name
  price := plan.price
  usageLimit := plan.usageLimit
  apiCallLimit := plan.apiCallLimit
  tokensLimit := plan.tokensLimit
  stripePriceId := plan.stripePriceId
  stripeProductId := plan.stripeProductId
  isActive := true

/-- The text parameters of the `INSERT`. -/
def texts (plan : PlanCreate) : List String :=
  plan.name :: (plan.stripePriceId.toList ++ plan.stripeProductId.toList)

/-- `PlanRepository.create` (lines 11–18). -/
def create (db : Database) (plan : PlanCreate) (id : Uuid) : Except Exn Database :=
  execute (texts plan) (commit { db.toTables with plans := db.plans ++ [newPlan plan id] })

def getAll (db : Database) : List Plan := db.plans

def getById (db : Database) (planId : Uuid) : Option Plan :=
  db.plans.find? fun p => decide (p.id = planId)

def getByName (db : Database) (name : String) : Option Plan :=
  db.plans.find? fun p => decide (p.name = name)

def lookupName (db : Database) (name : String) : Except Exn (Option Plan) :=
  lookupText name (getByName db name)

def getByStripePriceId (db : Database) (stripePriceId : String) : Option Plan :=
  db.plans.find? fun p => decide (p.stripePriceId = some stripePriceId)

end PlanRepository

namespace TenantRepository

/-- `Tenant(name=tenant.name, email=tenant.email)` -/
def newTenant (tenant : TenantCreate) (id : Uuid) : Tenant where
  id := id
  name := tenant.name
  email := tenant.email
  isActive := true

/-- The text parameters of the `INSERT`. -/
def texts (tenant : TenantCreate) : List String := [tenant.name, tenant.email]

/-- `TenantRepository.create` (lines 11–21). -/
def create (db : Database) (tenant : TenantCreate) (id : Uuid) : Except Exn Database :=
  execute (texts tenant)
    (commit { db.toTables with tenants := db.tenants ++ [newTenant tenant id] })

def getAll (db : Database) : List Tenant := db.tenants

def getByEmail (db : Database) (email : String) : Option Tenant :=
  db.tenants.find? fun t => decide (t.email = email)

def lookupEmail (db : Database) (email : String) : Except Exn (Option Tenant) :=
  lookupText email (getByEmail db email)

end TenantRepository

namespace WebhookEventRepository

def getByEventId (db : Database) (eventId : String) : Option WebhookEvent :=
  db.webhookEvents.find? fun w => decide (w.eventId = eventId)

theorem getByEventId_eq_none_iff {db : Database} {eventId : String} :
    getByEventId db eventId = none ↔ eventId ∉ db.webhookEvents.map WebhookEvent.eventId := by
  rw [getByEventId, Rows.find?_eq_none]
  simp

end WebhookEventRepository

/-! ## Subscriptions -/

namespace SubscriptionRepository

/-- `Subscription(tenant_id=…, plan_id=…)`; the status and the start time are column
    defaults. -/
def newSubscription (subscription : SubscriptionCreate) (id : Uuid) (now : DateTime) :
    Subscription where
  id := id
  tenantId := subscription.tenantId
  planId := subscription.planId
  status := .active
  stripeCustomerId := none
  stripeSubscriptionId := none
  startedAt := now

/-- `SubscriptionRepository.create` (lines 11–19). -/
def create (db : Database) (subscription : SubscriptionCreate) (id : Uuid) (now : DateTime) :
    Except Exn Database :=
  commit { db.toTables with
    subscriptions := db.subscriptions ++ [newSubscription subscription id now] }

def getAll (db : Database) : List Subscription := db.subscriptions

def getById (db : Database) (subscriptionId : Uuid) : Option Subscription :=
  db.subscriptions.find? fun s => decide (s.id = subscriptionId)

/-- The earliest row of the tenant. A tenant can have several, and then PostgreSQL, which
    returns an updated row later than the others, may find another one. -/
def getByTenant (db : Database) (tenantId : Uuid) : Option Subscription :=
  db.subscriptions.find? fun s => decide (s.tenantId = tenantId)

def getByStripeSubscriptionId (db : Database) (stripeSubscriptionId : String) :
    Option Subscription :=
  db.subscriptions.find? fun s => decide (s.stripeSubscriptionId = some stripeSubscriptionId)

def getAllWithStripeId (db : Database) : List Subscription :=
  db.subscriptions.filter fun s => s.stripeSubscriptionId.isSome

/-- The lazily loaded relationship `subscription.plan`. -/
def planOf (db : Database) (subscription : Subscription) : Option Plan :=
  PlanRepository.getById db subscription.planId

variable {db db' : Database} {sid : Uuid} {sub : Subscription}

theorem getById_eq_some_iff :
    getById db sid = some sub ↔ sub ∈ db.subscriptions ∧ sub.id = sid := by
  constructor
  · exact Rows.find?_mem
  · rintro ⟨hmem, rfl⟩
    exact Rows.find?_eq_some_of_unique db.constraints.subscriptions_pkey hmem

theorem getByStripeSubscriptionId_eq_some_iff {stripeId : String} :
    getByStripeSubscriptionId db stripeId = some sub ↔
      sub ∈ db.subscriptions ∧ sub.stripeSubscriptionId = some stripeId := by
  constructor
  · exact Rows.find?_mem
  · rintro ⟨hmem, hkey⟩
    obtain ⟨sub', h⟩ := Rows.find?_isSome_of_mem Subscription.stripeSubscriptionId hmem
    rw [hkey] at h
    obtain ⟨hmem', hkey'⟩ := Rows.find?_mem h
    rw [getByStripeSubscriptionId, h,
      Rows.eq_of_unique_filterMap db.constraints.subscriptions_stripe_id hmem' hmem hkey' hkey]

/-- The plan of a stored subscription exists. -/
theorem planOf_isSome (h : sub ∈ db.subscriptions) : ∃ plan, planOf db sub = some plan := by
  obtain ⟨plan, hp, hid⟩ := List.mem_map.mp (db.constraints.subscriptions_plan_fkey sub h)
  exact ⟨plan, by
    rw [planOf, PlanRepository.getById, ← hid]
    exact Rows.find?_eq_some_of_unique db.constraints.plans_pkey hp⟩

end SubscriptionRepository

/-! ## Usage events -/

namespace UsageRepository

/-- The row that `get_by_idempotency_key` finds. -/
def getByIdempotencyKey (db : Database) (idempotencyKey : String) : Option UsageEvent :=
  db.usageEvents.find? fun e => decide (e.idempotencyKey = idempotencyKey)

/-- `get_by_idempotency_key(key)`, for a key of which nothing is known. -/
def lookupIdempotencyKey (db : Database) (idempotencyKey : String) :
    Except Exn (Option UsageEvent) :=
  lookupText idempotencyKey (getByIdempotencyKey db idempotencyKey)

/-- The `UsageEvent(...)` built by `create` (lines 30–40), with the drawn primary
    key and the time at which the insert runs. -/
def newEvent (usage : UsageRequest) (id : Uuid) (now : DateTime) : UsageEvent where
  id := id
  subscriptionId := usage.subscriptionId
  usageType := usage.usageType
  quantity := usage.quantity
  cachedInputTokens := usage.cachedInputTokens
  inputTokens := usage.inputTokens
  outputTokens := usage.outputTokens
  reasoningTokens := usage.reasoningTokens
  idempotencyKey := usage.idempotencyKey
  createdAt := now

/-- The `try` block of `create` (lines 29–45): add, commit, refresh. -/
def insert (db : Database) (event : UsageEvent) : Except Exn Database :=
  commit { db.toTables with usageEvents := db.usageEvents ++ [event] }

/-- `UsageRepository.create` (lines 24–47): the loser of a race rolls back and
    re-reads the committed row. The key has passed a lookup before, so it has no NUL. -/
def create (db : Database) (usage : UsageRequest) (id : Uuid) (now : DateTime) :
    Database × Except Exn (Option UsageEvent) :=
  let event := newEvent usage id now
  match insert db event with
  | .ok db' => (db', .ok (some event))
  | .error .integrityError => (db, .ok (getByIdempotencyKey db usage.idempotencyKey))
  | .error exn => (db, .error exn)

/-- The rows summed by `get_total_usage`. -/
def countsTowards (subscriptionId : Uuid) (periodStart periodEnd : Option DateTime)
    (e : UsageEvent) : Bool :=
  decide (e.subscriptionId = subscriptionId) && inPeriod periodStart periodEnd e.createdAt

/-- The rows summed by `get_total_by_type`. -/
def countsTowardsType (subscriptionId : Uuid) (usageType : UsageType)
    (periodStart periodEnd : Option DateTime) (e : UsageEvent) : Bool :=
  decide (e.usageType = usageType) && countsTowards subscriptionId periodStart periodEnd e

def getTotalUsage (db : Database) (subscriptionId : Uuid)
    (periodStart periodEnd : Option DateTime) : ℤ :=
  sumWhere (countsTowards subscriptionId periodStart periodEnd) UsageEvent.quantity db.usageEvents

def getTotalByType (db : Database) (subscriptionId : Uuid) (usageType : UsageType)
    (periodStart periodEnd : Option DateTime) : ℤ :=
  sumWhere (countsTowardsType subscriptionId usageType periodStart periodEnd)
    UsageEvent.quantity db.usageEvents

/-- `get_token_totals`: the sums of the four token columns over the `TOKENS`
    events of the period. -/
def getTokenTotals (db : Database) (subscriptionId : Uuid)
    (periodStart periodEnd : Option DateTime) : ℤ × ℤ × ℤ × ℤ :=
  let total (column : UsageEvent → ℤ) : ℤ :=
    sumWhere (countsTowardsType subscriptionId .tokens periodStart periodEnd) column db.usageEvents
  (total UsageEvent.cachedInputTokens, total UsageEvent.inputTokens,
    total UsageEvent.outputTokens, total UsageEvent.reasoningTokens)

/-- `get_all_by_tenant` (lines 52–59): join with the subscriptions of the tenant,
    newest first. -/
def getAllByTenant (db : Database) (tenantId : Uuid) : List UsageEvent :=
  let rows := db.usageEvents.flatMap fun e =>
    (db.subscriptions.filter fun s =>
      decide (s.id = e.subscriptionId) && decide (s.tenantId = tenantId)).map fun _ => e
  rows.insertionSort fun a b => b.createdAt ≤ a.createdAt

/-- Every event is of one of the two types. -/
theorem getTotalUsage_eq_types (db : Database) (subscriptionId : Uuid)
    (start stop : Option DateTime) : getTotalUsage db subscriptionId start stop =
      getTotalByType db subscriptionId .apiCall start stop +
        getTotalByType db subscriptionId .tokens start stop := by
  have htypes : ∀ e ∈ db.usageEvents, e.usageType ∈ ({.apiCall, .tokens} : Finset UsageType) :=
    fun e _ => by cases e.usageType <;> simp
  exact (sumWhere_groups UsageEvent.usageType htypes _ _).trans (Finset.sum_pair (by decide))

variable {db db' : Database} {key : String} {event : UsageEvent}

theorem getByIdempotencyKey_eq_some_iff :
    getByIdempotencyKey db key = some event ↔
      event ∈ db.usageEvents ∧ event.idempotencyKey = key := by
  constructor
  · exact Rows.find?_mem
  · rintro ⟨hmem, rfl⟩
    exact Rows.find?_eq_some_of_unique db.constraints.usage_idempotency_key hmem

theorem getByIdempotencyKey_eq_none_iff :
    getByIdempotencyKey db key = none ↔ key ∉ db.usageEvents.map UsageEvent.idempotencyKey := by
  rw [getByIdempotencyKey, Rows.find?_eq_none]
  simp

theorem lookupIdempotencyKey_of_some (h : getByIdempotencyKey db key = some event) :
    lookupIdempotencyKey db key = .ok (some event) := by
  rw [lookupIdempotencyKey, h, lookupText]

theorem lookupIdempotencyKey_of_none (hstorable : Storable key)
    (h : getByIdempotencyKey db key = none) : lookupIdempotencyKey db key = .ok none := by
  rw [lookupIdempotencyKey, h, lookupText_none hstorable]

theorem lookupIdempotencyKey_of_not_storable (hstorable : ¬ Storable key)
    (h : getByIdempotencyKey db key = none) :
    lookupIdempotencyKey db key = .error .dataError := by
  rw [lookupIdempotencyKey, h, lookupText_none_of_not_storable hstorable]

/-- What a lookup that returns has found. -/
theorem lookupIdempotencyKey_eq_ok {found : Option UsageEvent} :
    lookupIdempotencyKey db key = .ok found ↔
      getByIdempotencyKey db key = found ∧ (getByIdempotencyKey db key = none → Storable key) :=
  lookupText_eq_ok

/-- Once a key is stored, a lookup keeps finding the same row while the table
    only grows. -/
theorem getByIdempotencyKey_mono (hgrow : db.usageEvents <+: db'.usageEvents)
    (h : getByIdempotencyKey db key = some event) : getByIdempotencyKey db' key = some event := by
  rw [getByIdempotencyKey_eq_some_iff] at h ⊢
  exact ⟨hgrow.subset h.1, h.2⟩

/-- **What one insert can do.** It appends the row, or it fails because the row
    does not fit its columns, or because of a duplicate or dangling key. -/
theorem insert_cases (db : Database) (event : UsageEvent) :
    (∃ db', insert db event = .ok db' ∧
      db'.toTables = { db.toTables with usageEvents := db.usageEvents ++ [event] } ∧ event.Fits ∧
      event.idempotencyKey ∉ db.usageEvents.map UsageEvent.idempotencyKey) ∨
    (insert db event = .error .integrityError ∧ event.Fits ∧
      (event.id ∈ db.usageEvents.map UsageEvent.id ∨
        event.idempotencyKey ∈ db.usageEvents.map UsageEvent.idempotencyKey ∨
        event.subscriptionId ∉ db.subscriptions.map Subscription.id)) ∨
    (insert db event = .error .dataError ∧ ¬ event.Fits) := by
  rcases commit_cases { db.toTables with usageEvents := db.usageEvents ++ [event] } with
    ⟨db', hok, htables⟩ | ⟨herr, hfits, hcons⟩ | ⟨herr, hfits⟩
  · have hcons := db'.constraints
    have hfits := db'.fits
    rw [htables] at hcons hfits
    exact .inl ⟨db', hok, htables, (fits_insertUsageEvent_iff db event).mp hfits,
      ((constraints_insertUsageEvent_iff db event).mp hcons).2.1⟩
  · rw [constraints_insertUsageEvent_iff] at hcons
    refine .inr (.inl ⟨herr, (fits_insertUsageEvent_iff db event).mp hfits, ?_⟩)
    tauto
  · rw [fits_insertUsageEvent_iff] at hfits
    exact .inr (.inr ⟨herr, hfits⟩)

end UsageRepository

/-! ## Invoices -/

namespace InvoiceRepository

/-- `InvoiceRepository.create` (lines 11–16). -/
def create (db : Database) (invoice : Invoice) : Except Exn Database :=
  commit { db.toTables with invoices := db.invoices ++ [invoice] }

/-- The rows that `get_by_subscription_and_period` looks for. -/
def isForPeriod (subscriptionId : Uuid) (periodStart periodEnd : DateTime) (i : Invoice) : Bool :=
  decide (i.subscriptionId = subscriptionId) && decide (i.periodStart = some periodStart) &&
    decide (i.periodEnd = some periodEnd)

def getBySubscriptionAndPeriod (db : Database) (subscriptionId : Uuid)
    (periodStart periodEnd : DateTime) : Option Invoice :=
  db.invoices.find? (isForPeriod subscriptionId periodStart periodEnd)

/-- `get_all_by_tenant` (lines 21–28). -/
def getAllByTenant (db : Database) (tenantId : Uuid) : List Invoice :=
  let rows := db.invoices.flatMap fun i =>
    (db.subscriptions.filter fun s =>
      decide (s.id = i.subscriptionId) && decide (s.tenantId = tenantId)).map fun _ => i
  rows.insertionSort fun a b => b.createdAt ≤ a.createdAt

variable {db db' : Database} {subscriptionId : Uuid} {periodStart periodEnd : DateTime}
  {i : Invoice}

theorem isForPeriod_iff : isForPeriod subscriptionId periodStart periodEnd i = true ↔
    i.subscriptionId = subscriptionId ∧ i.periodStart = some periodStart ∧
      i.periodEnd = some periodEnd := by
  simp [isForPeriod, and_assoc]

/-- The invoice of a period stays the first one while the table only grows. -/
theorem getBySubscriptionAndPeriod_mono (hgrow : db.invoices <+: db'.invoices)
    (h : getBySubscriptionAndPeriod db subscriptionId periodStart periodEnd = some i) :
    getBySubscriptionAndPeriod db' subscriptionId periodStart periodEnd = some i :=
  hgrow.find?_eq_some h

end InvoiceRepository

/-! ## A small database -/

namespace Sample

/-- The first instant of a month of 2026. -/
def firstOf (month : ℕ) (h : 1 ≤ month ∧ month ≤ 12) : DateTime where
  year := 2026
  month := month
  day := 1
  hour := 0
  minute := 0
  second := 0
  microsecond := 0
  year_range := by decide
  month_range := h
  day_range := ⟨le_rfl, daysInMonth_pos _ _⟩
  time_range := DateTime.midnight_range

def firstOfJuly : DateTime := firstOf 7 (by decide)

def firstOfAugust : DateTime := firstOf 8 (by decide)

def july : DateTime where
  year := 2026
  month := 7
  day := 15
  hour := 12
  minute := 0
  second := 0
  microsecond := 0
  year_range := by decide
  month_range := by decide
  day_range := by decide
  time_range := by decide

def plan : Plan where
  id := ⟨2⟩
  name := "Pro"
  price := 4900
  usageLimit := 10
  apiCallLimit := 10
  tokensLimit := 10
  stripePriceId := some "price_pro"
  stripeProductId := none
  isActive := true

def subscription : Subscription where
  id := ⟨3⟩
  tenantId := ⟨1⟩
  planId := ⟨2⟩
  status := .active
  stripeCustomerId := none
  stripeSubscriptionId := some "sub_1"
  startedAt := july

/-- One tenant with one active subscription, and a limit of 10 calls a month. -/
def db : Database where
  tenants := [{ id := ⟨1⟩, name := "Acme", email := "billing@acme.test", isActive := true }]
  plans := [plan]
  subscriptions := [subscription]
  usageEvents := []
  invoices := []
  webhookEvents := []
  fits := by decide
  constraints := by decide

/-- Ten calls under the given key: the whole quota of a month. -/
def tenCalls (idempotencyKey : String) : UsageRequest :=
  .usage { subscriptionId := ⟨3⟩, quantity := 10, idempotencyKey, quantity_pos := by decide }

end Sample

end BillingEngine
