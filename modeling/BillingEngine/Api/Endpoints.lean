import BillingEngine.Services.Billing
import BillingEngine.Services.Cost

/-!
# The tenant-scoped endpoints

`app/dependencies/tenant.py` and the endpoints of `app/api/v1/endpoints/`
(`usage.py`, `generate.py`, `billing.py`, `invoices.py`) that ask for the
`X-Tenant-Id` header. An endpoint that names a subscription first checks that it
belongs to the tenant; the services behind it take the subscription id only.

The header is text and the bodies are validated values. An endpoint runs without
interruption; `nowBounds` and `nowInsert` are the times at which it reads the
clock and `id` is the key it draws, where it does.

Results: `getOwnedSubscription_eq_ok` (what the check has established) and
`withOwned_of_owned` (an endpoint on an owned subscription is what follows the
check).
-/

namespace BillingEngine

open SubscriptionRepository

/-! ## Dependencies -/

/-- `get_current_tenant_id(x_tenant_id)` (`tenant.py`, lines 18–27). -/
def getCurrentTenantId (xTenantId : String) : Except Exn Uuid :=
  match Uuid.parse xTenantId with
  | .ok tenantId => .ok tenantId
  | .error _ => .error (.httpException 400 "X-Tenant-Id header must be a valid UUID")

/-- `get_owned_subscription(subscription_id, tenant_id, db)` (lines 30–44). -/
def getOwnedSubscription (db : Database) (subscriptionId tenantId : Uuid) :
    Except Exn Subscription :=
  match getById db subscriptionId with
  | none => .error (.resourceNotFound s!"Subscription {subscriptionId.str} not found")
  | some subscription =>
    if subscription.tenantId ≠ tenantId then
      .error (.httpException 403 "Subscription does not belong to this tenant")
    else .ok subscription

theorem getOwnedSubscription_eq_ok {db : Database} {subscriptionId tenantId : Uuid}
    {subscription : Subscription} :
    getOwnedSubscription db subscriptionId tenantId = .ok subscription ↔
      subscription ∈ db.subscriptions ∧ subscription.id = subscriptionId ∧
        subscription.tenantId = tenantId := by
  unfold getOwnedSubscription
  constructor
  · intro h
    split at h
    · cases h
    · rename_i found hfound
      split_ifs at h with howner
      cases h
      obtain ⟨hmem, hid⟩ := getById_eq_some_iff.mp hfound
      exact ⟨hmem, hid, not_not.mp howner⟩
  · rintro ⟨hmem, hid, howner⟩
    rw [getById_eq_some_iff.mpr ⟨hmem, hid⟩]
    simp [howner]

/-- An endpoint whose first statement is `get_owned_subscription`. -/
def withOwned {α : Type} (db : Database) (subscriptionId tenantId : Uuid)
    (body : Database × Except Exn α) : Database × Except Exn α :=
  match getOwnedSubscription db subscriptionId tenantId with
  | .error exn => (db, .error exn)
  | .ok _ => body

theorem withOwned_of_owned {α : Type} {db : Database} {subscriptionId tenantId : Uuid}
    {body : Database × Except Exn α} {subscription : Subscription}
    (h : subscription ∈ db.subscriptions) (hid : subscription.id = subscriptionId)
    (howner : subscription.tenantId = tenantId) :
    withOwned db subscriptionId tenantId body = body := by
  rw [withOwned, getOwnedSubscription_eq_ok.mpr ⟨h, hid, howner⟩]

/-! ## Endpoints -/

namespace Endpoints

section

variable (db : Database) (tenantId : Uuid)

/-- `POST /usage` (`usage.py`, lines 26–34). -/
def recordUsage (usage : UsageCreate) (nowBounds nowInsert : DateTime) (id : Uuid) :
    Database × Except Exn UsageResponse :=
  withOwned db usage.subscriptionId tenantId <|
    match UsageService.recordUsage db (.usage usage) nowBounds nowInsert id with
    | (db', .ok (some event)) => (db', .ok (.ofEvent event))
    | (db', .ok none) => (db', .error .responseValidation)
    | (db', .error exn) => (db', .error exn)

/-- `POST /generate` (`generate.py`, lines 17–24). -/
def generate (request : TokenUsageCreate) (nowBounds nowInsert : DateTime) (id : Uuid) :
    Database × Except Exn GenerateResponse :=
  withOwned db request.subscriptionId tenantId <|
    GenerateService.generate db request nowBounds nowInsert id

/-- `GET /usage` (`usage.py`, lines 37–43). -/
def listUsage : List UsageResponse :=
  (UsageRepository.getAllByTenant db tenantId).map .ofEvent

/-- `GET /usage/{subscription_id}` (`usage.py`, lines 46–54). -/
def usageRollup (subscriptionId : Uuid) (nowBounds : DateTime) :
    Database × Except Exn UsageRollupResponse :=
  withOwned db subscriptionId tenantId <|
    match monthBounds nowBounds with
    | .error exn => (db, .error exn)
    | .ok (periodStart, periodEnd) =>
      match CostService.rollup db subscriptionId periodStart periodEnd with
      | .error exn => (db, .error exn)
      | .ok none => (db, .error .responseValidation)
      | .ok (some response) => (db, .ok response)

/-- `GET /billing/{subscription_id}` (`billing.py`, lines 20–31). -/
def calculateBill (subscriptionId : Uuid) (nowBounds nowInsert : DateTime) (id : Uuid) :
    Database × Except Exn BillingResponse :=
  withOwned db subscriptionId tenantId <|
    BillingService.calculateBill db subscriptionId none none nowBounds nowInsert id

/-- `GET /invoices` (`invoices.py`, lines 14–20). -/
def listInvoices : List InvoiceResponse :=
  (InvoiceRepository.getAllByTenant db tenantId).map .ofInvoice

end

end Endpoints

/-! ## Requests -/

/-- A request to one of them. -/
inductive TenantRequest where
  | recordUsage (usage : UsageCreate)
  | generate (request : TokenUsageCreate)
  | listUsage
  | usageRollup (subscriptionId : Uuid)
  | calculateBill (subscriptionId : Uuid)
  | listInvoices

/-- The body of a successful response. -/
inductive Response where
  | usage (event : UsageResponse)
  | generate (answer : GenerateResponse)
  | usageList (events : List UsageResponse)
  | rollup (rollup : UsageRollupResponse)
  | bill (bill : BillingResponse)
  | invoices (invoices : List InvoiceResponse)
deriving DecidableEq

namespace TenantRequest

/-- The subscription that the request names. -/
def subscriptionId : TenantRequest → Option Uuid
  | recordUsage usage => some usage.subscriptionId
  | generate request => some request.subscriptionId
  | usageRollup subscriptionId => some subscriptionId
  | calculateBill subscriptionId => some subscriptionId
  | listUsage | listInvoices => none

/-- The idempotency key that the request carries. -/
def idempotencyKey : TenantRequest → Option String
  | recordUsage usage => some usage.idempotencyKey
  | generate request => some request.idempotencyKey
  | _ => none

/-- The endpoint that the request goes to. -/
def handle (db : Database) (tenantId : Uuid) (nowBounds nowInsert : DateTime) (id : Uuid) :
    TenantRequest → Database × Except Exn Response
  | recordUsage usage =>
    let r := Endpoints.recordUsage db tenantId usage nowBounds nowInsert id
    (r.1, r.2.map .usage)
  | generate request =>
    let r := Endpoints.generate db tenantId request nowBounds nowInsert id
    (r.1, r.2.map .generate)
  | listUsage => (db, .ok (.usageList (Endpoints.listUsage db tenantId)))
  | usageRollup subscriptionId =>
    let r := Endpoints.usageRollup db tenantId subscriptionId nowBounds
    (r.1, r.2.map .rollup)
  | calculateBill subscriptionId =>
    let r := Endpoints.calculateBill db tenantId subscriptionId nowBounds nowInsert id
    (r.1, r.2.map .bill)
  | listInvoices => (db, .ok (.invoices (Endpoints.listInvoices db tenantId)))

/-- The request with its header. -/
def serve (db : Database) (xTenantId : String) (request : TenantRequest)
    (nowBounds nowInsert : DateTime) (id : Uuid) : Database × Except Exn Response :=
  match getCurrentTenantId xTenantId with
  | .error exn => (db, .error exn)
  | .ok tenantId => request.handle db tenantId nowBounds nowInsert id

end TenantRequest

end BillingEngine
