import BillingEngine.Api.Endpoints
import BillingEngine.Services.Accounts
import BillingEngine.Services.Checkout
import BillingEngine.Services.Reconciliation
import BillingEngine.Common.Unwinding
import BillingEngine.System.Serial

/-!
# The whole service

The endpoints that `app/api/router.py` includes, those that ask for the tenant and
those that do not, and one turn of the reconciliation loop of `app/main.py`. A call
runs without interruption and is answered; it carries the times at which the clock is
read, the keys that are drawn and what Stripe answers. Not part of it are `GET /` and
`GET /health`, which read nothing.

Results:
* `Call.serve_cases`: a call changes nothing, or the database as an operation does.
* `Service.run_serial`: so every run of the service is a run of operations.
-/

namespace BillingEngine

open Runs StripeService Unwinding

/-- The settings that the endpoints read (`app/core/config.py`, lines 14–17). -/
structure Settings extends StripeSettings where
  stripeWebhookSecret : Option String := none

/-- `get_stripe_client(required=True)` (`integrations/stripe.py`, lines 13–28): the
    exception without an API key. -/
def requireStripeClient (settings : Settings) : Except Exn Unit :=
  match truthyText settings.stripeApiKey with
  | none => .error (.httpException 500 "STRIPE_API_KEY is not configured")
  | some _ => .ok ()

namespace Endpoints

variable (db : Database) (settings : Settings)

/-- `POST /tenants` (`tenants.py`, lines 11–17). -/
def createTenant (tenant : TenantCreate) (id : Uuid) : Database × Except Exn TenantResponse :=
  match TenantService.createTenant db tenant id with
  | .ok db' => (db', .ok (.ofTenant (TenantRepository.newTenant tenant id)))
  | .error exn => (db, .error exn)

/-- `GET /tenants` (lines 20–25). -/
def listTenants : List TenantResponse := (TenantService.listTenants db).map .ofTenant

/-- `POST /plans` (`plans.py`, lines 14–20). -/
def createPlan (plan : PlanCreate) (id : Uuid) : Database × Except Exn PlanResponse :=
  match PlanService.createPlan db plan id with
  | .ok db' => (db', .ok (.ofPlan (PlanRepository.newPlan plan id)))
  | .error exn => (db, .error exn)

/-- `GET /plans` (lines 23–28). -/
def listPlans : List PlanResponse := (PlanService.listPlans db).map .ofPlan

/-- `POST /subscriptions` (`subscriptions.py`, lines 17–23). -/
def createSubscription (subscription : SubscriptionCreate) (now : DateTime) (id : Uuid) :
    Database × Except Exn SubscriptionResponse :=
  match SubscriptionService.createSubscription db subscription id now with
  | .ok db' =>
    (db', .ok (.ofSubscription (SubscriptionRepository.newSubscription subscription id now)))
  | .error exn => (db, .error exn)

/-- `GET /subscriptions` (lines 26–31). -/
def listSubscriptions : List SubscriptionResponse :=
  (SubscriptionService.listSubscriptions db).map .ofSubscription

/-- `GET /stripe/checkout/{tenant_id}/{plan_id}` (`stripe.py`, lines 21–38);
    `create` is what `checkout.Session.create` answers. -/
def checkout (headerTenant tenantId planId : Uuid) (create : SessionParams → Except Exn String) :
    Except Exn String :=
  if tenantId ≠ headerTenant then
    .error (.httpException 403 "Checkout tenant does not match X-Tenant-Id")
  else
    match requireStripeClient settings with
    | .error exn => .error exn
    | .ok () => createCheckoutSession settings.toStripeSettings create db tenantId planId

/-- `POST /webhooks/stripe` (lines 41–52) with the start of `handle_webhook`
    (`stripe_service.py`, lines 96–108): `verified` is what `Webhook.construct_event`
    makes of the payload. -/
def stripeWebhook (driver : Driver) (verified : Except Exn StripeEvent) (ids : NewIds)
    (now : DateTime) : Database × Except Exn Unit :=
  match requireStripeClient settings with
  | .error exn => (db, .error exn)
  | .ok () =>
    match truthyText settings.stripeWebhookSecret with
    | none => (db, .error (.httpException 500 "STRIPE_WEBHOOK_SECRET is not configured"))
    | some _ =>
      match verified with
      | .error exn => (db, .error exn)
      | .ok event => handleWebhook driver db event ids now

end Endpoints

/-- One turn of `_reconciliation_loop` (`main.py`, lines 29–35), with the defaults of
    `ReconciliationService`. -/
def reconcile (settings : Settings) (retrieve : String → ℕ → Except Exn Json) (db : Database) :
    Database × Except Exn ℕ :=
  ReconciliationService.runOnce ((truthyText settings.stripeApiKey).map fun _ => retrieve) 3 1 db

/-! ## Calls -/

namespace Api

/-- A request to the service, or a turn of the loop. -/
inductive Call where
  | createTenant (tenant : TenantCreate) (id : Uuid)
  | listTenants
  | createPlan (plan : PlanCreate) (id : Uuid)
  | listPlans
  | createSubscription (subscription : SubscriptionCreate) (now : DateTime) (id : Uuid)
  | listSubscriptions
  | tenantRequest (xTenantId : String) (request : TenantRequest) (nowBounds nowInsert : DateTime)
      (id : Uuid)
  | checkout (xTenantId : String) (tenantId planId : Uuid)
      (create : SessionParams → Except Exn String)
  | stripeWebhook (verified : Except Exn StripeEvent) (now : DateTime) (ids : NewIds)
  | reconcile (retrieve : String → ℕ → Except Exn Json)

/-- What a call is answered with, if it does not raise. -/
inductive Reply where
  | tenant (tenant : TenantResponse)
  | tenants (tenants : List TenantResponse)
  | plan (plan : PlanResponse)
  | plans (plans : List PlanResponse)
  | subscription (subscription : SubscriptionResponse)
  | subscriptions (subscriptions : List SubscriptionResponse)
  | response (response : Response)
  | url (url : String)
  | ok
  | synced (count : ℕ)
deriving DecidableEq

namespace Call

/-- The keys that the call draws. -/
def drawn : Call → List Uuid
  | createTenant _ id | createPlan _ id => [id]
  | createSubscription _ _ id | tenantRequest _ _ _ _ id => [id]
  | stripeWebhook _ _ ids => [ids.marker, ids.subscription]
  | _ => []

/-- The idempotency key that the call carries. -/
def idempotencyKey : Call → Option String
  | tenantRequest _ request _ _ _ => request.idempotencyKey
  | _ => none

/-- The database after a call, and the reply. -/
def serve (driver : Driver) (settings : Settings) (db : Database) :
    Call → Database × Except Exn Reply
  | createTenant tenant id =>
    let r := Endpoints.createTenant db tenant id
    (r.1, r.2.map .tenant)
  | listTenants => (db, .ok (.tenants (Endpoints.listTenants db)))
  | createPlan plan id =>
    let r := Endpoints.createPlan db plan id
    (r.1, r.2.map .plan)
  | listPlans => (db, .ok (.plans (Endpoints.listPlans db)))
  | createSubscription subscription now id =>
    let r := Endpoints.createSubscription db subscription now id
    (r.1, r.2.map .subscription)
  | listSubscriptions => (db, .ok (.subscriptions (Endpoints.listSubscriptions db)))
  | tenantRequest xTenantId request nowBounds nowInsert id =>
    let r := request.serve db xTenantId nowBounds nowInsert id
    (r.1, r.2.map .response)
  | checkout xTenantId tenantId planId create =>
    match getCurrentTenantId xTenantId with
    | .error exn => (db, .error exn)
    | .ok headerTenant =>
      (db, (Endpoints.checkout db settings headerTenant tenantId planId create).map .url)
  | stripeWebhook verified now ids =>
    let r := Endpoints.stripeWebhook db settings driver verified ids now
    (r.1, r.2.map fun _ => .ok)
  | reconcile retrieve =>
    let r := BillingEngine.reconcile settings retrieve db
    (r.1, r.2.map .synced)

/-- The times at which the call reads the clock, in order. -/
def times : Call → List DateTime
  | createSubscription _ now _ | stripeWebhook _ now _ => [now]
  | tenantRequest _ _ nowBounds nowInsert _ => [nowBounds, nowInsert]
  | _ => []

end Call

end Api

/-! ## Calls as operations -/

section Operations

variable {driver : Driver} {settings : Settings} {db : Database} {tenantId id : Uuid}
  {nowBounds nowInsert : DateTime}

/-- What is left of a database when an endpoint that checks the owner has run. -/
theorem withOwned_fst {α : Type} {sid : Uuid} {body : Database × Except Exn α} :
    (withOwned db sid tenantId body).1 = db ∨ (withOwned db sid tenantId body).1 = body.1 := by
  unfold withOwned
  cases getOwnedSubscription db sid tenantId with
  | error exn => exact .inl rfl
  | ok s => exact .inr rfl

/-- A request of a tenant changes nothing, meters, or makes a bill. -/
theorem TenantRequest.handle_cases (request : TenantRequest) :
    (request.handle db tenantId nowBounds nowInsert id).1 = db ∨
      (∃ usage, (request.handle db tenantId nowBounds nowInsert id).1 =
        (UsageService.recordUsage db usage nowBounds nowInsert id).1) ∨
      ∃ sid, (request.handle db tenantId nowBounds nowInsert id).1 =
        (BillingService.calculateBill db sid none none nowBounds nowInsert id).1 := by
  cases request with
  | listUsage | listInvoices => exact .inl rfl
  | recordUsage body =>
    simp only [handle, Endpoints.recordUsage]
    refine withOwned_fst.imp_right fun h => .inl ⟨.usage body, h.trans ?_⟩
    rcases UsageService.recordUsage db (.usage body) nowBounds nowInsert id with
      ⟨db', exn | _ | event⟩ <;> rfl
  | generate body =>
    simp only [handle, Endpoints.generate, GenerateService.generate]
    refine withOwned_fst.imp_right fun h => .inl ⟨.tokens body, h.trans ?_⟩
    rcases UsageService.recordUsage db (.tokens body) nowBounds nowInsert id with
      ⟨db', exn | _ | event⟩ <;> rfl
  | usageRollup sid =>
    left
    simp only [handle, Endpoints.usageRollup]
    refine withOwned_fst.elim (fun h => h) fun h => h.trans ?_
    cases monthBounds nowBounds with
    | error exn => rfl
    | ok bounds =>
      obtain ⟨periodStart, periodEnd⟩ := bounds
      dsimp only
      rcases CostService.rollup db sid periodStart periodEnd with exn | _ | rollup <;> rfl
  | calculateBill sid =>
    simp only [handle, Endpoints.calculateBill]
    exact withOwned_fst.imp_right fun h => .inr ⟨sid, h⟩

/-- **What a call does to the database.** -/
theorem Api.Call.serve_cases (call : Call) :
    (call.serve driver settings db).1 = db ∨ ∃ op : Op, op.times = call.times ∧
      op.editsPlans = false ∧ (call.serve driver settings db).1 = op.apply driver db := by
  cases call with
  | listTenants | listPlans | listSubscriptions => exact .inl rfl
  | createTenant tenant id =>
    refine .inr ⟨.createTenant tenant id, rfl, rfl, ?_⟩
    simp only [serve, Endpoints.createTenant, Op.apply]
    cases TenantService.createTenant db tenant id <;> rfl
  | createPlan plan id =>
    refine .inr ⟨.createPlan plan id, rfl, rfl, ?_⟩
    simp only [serve, Endpoints.createPlan, Op.apply]
    cases PlanService.createPlan db plan id <;> rfl
  | createSubscription subscription now id =>
    refine .inr ⟨.createSubscription subscription now id, rfl, rfl, ?_⟩
    simp only [serve, Endpoints.createSubscription, Op.apply]
    cases SubscriptionService.createSubscription db subscription id now <;> rfl
  | tenantRequest xTenantId request nowBounds nowInsert id =>
    simp only [serve, TenantRequest.serve]
    cases getCurrentTenantId xTenantId with
    | error exn => exact .inl rfl
    | ok tenantId =>
      rcases request.handle_cases with h | ⟨usage, h⟩ | ⟨sid, h⟩
      · exact .inl h
      · exact .inr ⟨.recordUsage usage nowBounds nowInsert id, rfl, rfl, h⟩
      · exact .inr ⟨.calculateBill sid nowBounds nowInsert id, rfl, rfl, h⟩
  | checkout xTenantId named planId create =>
    left
    simp only [serve]
    cases getCurrentTenantId xTenantId <;> rfl
  | stripeWebhook verified now ids =>
    simp only [serve, Endpoints.stripeWebhook]
    cases requireStripeClient settings with
    | error exn => exact .inl rfl
    | ok client =>
      cases truthyText settings.stripeWebhookSecret with
      | none => exact .inl rfl
      | some secret =>
        cases verified with
        | error exn => exact .inl rfl
        | ok event => exact .inr ⟨.handleWebhook event now ids, rfl, rfl, rfl⟩
  | reconcile retrieve => exact .inr ⟨.runOnce _ 3 1, rfl, rfl, rfl⟩

end Operations

/-! ## The service as a system -/

open Api

/-- The database, and the keys that `uuid4()` has drawn so far. -/
structure Service where
  db : Database
  drawn : List Uuid

namespace Service

/-- The service right after the migrations. -/
def initial : Service where
  db := .empty
  drawn := []

/-- One call. -/
def step (driver : Driver) (settings : Settings) (s : Service) (call : Call) :
    Service × Except Exn Api.Reply :=
  let r := call.serve driver settings s.db
  ({ db := r.1, drawn := call.drawn ++ s.drawn }, r.2)

/-- Reading the clock is an operation. -/
theorem run_readClock {driver : Driver} (db : Database) {ts : List DateTime} :
    ∀ {clock clock' : DateTime}, Serial.readClock clock ts = some clock' →
      Run (Serial.next driver) (fun _ op => op.editsPlans = false) ⟨db, clock⟩ ⟨db, clock'⟩ := by
  induction ts with
  | nil => intro clock clock' h; cases h; exact .refl
  | cons t ts ih =>
    intro clock clock' h
    rw [Serial.readClock] at h
    split_ifs at h with hle
    have hnext : Serial.next driver ⟨db, clock⟩ (.advance t) = some ⟨db, t⟩ :=
      Serial.next_eq_some.mpr ⟨by simp [Op.times, Serial.readClock, hle], rfl⟩
    have hstep : Run (Serial.next driver) (fun _ op => op.editsPlans = false) ⟨db, clock⟩ ⟨db, t⟩ :=
      .single rfl hnext
    exact hstep.trans (ih h)

/-- The clock after one call, and after the calls that follow. -/
theorem readClock_append (ts ts' : List DateTime) (clock : DateTime) :
    Serial.readClock clock (ts ++ ts') =
      (Serial.readClock clock ts).bind fun clock' => Serial.readClock clock' ts' := by
  induction ts generalizing clock with
  | nil => rfl
  | cons t ts ih =>
    simp only [List.cons_append, Serial.readClock]
    split_ifs
    · exact ih t
    · rfl

/-- **A run of the service is a run of operations**, as long as the clock does not go
    back; no call edits a plan. -/
theorem run_serial (driver : Driver) (settings : Settings) (calls : List Call) :
    ∀ {s : Service} {clock clock' : DateTime},
      Serial.readClock clock (calls.flatMap Call.times) = some clock' →
      Run (Serial.next driver) (fun _ op => op.editsPlans = false) ⟨s.db, clock⟩
        ⟨(after (step driver settings) s calls).db, clock'⟩ := by
  induction calls with
  | nil => intro s clock clock' h; cases h; exact .refl
  | cons call calls ih =>
    intro s clock clock' h
    rw [List.flatMap_cons, readClock_append] at h
    obtain ⟨between, hfirst, hrest⟩ := Option.bind_eq_some_iff.mp h
    have hrun : Run (Serial.next driver) (fun _ op => op.editsPlans = false) ⟨s.db, clock⟩
        ⟨(step driver settings s call).1.db, between⟩ := by
      rcases call.serve_cases with hsame | ⟨op, htimes, hedits, happly⟩
      · rw [show (step driver settings s call).1.db = s.db from hsame]
        exact run_readClock s.db hfirst
      · exact .single hedits (Serial.next_eq_some.mpr ⟨htimes ▸ hfirst, happly⟩)
    exact hrun.trans (ih hrest)

end Service

end BillingEngine
