import BillingEngine.Model.Repositories

/-!
# Creating tenants, plans and subscriptions

`TenantService.create_tenant` (`app/services/tenant_service.py`),
`PlanService.create_plan` (`app/services/plan_service.py`) and
`SubscriptionService.create_subscription`
(`app/services/subscription_service.py`): the first two look for a duplicate
before they insert, the third leaves every check to the database.

Result: `create_effect` lemmas, one for each table: a creation appends one row
or changes nothing.
-/

namespace BillingEngine

namespace TenantService

/-- `create_tenant(tenant)` -/
def createTenant (db : Database) (tenant : TenantCreate) (id : Uuid) : Except Exn Database :=
  match TenantRepository.lookupEmail db tenant.email with
  | .error exn => .error exn
  | .ok (some _) => .error (.httpException 400 "Email already exists")
  | .ok none => TenantRepository.create db tenant id

/-- `list_tenants()` -/
def listTenants (db : Database) : List Tenant := TenantRepository.getAll db

theorem createTenant_effect {db db' : Database} {tenant : TenantCreate} {id : Uuid}
    (h : createTenant db tenant id = .ok db') :
    ∃ row : Tenant, db'.toTables = { db.toTables with tenants := db.tenants ++ [row] } := by
  unfold createTenant at h
  split at h
  · cases h
  · cases h
  · exact ⟨_, commit_eq_ok.mp (execute_eq_ok.mp h).2⟩

end TenantService

namespace PlanService

/-- `create_plan(plan)` -/
def createPlan (db : Database) (plan : PlanCreate) (id : Uuid) : Except Exn Database :=
  match PlanRepository.lookupName db plan.name with
  | .error exn => .error exn
  | .ok (some _) => .error (.httpException 400 "Plan already exists")
  | .ok none => PlanRepository.create db plan id

/-- `list_plans()` -/
def listPlans (db : Database) : List Plan := PlanRepository.getAll db

theorem createPlan_effect {db db' : Database} {plan : PlanCreate} {id : Uuid}
    (h : createPlan db plan id = .ok db') :
    ∃ row : Plan, db'.toTables = { db.toTables with plans := db.plans ++ [row] } := by
  unfold createPlan at h
  split at h
  · cases h
  · cases h
  · exact ⟨_, commit_eq_ok.mp (execute_eq_ok.mp h).2⟩

end PlanService

namespace SubscriptionService

/-- `create_subscription(subscription)` -/
def createSubscription (db : Database) (subscription : SubscriptionCreate) (id : Uuid)
    (now : DateTime) : Except Exn Database :=
  SubscriptionRepository.create db subscription id now

/-- `list_subscriptions()` -/
def listSubscriptions (db : Database) : List Subscription := SubscriptionRepository.getAll db

theorem createSubscription_effect {db db' : Database} {subscription : SubscriptionCreate}
    {id : Uuid} {now : DateTime} (h : createSubscription db subscription id now = .ok db') :
    ∃ row : Subscription,
      db'.toTables = { db.toTables with subscriptions := db.subscriptions ++ [row] } :=
  ⟨_, commit_eq_ok.mp h⟩

end SubscriptionService

end BillingEngine
