import BillingEngine.System.SubscriptionRows

/-!
# The demo data (`scripts/seed.py`)

The script looks for two plans by name, for a tenant by email and for a
subscription of that tenant, adds what is missing, and commits once. Every added
row but the last is flushed at once: its `INSERT` is checked there, and the queries
after it see the row. So the transaction works on tables that satisfy the
constraints, and an exception anywhere leaves the database as it was.

Its docstring promises that running it again does not duplicate rows.

Results:
* `seed_once`: with keys that are not in use the script succeeds on every database
  and adds exactly the missing rows; and from then on, whatever the API, Stripe
  and the background job have done to the database in between, as long as plans keep
  their names, every later run of it adds nothing and prints the same ids. Of several
  subscriptions of the tenant the query returns any, so the id of the subscription is
  the same only as long as the tenant has no second one.
-/

namespace BillingEngine

open Runs SubscriptionRepository

namespace Seed

/-! ## The script -/

/-- An entry of `PLAN_SPECS`. -/
structure PlanSpec where
  name : String
  price : ℤ
  usageLimit : ℤ
  apiCallLimit : ℤ
  tokensLimit : ℤ

/-- `PLAN_SPECS` (lines 22–37) -/
def planSpecs : List PlanSpec :=
  [{ name := "Free", price := 0, usageLimit := 1000, apiCallLimit := 1000, tokensLimit := 100000 },
    { name := "Pro", price := 5000, usageLimit := 10000, apiCallLimit := 10000,
      tokensLimit := 5000000 }]

/-- `Plan(**spec)` -/
def PlanSpec.row (spec : PlanSpec) (id : Uuid) : Plan where
  id := id
  name := spec.name
  price := spec.price
  usageLimit := spec.usageLimit
  apiCallLimit := spec.apiCallLimit
  tokensLimit := spec.tokensLimit
  stripePriceId := none
  stripeProductId := none
  isActive := true

/-- The keys that the script draws; one for each plan that it may have to create. -/
structure Keys where
  plan : String → Uuid
  tenant : Uuid
  subscription : Uuid

/-- `Tenant(name="Demo Tenant", email="demo@example.com")` -/
def demoTenant (keys : Keys) : Tenant where
  id := keys.tenant
  name := "Demo Tenant"
  email := "demo@example.com"
  isActive := true

/-- `Subscription(tenant_id=…, plan_id=…, status=SubscriptionStatus.ACTIVE)` -/
def demoSubscription (keys : Keys) (now : DateTime) (tenantId planId : Uuid) : Subscription where
  id := keys.subscription
  tenantId := tenantId
  planId := planId
  status := .active
  stripeCustomerId := none
  stripeSubscriptionId := none
  startedAt := now

/-- One turn of the loop (lines 44–53): the plan of that name, created if there is
    none. -/
def ensurePlan (keys : Keys) (db : Database) (spec : PlanSpec) : Except Exn (Database × Plan) :=
  match PlanRepository.getByName db spec.name with
  | some plan => .ok (db, plan)
  | none => do
    let plan := spec.row (keys.plan spec.name)
    return (← commit { db.toTables with plans := db.plans ++ [plan] }, plan)

/-- The loop over the specs; `plans` is the dictionary of line 43. -/
def ensurePlans (keys : Keys) : List PlanSpec → Database → List (String × Plan) →
    Except Exn (Database × List (String × Plan))
  | [], db, plans => .ok (db, plans)
  | spec :: specs, db, plans => do
    let (db, plan) ← ensurePlan keys db spec
    ensurePlans keys specs db (plans ++ [(spec.name, plan)])

/-- Lines 55–60. -/
def ensureTenant (keys : Keys) (db : Database) : Except Exn (Database × Tenant) :=
  match TenantRepository.getByEmail db "demo@example.com" with
  | some tenant => .ok (db, tenant)
  | none => do
    let tenant := demoTenant keys
    return (← commit { db.toTables with tenants := db.tenants ++ [tenant] }, tenant)

/-- `plans[name]` -/
def getItem (plans : List (String × Plan)) (name : String) : Except Exn Plan :=
  match plans.lookup name with
  | some plan => .ok plan
  | none => .error (.keyError name)

/-- Lines 62–74, with the commit of line 76. -/
def ensureSubscription (keys : Keys) (now : DateTime) (db : Database)
    (plans : List (String × Plan)) (tenant : Tenant) : Except Exn (Database × Subscription) :=
  match getByTenant db tenant.id with
  | some subscription => .ok (db, subscription)
  | none => do
    let free ← getItem plans "Free"
    let subscription := demoSubscription keys now tenant.id free.id
    return (← commit { db.toTables with subscriptions := db.subscriptions ++ [subscription] },
      subscription)

/-- The ids that the script prints. -/
structure Printed where
  tenant : Uuid
  freePlan : Uuid
  proPlan : Uuid
  subscription : Uuid

/-- `main()` -/
def main (keys : Keys) (now : DateTime) (db : Database) : Except Exn (Database × Printed) := do
  let (db, plans) ← ensurePlans keys planSpecs db []
  let (db, tenant) ← ensureTenant keys db
  let (db, subscription) ← ensureSubscription keys now db plans tenant
  let free ← getItem plans "Free"
  let pro ← getItem plans "Pro"
  return (db, { tenant := tenant.id, freePlan := free.id, proPlan := pro.id,
                subscription := subscription.id })

/-! ## What the script adds -/

/-- The drawn keys are not in use, and those of the plans are different. -/
structure Keys.Fresh (keys : Keys) (db : Database) : Prop where
  plan : ∀ spec ∈ planSpecs, keys.plan spec.name ∉ db.ids
  distinct : (planSpecs.map fun spec => keys.plan spec.name).Nodup
  tenant : keys.tenant ∉ db.ids
  subscription : keys.subscription ∉ db.ids

/-- The plans after the loop. -/
def seededPlans (keys : Keys) (specs : List PlanSpec) (plans : List Plan) : List Plan :=
  specs.foldl (fun plans spec => Rows.ensure Plan.name (spec.row (keys.plan spec.name)) plans) plans

section Steps

variable {keys : Keys} {now : DateTime} {db : Database} {spec : PlanSpec}

theorem fits_row (hspec : spec ∈ planSpecs) (id : Uuid) : (spec.row id).Fits := by
  have hall : ∀ spec ∈ planSpecs, (spec.row ⟨0⟩).Fits := by decide
  exact hall spec hspec

theorem commit_pair {α : Type} {t : Tables} {db' : Database} {x : α} (h : commit t = .ok db') :
    (do return (← commit t, x) : Except Exn (Database × α)) = .ok (db', x) := by
  rw [h]
  rfl

/-- The plan that is missing is added, and then it is there. -/
theorem ensurePlan_ok (hspec : spec ∈ planSpecs)
    (hid : keys.plan spec.name ∉ db.plans.map Plan.id) :
    ∃ db' plan, ensurePlan keys db spec = .ok (db', plan) ∧
      db'.toTables = { db.toTables with
        plans := Rows.ensure Plan.name (spec.row (keys.plan spec.name)) db.plans } ∧
      PlanRepository.getByName db' spec.name = some plan := by
  unfold ensurePlan
  cases hname : PlanRepository.getByName db spec.name with
  | some plan =>
    have hsame : Rows.ensure Plan.name (spec.row (keys.plan spec.name)) db.plans = db.plans :=
      Rows.ensure_of_find? hname
    exact ⟨db, plan, rfl, by rw [hsame], hname⟩
  | none =>
    let row := spec.row (keys.plan spec.name)
    have hadd : Rows.ensure Plan.name row db.plans = db.plans ++ [row] := Rows.ensure_of_none hname
    have hnew : row.name ∉ db.plans.map Plan.name := by
      intro hmem
      obtain ⟨plan, hplan, heq⟩ := List.mem_map.mp hmem
      exact Rows.find?_eq_none.mp hname plan hplan heq
    obtain ⟨db', hcommit⟩ : ∃ db', commit { db.toTables with plans := db.plans ++ [row] } =
        .ok db' := by
      refine commit_isOk_iff.mpr ⟨?_, db.constraints.insertPlan hid hnew⟩
      exact ⟨db.fits.tenants, List.forall_mem_append.mpr
        ⟨db.fits.plans, List.forall_mem_singleton.mpr (fits_row hspec _)⟩, db.fits.usageEvents,
        db.fits.invoices⟩
    have ht := commit_eq_ok.mp hcommit
    refine ⟨db', row, commit_pair hcommit, by rw [ht, hadd], ?_⟩
    have hold : db.plans.find? (fun p => decide (p.name = spec.name)) = none := hname
    rw [PlanRepository.getByName, ht, List.find?_append, hold]
    simp [row, PlanSpec.row]

/-- A plan that is found goes on being found while rows are only added. -/
theorem getByName_of_prefix {db' : Database} {name : String} {plan : Plan}
    (hgrow : db.plans <+: db'.plans) (h : PlanRepository.getByName db name = some plan) :
    PlanRepository.getByName db' name = some plan :=
  hgrow.find?_eq_some h

/-- What the dictionary says is what the table says. -/
def Agrees (db : Database) (plans : List (String × Plan)) : Prop :=
  ∀ p ∈ plans, PlanRepository.getByName db p.1 = some p.2

variable (keys) in
/-- The loop over any of the specs. -/
theorem ensurePlans_ok (specs : List PlanSpec) : ∀ (db : Database) (plans : List (String × Plan)),
    specs ⊆ planSpecs → (specs.map fun spec => keys.plan spec.name).Nodup →
    (∀ spec ∈ specs, keys.plan spec.name ∉ db.plans.map Plan.id) → Agrees db plans →
    ∃ db' plans', ensurePlans keys specs db plans = .ok (db', plans') ∧
      db'.toTables = { db.toTables with plans := seededPlans keys specs db.plans } ∧
      plans'.map Prod.fst = plans.map Prod.fst ++ specs.map PlanSpec.name ∧ Agrees db' plans' := by
  induction specs with
  | nil => exact fun db plans _ _ _ hagrees => ⟨db, plans, rfl, rfl, by simp, hagrees⟩
  | cons spec specs ih =>
    intro db plans hspecs hdistinct hfresh hagrees
    obtain ⟨hspec, hspecs⟩ := List.cons_subset.mp hspecs
    rw [List.map_cons, List.nodup_cons] at hdistinct
    obtain ⟨db₁, plan, hplan, ht₁, hfound⟩ := ensurePlan_ok hspec (hfresh _ List.mem_cons_self)
    have hgrow : db.plans <+: db₁.plans := by rw [ht₁]; exact Rows.prefix_ensure _ _ _
    have hfresh₁ : ∀ spec' ∈ specs, keys.plan spec'.name ∉ db₁.plans.map Plan.id := by
      intro spec' hspec' hmem
      rw [ht₁] at hmem
      rcases Rows.mem_map_ensure hmem with hmem | heq
      · exact hfresh spec' (List.mem_cons_of_mem _ hspec') hmem
      · exact hdistinct.1 (List.mem_map.mpr ⟨spec', hspec', heq⟩)
    have hagrees₁ : Agrees db₁ (plans ++ [(spec.name, plan)]) :=
      List.forall_mem_append.mpr ⟨fun p hp => getByName_of_prefix hgrow (hagrees p hp),
        List.forall_mem_singleton.mpr hfound⟩
    obtain ⟨db', plans', hrest, ht', hnames, hagrees'⟩ :=
      ih db₁ _ hspecs hdistinct.2 hfresh₁ hagrees₁
    refine ⟨db', plans', ?_, ?_, ?_, hagrees'⟩
    · simp only [ensurePlans, hplan]
      exact hrest
    · rw [ht', ht₁]
      rfl
    · rw [hnames]
      simp

/-- The dictionary has the plans of all its names. -/
theorem getItem_ok {plans : List (String × Plan)} {name : String} (h : Agrees db plans)
    (hname : name ∈ plans.map Prod.fst) : ∃ plan, getItem plans name = .ok plan ∧
      PlanRepository.getByName db name = some plan := by
  obtain ⟨p, hp, rfl⟩ := List.mem_map.mp hname
  unfold getItem
  cases hlookup : plans.lookup p.1 with
  | none => simpa using List.lookup_eq_none_iff.mp hlookup p hp
  | some plan =>
    obtain ⟨l₁, l₂, rfl, -⟩ := List.lookup_eq_some_iff.mp hlookup
    exact ⟨plan, rfl, h (p.1, plan) (by simp)⟩

theorem ensureTenant_ok (hid : keys.tenant ∉ db.tenants.map Tenant.id) :
    ∃ db' tenant, ensureTenant keys db = .ok (db', tenant) ∧
      db'.toTables = { db.toTables with
        tenants := Rows.ensure Tenant.email (demoTenant keys) db.tenants } ∧
      TenantRepository.getByEmail db' "demo@example.com" = some tenant := by
  unfold ensureTenant
  cases hemail : TenantRepository.getByEmail db "demo@example.com" with
  | some tenant =>
    have hsame : Rows.ensure Tenant.email (demoTenant keys) db.tenants = db.tenants :=
      Rows.ensure_of_find? hemail
    exact ⟨db, tenant, rfl, by rw [hsame], hemail⟩
  | none =>
    have hadd : Rows.ensure Tenant.email (demoTenant keys) db.tenants =
        db.tenants ++ [demoTenant keys] := Rows.ensure_of_none hemail
    have hnew : (demoTenant keys).email ∉ db.tenants.map Tenant.email := by
      intro hmem
      obtain ⟨tenant, htenant, heq⟩ := List.mem_map.mp hmem
      exact Rows.find?_eq_none.mp hemail tenant htenant heq
    obtain ⟨db', hcommit⟩ : ∃ db', commit { db.toTables with
        tenants := db.tenants ++ [demoTenant keys] } = .ok db' := by
      refine commit_isOk_iff.mpr ⟨?_, db.constraints.insertTenant hid hnew⟩
      have hfits : (demoTenant keys).Fits := by
        simp only [demoTenant, Tenant.Fits]; decide
      exact ⟨List.forall_mem_append.mpr ⟨db.fits.tenants, List.forall_mem_singleton.mpr hfits⟩,
        db.fits.plans, db.fits.usageEvents, db.fits.invoices⟩
    have ht := commit_eq_ok.mp hcommit
    refine ⟨db', demoTenant keys, commit_pair hcommit, by rw [ht, hadd], ?_⟩
    have hold : db.tenants.find? (fun t => decide (t.email = "demo@example.com")) = none := hemail
    rw [TenantRepository.getByEmail, ht, List.find?_append, hold]
    simp [demoTenant]

variable (now) in
theorem ensureSubscription_ok {plans : List (String × Plan)} {tenant : Tenant} {free : Plan}
    (hid : keys.subscription ∉ db.subscriptions.map Subscription.id) (htenant : tenant ∈ db.tenants)
    (hfree : getItem plans "Free" = .ok free) (hplan : free ∈ db.plans) :
    ∃ db' subscription, ensureSubscription keys now db plans tenant = .ok (db', subscription) ∧
      db'.toTables = { db.toTables with
        subscriptions := Rows.ensure Subscription.tenantId
          (demoSubscription keys now tenant.id free.id) db.subscriptions } ∧
      getByTenant db' tenant.id = some subscription := by
  unfold ensureSubscription
  let row := demoSubscription keys now tenant.id free.id
  cases hsub : getByTenant db tenant.id with
  | some subscription =>
    have hsame : Rows.ensure Subscription.tenantId row db.subscriptions = db.subscriptions :=
      Rows.ensure_of_find? hsub
    exact ⟨db, subscription, rfl, by rw [hsame], hsub⟩
  | none =>
    have hadd : Rows.ensure Subscription.tenantId row db.subscriptions =
        db.subscriptions ++ [row] := Rows.ensure_of_none hsub
    obtain ⟨db', hcommit⟩ : ∃ db', commit { db.toTables with
        subscriptions := db.subscriptions ++ [row] } = .ok db' :=
      commit_isOk_iff.mpr ⟨⟨db.fits.tenants, db.fits.plans, db.fits.usageEvents, db.fits.invoices⟩,
        db.constraints.insertSubscription hid (List.mem_map_of_mem htenant)
          (List.mem_map_of_mem hplan) rfl⟩
    have ht := commit_eq_ok.mp hcommit
    have hrun : (do
        let free ← getItem plans "Free"
        let subscription := demoSubscription keys now tenant.id free.id
        return (← commit { db.toTables with
          subscriptions := db.subscriptions ++ [subscription] }, subscription)) =
        (.ok (db', row) : Except Exn _) := by
      rw [hfree]
      exact commit_pair hcommit
    refine ⟨db', row, hrun, by rw [ht, hadd], ?_⟩
    have hold : db.subscriptions.find? (fun s => decide (s.tenantId = tenant.id)) = none := hsub
    rw [getByTenant, ht, List.find?_append, hold]
    simp [row, demoSubscription]

end Steps

/-! ## Running it again -/

/-- The demo rows are there, and have the printed ids. -/
structure Seeded (db : Database) (printed : Printed) : Prop where
  free : (PlanRepository.getByName db "Free").map Plan.id = some printed.freePlan
  pro : (PlanRepository.getByName db "Pro").map Plan.id = some printed.proPlan
  tenant : (TenantRepository.getByEmail db "demo@example.com").map Tenant.id = some printed.tenant
  subscription : (printed.tenant, printed.subscription) ∈
    db.subscriptions.map fun s => (s.tenantId, s.id)

/-- The tables after a run that prints `printed`. -/
def seededTables (keys : Keys) (now : DateTime) (printed : Printed) (db : Database) : Tables :=
  { db.toTables with
    plans := seededPlans keys planSpecs db.plans
    tenants := Rows.ensure Tenant.email (demoTenant keys) db.tenants
    subscriptions := Rows.ensure Subscription.tenantId
      (demoSubscription keys now printed.tenant printed.freePlan) db.subscriptions }

/-- **A run with new keys** adds what is missing. -/
theorem main_ok {keys : Keys} {db : Database} (now : DateTime) (hkeys : keys.Fresh db) :
    ∃ db' printed, main keys now db = .ok (db', printed) ∧
      db'.toTables = seededTables keys now printed db ∧ Seeded db' printed := by
  have hids : ∀ id, id ∉ db.ids → id ∉ db.plans.map Plan.id ∧ id ∉ db.tenants.map Tenant.id ∧
      id ∉ db.subscriptions.map Subscription.id := by
    intro id hid
    simp only [Database.ids, List.mem_append] at hid
    tauto
  obtain ⟨db₁, plans, hplans, ht₁, hnames, hagrees⟩ := ensurePlans_ok keys planSpecs db []
    (List.Subset.refl _) hkeys.distinct (fun spec hspec => (hids _ (hkeys.plan spec hspec)).1)
    (by simp [Agrees])
  obtain ⟨free, hfree, hfree₁⟩ := getItem_ok hagrees
    (show "Free" ∈ plans.map Prod.fst by rw [hnames]; decide)
  obtain ⟨pro, hpro, hpro₁⟩ := getItem_ok hagrees
    (show "Pro" ∈ plans.map Prod.fst by rw [hnames]; decide)
  have htenant₁ : keys.tenant ∉ db₁.tenants.map Tenant.id := by
    rw [ht₁]; exact (hids _ hkeys.tenant).2.1
  obtain ⟨db₂, tenant, htenant, ht₂, hemail⟩ := ensureTenant_ok htenant₁
  have hsub₂ : keys.subscription ∉ db₂.subscriptions.map Subscription.id := by
    rw [ht₂, ht₁]; exact (hids _ hkeys.subscription).2.2
  obtain ⟨db', subscription, hsub, ht', hfound⟩ := ensureSubscription_ok now hsub₂
    (List.mem_of_find?_eq_some hemail) hfree
    (show free ∈ db₂.plans by rw [ht₂]; exact List.mem_of_find?_eq_some hfree₁)
  have hsame : ∀ name, PlanRepository.getByName db' name = PlanRepository.getByName db₁ name := by
    intro name
    rw [PlanRepository.getByName, PlanRepository.getByName, ht', ht₂]
  have hemail' : TenantRepository.getByEmail db' "demo@example.com" = some tenant := by
    rw [← hemail, TenantRepository.getByEmail, TenantRepository.getByEmail, ht']
  refine ⟨db', ⟨tenant.id, free.id, pro.id, subscription.id⟩, ?_, ?_, ?_⟩
  · simp only [main, hplans, htenant, hsub, hfree, hpro, bind, Except.bind, pure, Except.pure]
  · rw [ht', ht₂, ht₁]
    rfl
  · obtain ⟨hmem, howner⟩ := Rows.find?_mem hfound
    exact ⟨by rw [hsame, hfree₁]; rfl, by rw [hsame, hpro₁]; rfl, by rw [hemail']; rfl,
      List.mem_map.mpr ⟨subscription, hmem, by rw [howner]⟩⟩

/-- **A run on seeded tables** adds nothing, and prints a subscription of the tenant. -/
theorem main_of_seeded {db : Database} {printed : Printed} (h : Seeded db printed) (keys : Keys)
    (now : DateTime) : ∃ subscription ∈ db.subscriptions,
      subscription.tenantId = printed.tenant ∧
        main keys now db = .ok (db, { printed with subscription := subscription.id }) := by
  obtain ⟨free, hfree, hfreeId⟩ := Option.map_eq_some_iff.mp h.free
  obtain ⟨pro, hpro, hproId⟩ := Option.map_eq_some_iff.mp h.pro
  obtain ⟨tenant, htenant, htenantId⟩ := Option.map_eq_some_iff.mp h.tenant
  obtain ⟨subscription, hsub⟩ : ∃ subscription, getByTenant db tenant.id = some subscription := by
    obtain ⟨row, hrow, heq⟩ := List.mem_map.mp h.subscription
    rw [← Option.isSome_iff_exists, getByTenant, List.find?_isSome]
    refine ⟨row, hrow, decide_eq_true ?_⟩
    rw [htenantId]
    exact congrArg Prod.fst heq
  obtain ⟨hmem, howner⟩ := Rows.find?_mem hsub
  have hplans : ensurePlans keys planSpecs db [] = .ok (db, [("Free", free), ("Pro", pro)]) := by
    simp [planSpecs, ensurePlans, ensurePlan, hfree, hpro, bind, Except.bind]
  have hens : ensureTenant keys db = .ok (db, tenant) := by simp only [ensureTenant, htenant]
  have hsubs : ensureSubscription keys now db [("Free", free), ("Pro", pro)] tenant =
      .ok (db, subscription) := by simp only [ensureSubscription, hsub]
  have hitems : getItem [("Free", free), ("Pro", pro)] "Free" = .ok free ∧
      getItem [("Free", free), ("Pro", pro)] "Pro" = .ok pro := ⟨rfl, rfl⟩
  refine ⟨subscription, hmem, howner.trans htenantId, ?_⟩
  simp only [main, hplans, hens, hsubs, hitems, hfreeId, hproId, htenantId, bind,
    Except.bind, pure, Except.pure]

/-! ### The demo rows stay -/

/-- Whoever edits plan rows by hand leaves their keys and names. -/
def KeepsPlanNames (_ : Serial) : Op → Prop
  | .editPlans edit => ∀ plan, (edit plan).id = plan.id ∧ (edit plan).name = plan.name
  | _ => True

theorem apply_planNames {driver : Driver} {s : Serial} {op : Op} (hop : KeepsPlanNames s op) :
    s.db.plans.map (fun p => (p.name, p.id)) <+:
      (op.apply driver s.db).plans.map fun p => (p.name, p.id) := by
  have heffect := Op.apply_effect driver s.db op
  generalize (op.apply driver s.db).toTables = t at heffect
  cases heffect with
  | planCreated row => rw [List.map_append]; exact List.prefix_append _ _
  | @plansEdited edit =>
    have hedit : ∀ plan, (edit plan).id = plan.id ∧ (edit plan).name = plan.name := hop
    have hsame : ∀ plan : Plan, ((edit plan).name, (edit plan).id) = (plan.name, plan.id) :=
      fun plan => by rw [(hedit plan).1, (hedit plan).2]
    simp [List.map_map, Function.comp_def, hsame]
  | _ => exact List.prefix_rfl

theorem apply_tenants (driver : Driver) (db : Database) (op : Op) :
    db.tenants <+: (op.apply driver db).tenants := by
  have heffect := Op.apply_effect driver db op
  generalize (op.apply driver db).toTables = t at heffect
  cases heffect with
  | tenantCreated row => exact List.prefix_append _ _
  | _ => exact List.prefix_rfl

/-- **No run takes the demo rows away.** -/
theorem seeded_of_run {driver : Driver} {s s' : Serial} {printed : Printed}
    (hrun : Run (Serial.next driver) KeepsPlanNames s s') (h : Seeded s.db printed) :
    Seeded s'.db printed := by
  have hplans : s.db.plans.map (fun p => (p.name, p.id)) <+:
      s'.db.plans.map fun p => (p.name, p.id) :=
    Serial.run_appends (fun db => db.plans.map fun p => (p.name, p.id))
      (fun s op hop => apply_planNames hop) hrun
  have htenants : s.db.tenants <+: s'.db.tenants :=
    Serial.run_appends (fun db => db.tenants) (fun s op _ => apply_tenants driver s.db op) hrun
  have howners := (Serial.run_owners hrun).map Prod.swap
  simp only [Database.owners, List.map_map] at howners
  exact ⟨Rows.find?_map_of_prefix hplans h.free, Rows.find?_map_of_prefix hplans h.pro,
    Rows.find?_map_of_prefix (htenants.map _) h.tenant, howners.subset h.subscription⟩

/-- **Seeded once, seeded for good.** -/
theorem seed_once {keys : Keys} {db : Database} (now : DateTime) (hkeys : keys.Fresh db) :
    ∃ db₁ printed, main keys now db = .ok (db₁, printed) ∧
      db₁.toTables = seededTables keys now printed db ∧
      ∀ (driver : Driver) (s s' : Serial) (keys' : Keys) (now' : DateTime), s.db = db₁ →
        Run (Serial.next driver) KeepsPlanNames s s' →
        ∃ subscription, main keys' now' s'.db =
            .ok (s'.db, { printed with subscription := subscription }) ∧
          ((s'.db.subscriptions.map Subscription.tenantId).count printed.tenant ≤ 1 →
            subscription = printed.subscription) := by
  obtain ⟨db₁, printed, hmain, ht, hseeded⟩ := main_ok now hkeys
  refine ⟨db₁, printed, hmain, ht, ?_⟩
  rintro driver s s' keys' now' rfl hrun
  have hseeded' := seeded_of_run hrun hseeded
  obtain ⟨subscription, hmem, howner, hmain'⟩ := main_of_seeded hseeded' keys' now'
  refine ⟨subscription.id, hmain', fun hone => ?_⟩
  obtain ⟨row, hrow, heq⟩ := List.mem_map.mp hseeded'.subscription
  have hsame : subscription = row :=
    Rows.eq_of_count_le_one hone hmem hrow howner (congrArg Prod.fst heq)
  rw [hsame]
  exact congrArg Prod.snd heq

def sampleKeys (first : ℕ) : Keys where
  plan name := ⟨Fin.ofNat (2 ^ 128) (if name = "Free" then first else first + 1)⟩
  tenant := ⟨Fin.ofNat (2 ^ 128) (first + 2)⟩
  subscription := ⟨Fin.ofNat (2 ^ 128) (first + 3)⟩

/-- The first tenant signs up between the two runs of the script. -/
theorem seed_once_signup : ∃ db₁ printed, ∃ s : Serial,
    main (sampleKeys 10) Sample.firstOfJuly .empty = .ok (db₁, printed) ∧
    s.db.tenants.length = db₁.tenants.length + 1 ∧
    main (sampleKeys 20) Sample.july s.db = .ok (s.db, printed) := by
  have hkeys : (sampleKeys 10).Fresh .empty := ⟨by decide, by decide, by decide, by decide⟩
  obtain ⟨db₁, printed, hmain, ht, hforever⟩ := seed_once Sample.firstOfJuly hkeys
  have htenants : db₁.tenants = [demoTenant (sampleKeys 10)] := by rw [ht]; rfl
  -- the email is new, so the sign-up is committed
  obtain ⟨db₂, hcommit⟩ : ∃ db₂, TenantService.createTenant db₁ ⟨"Acme", "billing@acme.test"⟩ ⟨9⟩ =
      .ok db₂ := by
    have hnone : TenantRepository.getByEmail db₁ "billing@acme.test" = none := by
      rw [TenantRepository.getByEmail, htenants]; decide
    have hemail : Storable "billing@acme.test" := by decide
    have htexts : ∀ text ∈ ["Acme", "billing@acme.test"], Storable text := by decide
    simp only [TenantService.createTenant, TenantRepository.lookupEmail, hnone,
      lookupText_none hemail, TenantRepository.create, TenantRepository.texts,
      execute_of_storable htexts, TenantRepository.newTenant]
    refine commit_isOk_iff.mpr ⟨⟨?_, db₁.fits.plans, db₁.fits.usageEvents, db₁.fits.invoices⟩,
      db₁.constraints.insertTenant (by rw [htenants]; decide) (by rw [htenants]; decide)⟩
    have hfits : ∀ x ∈ [demoTenant (sampleKeys 10)] ++
        [⟨⟨9⟩, "Acme", "billing@acme.test", true⟩], Tenant.Fits x := by decide
    rw [htenants]
    exact hfits
  let s : Serial := { db := db₁, clock := Sample.firstOfJuly }
  have hstep : Serial.next .stringsOnly s (.createTenant ⟨"Acme", "billing@acme.test"⟩ ⟨9⟩) =
      some { s with db := db₂ } := by
    rw [Serial.next_eq_some]
    exact ⟨rfl, by simp only [s, Op.apply, hcommit, Op.committed]⟩
  have hlength : db₂.tenants.length = db₁.tenants.length + 1 := by
    obtain ⟨row, ht₂⟩ := TenantService.createTenant_effect hcommit
    rw [ht₂, List.length_append, List.length_singleton]
  have hkeeps : KeepsPlanNames s (.createTenant ⟨"Acme", "billing@acme.test"⟩ ⟨9⟩) := trivial
  obtain ⟨subscription, hagain, hsame⟩ :=
    hforever .stringsOnly s _ (sampleKeys 20) Sample.july rfl (Run.single hkeeps hstep)
  have hone : (db₂.subscriptions.map Subscription.tenantId).count printed.tenant ≤ 1 := by
    obtain ⟨row, ht₂⟩ := TenantService.createTenant_effect hcommit
    have hrows : db₂.subscriptions =
        [demoSubscription (sampleKeys 10) Sample.firstOfJuly printed.tenant printed.freePlan] :=
      calc db₂.subscriptions = db₁.subscriptions := by rw [ht₂]
        _ = _ := by rw [ht]; rfl
    rw [hrows]
    exact List.count_le_length
  rw [hsame hone] at hagain
  exact ⟨db₁, printed, _, hmain, hlength, hagain⟩

end Seed

end BillingEngine
