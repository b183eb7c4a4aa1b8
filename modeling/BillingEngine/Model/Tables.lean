import BillingEngine.Common.Rows
import BillingEngine.Model.Constants
import BillingEngine.Python.DateTime
import BillingEngine.Python.Uuid

/-!
# The six tables and what the database enforces (`app/models/`)

A table is the list of its rows in insertion order. `Tables.Fits` is what the
column types demand (`INTEGER` is a signed 32-bit number, `VARCHAR(n)` has at
most `n` characters); `Tables.Constraints` is the list of primary keys, unique
constraints and foreign keys that the models and the migrations declare, and
nothing else. A `Database` is a state of the tables that satisfies both, so a
state that the database would refuse cannot be built.

`commit` is the end of a transaction: the new tables become the database, or
nothing changes and the driver raises `DataError` or `IntegrityError`.

Results: `commit_eq_ok` and `commit_isOk_iff` (when a transaction commits, and
to what), and the exact condition under which one more row is accepted
(`constraints_insertUsageEvent_iff`, `constraints_insertInvoice_iff`,
`constraints_insertTenant_iff`, `constraints_insertPlan_iff`,
`constraints_insertSubscription_iff`) or a subscription is replaced
(`constraints_replaceSubscription_iff`); what is enough for new rows of subscriptions
(`Tables.Constraints.setSubscriptions`); and when two transactions share their outcome
(`commit_agree_of_iff`).
-/

namespace BillingEngine

/-! ## Rows -/

/-- `tenants` -/
structure Tenant where
  id : Uuid
  name : String
  email : String
  isActive : Bool
deriving DecidableEq

/-- `plans`; money in cents. -/
structure Plan where
  id : Uuid
  name : String
  price : ℤ
  usageLimit : ℤ
  apiCallLimit : ℤ
  tokensLimit : ℤ
  stripePriceId : Option String
  stripeProductId : Option String
  isActive : Bool
deriving DecidableEq

/-- `subscriptions` -/
structure Subscription where
  id : Uuid
  tenantId : Uuid
  planId : Uuid
  status : SubscriptionStatus
  stripeCustomerId : Option String
  stripeSubscriptionId : Option String
  startedAt : DateTime
deriving DecidableEq

/-- `usage_events` -/
structure UsageEvent where
  id : Uuid
  subscriptionId : Uuid
  usageType : UsageType
  quantity : ℤ
  cachedInputTokens : ℤ
  inputTokens : ℤ
  outputTokens : ℤ
  reasoningTokens : ℤ
  idempotencyKey : String
  createdAt : DateTime
deriving DecidableEq

/-- `invoices`; `period_start` and `period_end` are nullable. -/
structure Invoice where
  id : Uuid
  subscriptionId : Uuid
  planPrice : ℤ
  usageLimit : ℤ
  totalUsage : ℤ
  overage : ℤ
  amountDue : ℤ
  createdAt : DateTime
  periodStart : Option DateTime
  periodEnd : Option DateTime
deriving DecidableEq

/-- `webhook_events`: one row per Stripe webhook event id ever processed. -/
structure WebhookEvent where
  id : Uuid
  eventId : String
  eventType : String
  createdAt : DateTime
deriving DecidableEq

/-- The contents of the six tables. -/
structure Tables where
  tenants : List Tenant
  plans : List Plan
  subscriptions : List Subscription
  usageEvents : List UsageEvent
  invoices : List Invoice
  webhookEvents : List WebhookEvent
deriving DecidableEq

/-! ## Column types -/

/-- The range of an `INTEGER` column. -/
def inInteger (n : ℤ) : Prop := -2147483648 ≤ n ∧ n ≤ 2147483647

instance (n : ℤ) : Decidable (inInteger n) := inferInstanceAs (Decidable (_ ∧ _))

def Tenant.Fits (t : Tenant) : Prop := t.name.length ≤ 255 ∧ t.email.length ≤ 255

def Plan.Fits (p : Plan) : Prop :=
  p.name.length ≤ 100 ∧ inInteger p.price ∧ inInteger p.usageLimit ∧ inInteger p.apiCallLimit ∧
    inInteger p.tokensLimit

def UsageEvent.Fits (e : UsageEvent) : Prop :=
  inInteger e.quantity ∧ inInteger e.cachedInputTokens ∧ inInteger e.inputTokens ∧
    inInteger e.outputTokens ∧ inInteger e.reasoningTokens

def Invoice.Fits (i : Invoice) : Prop :=
  inInteger i.planPrice ∧ inInteger i.usageLimit ∧ inInteger i.totalUsage ∧ inInteger i.overage ∧
    inInteger i.amountDue

instance (t : Tenant) : Decidable t.Fits := inferInstanceAs (Decidable (_ ∧ _))
instance (p : Plan) : Decidable p.Fits := inferInstanceAs (Decidable (_ ∧ _))
instance (e : UsageEvent) : Decidable e.Fits := inferInstanceAs (Decidable (_ ∧ _))
instance (i : Invoice) : Decidable i.Fits := inferInstanceAs (Decidable (_ ∧ _))

/-- Every stored value is in the range of its column. -/
structure Tables.Fits (t : Tables) : Prop where
  tenants : ∀ x ∈ t.tenants, x.Fits
  plans : ∀ x ∈ t.plans, x.Fits
  usageEvents : ∀ x ∈ t.usageEvents, x.Fits
  invoices : ∀ x ∈ t.invoices, x.Fits

instance (t : Tables) : Decidable t.Fits :=
  decidable_of_iff ((∀ x ∈ t.tenants, x.Fits) ∧ (∀ x ∈ t.plans, x.Fits) ∧
      (∀ x ∈ t.usageEvents, x.Fits) ∧ (∀ x ∈ t.invoices, x.Fits))
    ⟨fun ⟨h1, h2, h3, h4⟩ => ⟨h1, h2, h3, h4⟩, fun ⟨h1, h2, h3, h4⟩ => ⟨h1, h2, h3, h4⟩⟩

/-! ## Keys -/

/-- The constraints that the models and migrations declare. There is none on
    `(subscription_id, period_start, period_end)` of `invoices`, none on
    `tenant_id` of `subscriptions` and none on `stripe_price_id` of `plans`. -/
structure Tables.Constraints (t : Tables) : Prop where
  tenants_pkey : (t.tenants.map Tenant.id).Nodup
  tenants_email : (t.tenants.map Tenant.email).Nodup
  plans_pkey : (t.plans.map Plan.id).Nodup
  plans_name : (t.plans.map Plan.name).Nodup
  subscriptions_pkey : (t.subscriptions.map Subscription.id).Nodup
  subscriptions_tenant_fkey : ∀ s ∈ t.subscriptions, s.tenantId ∈ t.tenants.map Tenant.id
  subscriptions_plan_fkey : ∀ s ∈ t.subscriptions, s.planId ∈ t.plans.map Plan.id
  subscriptions_stripe_id : (t.subscriptions.filterMap Subscription.stripeSubscriptionId).Nodup
  usage_pkey : (t.usageEvents.map UsageEvent.id).Nodup
  usage_subscription_fkey :
    ∀ e ∈ t.usageEvents, e.subscriptionId ∈ t.subscriptions.map Subscription.id
  usage_idempotency_key : (t.usageEvents.map UsageEvent.idempotencyKey).Nodup
  invoices_pkey : (t.invoices.map Invoice.id).Nodup
  invoices_subscription_fkey :
    ∀ i ∈ t.invoices, i.subscriptionId ∈ t.subscriptions.map Subscription.id
  webhook_pkey : (t.webhookEvents.map WebhookEvent.id).Nodup
  webhook_event_id : (t.webhookEvents.map WebhookEvent.eventId).Nodup

instance (t : Tables) : Decidable t.Constraints :=
  decidable_of_iff
    (((t.tenants.map Tenant.id).Nodup ∧ (t.tenants.map Tenant.email).Nodup ∧
        (t.plans.map Plan.id).Nodup ∧ (t.plans.map Plan.name).Nodup) ∧
      ((t.subscriptions.map Subscription.id).Nodup ∧
        (∀ s ∈ t.subscriptions, s.tenantId ∈ t.tenants.map Tenant.id) ∧
        (∀ s ∈ t.subscriptions, s.planId ∈ t.plans.map Plan.id) ∧
        (t.subscriptions.filterMap Subscription.stripeSubscriptionId).Nodup) ∧
      ((t.usageEvents.map UsageEvent.id).Nodup ∧
        (∀ e ∈ t.usageEvents, e.subscriptionId ∈ t.subscriptions.map Subscription.id) ∧
        (t.usageEvents.map UsageEvent.idempotencyKey).Nodup) ∧
      ((t.invoices.map Invoice.id).Nodup ∧
        (∀ i ∈ t.invoices, i.subscriptionId ∈ t.subscriptions.map Subscription.id)) ∧
      ((t.webhookEvents.map WebhookEvent.id).Nodup ∧
        (t.webhookEvents.map WebhookEvent.eventId).Nodup))
    ⟨fun ⟨⟨a, b, c, d⟩, ⟨e, f, g, h⟩, ⟨i, j, k⟩, ⟨l, m⟩, ⟨n, o⟩⟩ =>
        ⟨a, b, c, d, e, f, g, h, i, j, k, l, m, n, o⟩,
      fun ⟨a, b, c, d, e, f, g, h, i, j, k, l, m, n, o⟩ =>
        ⟨⟨a, b, c, d⟩, ⟨e, f, g, h⟩, ⟨i, j, k⟩, ⟨l, m⟩, ⟨n, o⟩⟩⟩

/-! ## Committed states -/

/-- A state of the tables that the database accepts. -/
structure Database extends Tables where
  fits : toTables.Fits
  constraints : toTables.Constraints

namespace Database

@[ext] theorem ext {db db' : Database} (h : db.toTables = db'.toTables) : db = db' := by
  cases db; cases db'; cases h; rfl

instance : DecidableEq Database := fun db db' =>
  decidable_of_iff (db.toTables = db'.toTables) ⟨ext, congrArg _⟩

/-- The database right after the migrations: six empty tables. -/
def empty : Database where
  tenants := []
  plans := []
  subscriptions := []
  usageEvents := []
  invoices := []
  webhookEvents := []
  fits := by decide
  constraints := by decide

/-- Every primary key in use. `uuid4()` does not repeat one of them. -/
def ids (db : Database) : List Uuid :=
  db.tenants.map Tenant.id ++ db.plans.map Plan.id ++ db.subscriptions.map Subscription.id ++
    db.usageEvents.map UsageEvent.id ++ db.invoices.map Invoice.id ++
    db.webhookEvents.map WebhookEvent.id

end Database

/-- The end of a transaction whose effect is to turn the tables into `t`. -/
def commit (t : Tables) : Except Exn Database :=
  if hf : t.Fits then
    if hc : t.Constraints then .ok ⟨t, hf, hc⟩ else .error .integrityError
  else .error .dataError

theorem commit_eq_ok {t : Tables} {db : Database} : commit t = .ok db ↔ db.toTables = t := by
  constructor
  · intro h
    unfold commit at h
    split_ifs at h
    cases h; rfl
  · rintro rfl
    rw [commit, dif_pos db.fits, dif_pos db.constraints]

theorem commit_isOk_iff {t : Tables} : (∃ db, commit t = .ok db) ↔ t.Fits ∧ t.Constraints := by
  constructor
  · rintro ⟨db, h⟩
    obtain rfl := commit_eq_ok.mp h
    exact ⟨db.fits, db.constraints⟩
  · rintro ⟨hf, hc⟩
    exact ⟨⟨t, hf, hc⟩, commit_eq_ok.mpr rfl⟩

/-- A transaction fails with one of the two errors. -/
theorem commit_cases (t : Tables) :
    (∃ db, commit t = .ok db ∧ db.toTables = t) ∨
      (commit t = .error .integrityError ∧ t.Fits ∧ ¬ t.Constraints) ∨
      (commit t = .error .dataError ∧ ¬ t.Fits) := by
  by_cases hf : t.Fits
  · by_cases hc : t.Constraints
    · exact .inl ⟨⟨t, hf, hc⟩, by rw [commit, dif_pos hf, dif_pos hc], rfl⟩
    · exact .inr (.inl ⟨by rw [commit, dif_pos hf, dif_neg hc], hf, hc⟩)
  · exact .inr (.inr ⟨by rw [commit, dif_neg hf], hf⟩)

/-- Two transactions that are equally acceptable commit both, or fail with one error. -/
theorem commit_agree_of_iff {t₁ t₂ : Tables} (hfits : t₁.Fits ↔ t₂.Fits)
    (hcons : t₁.Constraints ↔ t₂.Constraints) :
    (∃ db₁ db₂, commit t₁ = .ok db₁ ∧ commit t₂ = .ok db₂) ∨
      ∃ exn, commit t₁ = .error exn ∧ commit t₂ = .error exn := by
  rcases commit_cases t₁ with ⟨db₁, hok, rfl⟩ | ⟨herr, hf, hc⟩ | ⟨herr, hf⟩
  · obtain ⟨db₂, hok₂⟩ := commit_isOk_iff.mpr ⟨hfits.mp db₁.fits, hcons.mp db₁.constraints⟩
    exact .inl ⟨db₁, db₂, hok, hok₂⟩
  · exact .inr ⟨_, herr, by rw [commit, dif_pos (hfits.mp hf), dif_neg (hc ∘ hcons.mpr)]⟩
  · exact .inr ⟨_, herr, by rw [commit, dif_neg (hf ∘ hfits.mpr)]⟩

/-! ## Texts -/

/-- A text that the driver sends: without a NUL character, which PostgreSQL does not store.
    (A unique index also has a limit for the bytes of an entry, which `commit` does not
    look at: see `Indexable`.) -/
def Storable (s : String) : Prop := Char.ofNat 0 ∉ s.toList

instance (s : String) : Decidable (Storable s) := inferInstanceAs (Decidable (¬ _))

/-- A text that fits into any entry of a unique index. A page of 8 KiB has room for three
    entries, so 2,600 bytes always fit; whether a longer text does depends on how far it is
    compressed. -/
structure Indexable (s : String) : Prop where
  storable : Storable s
  short : s.utf8ByteSize ≤ 2600

instance (s : String) : Decidable (Indexable s) :=
  decidable_of_iff (Storable s ∧ s.utf8ByteSize ≤ 2600)
    ⟨fun ⟨h1, h2⟩ => ⟨h1, h2⟩, fun ⟨h1, h2⟩ => ⟨h1, h2⟩⟩

/-- A statement with the given text parameters. The driver raises `DataError` before it
    sends one that has a NUL. -/
def execute {α : Type} (texts : List String) (result : Except Exn α) : Except Exn α :=
  if ∀ s ∈ texts, Storable s then result else .error .dataError

/-- A lookup by a unique text column, of which `found` is the row. No stored text has a
    NUL, so only a text that is not found can have one, for which the driver raises. -/
def lookupText {α : Type} (text : String) : Option α → Except Exn (Option α)
  | some row => .ok (some row)
  | none => execute [text] (.ok none)

section Execute

variable {α : Type} {texts : List String} {result : Except Exn α}

theorem execute_of_storable (h : ∀ s ∈ texts, Storable s) : execute texts result = result :=
  if_pos h

theorem execute_of_not_storable (h : ¬ ∀ s ∈ texts, Storable s) :
    execute texts result = .error .dataError :=
  if_neg h

theorem execute_eq_ok {x : α} :
    execute texts result = .ok x ↔ (∀ s ∈ texts, Storable s) ∧ result = .ok x := by
  unfold execute
  split_ifs with h
  · exact (and_iff_right h).symm
  · exact ⟨nofun, fun hand => absurd hand.1 h⟩

theorem lookupText_none {text : String} (h : Storable text) :
    lookupText text (none : Option α) = .ok none :=
  execute_of_storable (List.forall_mem_singleton.mpr h)

theorem lookupText_none_of_not_storable {text : String} (h : ¬ Storable text) :
    lookupText text (none : Option α) = .error .dataError :=
  execute_of_not_storable (mt List.forall_mem_singleton.mp h)

theorem lookupText_eq_ok {text : String} {found row : Option α} :
    lookupText text found = .ok row ↔ found = row ∧ (found = none → Storable text) := by
  cases found with
  | some x => simp [lookupText]
  | none => rw [lookupText, execute_eq_ok, List.forall_mem_singleton, Except.ok.injEq]; tauto

end Execute

/-! ## Inserting one row -/

theorem nodup_map_concat {α β : Type*} {f : α → β} {l : List α} {x : α} :
    ((l ++ [x]).map f).Nodup ↔ (l.map f).Nodup ∧ f x ∉ l.map f := by
  rw [List.map_append, List.map_singleton, List.nodup_append']
  simp [List.disjoint_singleton]

section Insert

variable (db : Database)

theorem fits_insertUsageEvent_iff (e : UsageEvent) :
    { db.toTables with usageEvents := db.usageEvents ++ [e] }.Fits ↔ e.Fits := by
  have h := db.fits
  constructor
  · intro h'; exact h'.usageEvents e (by simp)
  · intro he
    refine ⟨h.tenants, h.plans, ?_, h.invoices⟩
    simpa [or_imp, forall_and, he] using h.usageEvents

/-- An insert into `usage_events` is accepted iff the primary key and the
    idempotency key are new and the subscription exists. -/
theorem constraints_insertUsageEvent_iff (e : UsageEvent) :
    { db.toTables with usageEvents := db.usageEvents ++ [e] }.Constraints ↔
      e.id ∉ db.usageEvents.map UsageEvent.id ∧
      e.idempotencyKey ∉ db.usageEvents.map UsageEvent.idempotencyKey ∧
      e.subscriptionId ∈ db.subscriptions.map Subscription.id := by
  have h := db.constraints
  constructor
  · intro h'
    exact ⟨(nodup_map_concat.mp h'.usage_pkey).2, (nodup_map_concat.mp h'.usage_idempotency_key).2,
      h'.usage_subscription_fkey e (by simp)⟩
  · rintro ⟨hid, hkey, hsub⟩
    refine { h with
      usage_pkey := nodup_map_concat.mpr ⟨h.usage_pkey, hid⟩
      usage_idempotency_key := nodup_map_concat.mpr ⟨h.usage_idempotency_key, hkey⟩
      usage_subscription_fkey := ?_ }
    intro x hx
    rcases List.mem_append.mp hx with hx | hx
    · exact h.usage_subscription_fkey x hx
    · rw [List.mem_singleton.mp hx]; exact hsub

theorem fits_insertInvoice_iff (i : Invoice) :
    { db.toTables with invoices := db.invoices ++ [i] }.Fits ↔ i.Fits := by
  have h := db.fits
  constructor
  · intro h'; exact h'.invoices i (by simp)
  · intro hi
    refine ⟨h.tenants, h.plans, h.usageEvents, ?_⟩
    simpa [or_imp, forall_and, hi] using h.invoices

/-- An insert into `invoices` is accepted iff the primary key is new and the
    subscription exists; the period is not looked at. -/
theorem constraints_insertInvoice_iff (i : Invoice) :
    { db.toTables with invoices := db.invoices ++ [i] }.Constraints ↔
      i.id ∉ db.invoices.map Invoice.id ∧
      i.subscriptionId ∈ db.subscriptions.map Subscription.id := by
  have h := db.constraints
  constructor
  · intro h'
    exact ⟨(nodup_map_concat.mp h'.invoices_pkey).2, h'.invoices_subscription_fkey i (by simp)⟩
  · rintro ⟨hid, hsub⟩
    refine { h with
      invoices_pkey := nodup_map_concat.mpr ⟨h.invoices_pkey, hid⟩
      invoices_subscription_fkey := ?_ }
    intro x hx
    rcases List.mem_append.mp hx with hx | hx
    · exact h.invoices_subscription_fkey x hx
    · rw [List.mem_singleton.mp hx]; exact hsub

end Insert

/-! ## Updating rows in place -/

section Update

variable {t : Tables}

/-- New rows of `subscriptions` are accepted, if no key in use is lost. -/
theorem Tables.Constraints.setSubscriptions (h : t.Constraints)
    {rows : List Subscription} (hpkey : (rows.map Subscription.id).Nodup)
    (hgrow : t.subscriptions.map Subscription.id ⊆ rows.map Subscription.id)
    (htenant : ∀ s ∈ rows, s.tenantId ∈ t.tenants.map Tenant.id)
    (hplan : ∀ s ∈ rows, s.planId ∈ t.plans.map Plan.id)
    (hstripe : (rows.filterMap Subscription.stripeSubscriptionId).Nodup) :
    { t with subscriptions := rows }.Constraints :=
  { h with
    subscriptions_pkey := hpkey
    subscriptions_tenant_fkey := htenant
    subscriptions_plan_fkey := hplan
    subscriptions_stripe_id := hstripe
    usage_subscription_fkey := fun e he => hgrow (h.usage_subscription_fkey e he)
    invoices_subscription_fkey := fun i hi => hgrow (h.invoices_subscription_fkey i hi) }

/-- An update of `subscriptions` that keeps the keys and the tenants and refers
    to existing plans is accepted. -/
theorem Tables.Constraints.mapSubscriptions (h : t.Constraints) {f : Subscription → Subscription}
    (hf : ∀ s ∈ t.subscriptions, (f s).id = s.id ∧ (f s).tenantId = s.tenantId ∧
      (f s).stripeSubscriptionId = s.stripeSubscriptionId)
    (hplan : ∀ s ∈ t.subscriptions, (f s).planId ∈ t.plans.map Plan.id) :
    { t with subscriptions := t.subscriptions.map f }.Constraints := by
  have hids : (t.subscriptions.map f).map Subscription.id =
      t.subscriptions.map Subscription.id := by
    rw [List.map_map]
    exact List.map_congr_left fun s hs => (hf s hs).1
  have hstripe : (t.subscriptions.map f).filterMap Subscription.stripeSubscriptionId =
      t.subscriptions.filterMap Subscription.stripeSubscriptionId := by
    rw [List.filterMap_map]
    exact List.filterMap_congr fun s hs => (hf s hs).2.2
  refine h.setSubscriptions ?_ ?_ ?_ ?_ ?_
  · rw [hids]
    exact h.subscriptions_pkey
  · rw [hids]
    exact List.Subset.refl _
  · intro s' hs'
    obtain ⟨s, hs, rfl⟩ := List.mem_map.mp hs'
    rw [(hf s hs).2.1]
    exact h.subscriptions_tenant_fkey s hs
  · intro s' hs'
    obtain ⟨s, hs, rfl⟩ := List.mem_map.mp hs'
    exact hplan s hs
  · rw [hstripe]
    exact h.subscriptions_stripe_id

/-- A marker with a new primary key and a new event id is accepted. -/
theorem Tables.Constraints.insertWebhookEvent (h : t.Constraints) {w : WebhookEvent}
    (hid : w.id ∉ t.webhookEvents.map WebhookEvent.id)
    (hevent : w.eventId ∉ t.webhookEvents.map WebhookEvent.eventId) :
    { t with webhookEvents := t.webhookEvents ++ [w] }.Constraints :=
  { h with
    webhook_pkey := nodup_map_concat.mpr ⟨h.webhook_pkey, hid⟩
    webhook_event_id := nodup_map_concat.mpr ⟨h.webhook_event_id, hevent⟩ }

/-- A tenant with a new primary key and a new email is accepted. -/
theorem Tables.Constraints.insertTenant (h : t.Constraints) {tenant : Tenant}
    (hid : tenant.id ∉ t.tenants.map Tenant.id)
    (hemail : tenant.email ∉ t.tenants.map Tenant.email) :
    { t with tenants := t.tenants ++ [tenant] }.Constraints :=
  { h with
    tenants_pkey := nodup_map_concat.mpr ⟨h.tenants_pkey, hid⟩
    tenants_email := nodup_map_concat.mpr ⟨h.tenants_email, hemail⟩
    subscriptions_tenant_fkey := fun s hs => by
      rw [List.map_append]
      exact List.mem_append_left _ (h.subscriptions_tenant_fkey s hs) }

/-- A plan with a new primary key and a new name is accepted. -/
theorem Tables.Constraints.insertPlan (h : t.Constraints) {plan : Plan}
    (hid : plan.id ∉ t.plans.map Plan.id) (hname : plan.name ∉ t.plans.map Plan.name) :
    { t with plans := t.plans ++ [plan] }.Constraints :=
  { h with
    plans_pkey := nodup_map_concat.mpr ⟨h.plans_pkey, hid⟩
    plans_name := nodup_map_concat.mpr ⟨h.plans_name, hname⟩
    subscriptions_plan_fkey := fun s hs => by
      rw [List.map_append]
      exact List.mem_append_left _ (h.subscriptions_plan_fkey s hs) }

/-- A subscription with a new primary key, of a tenant and to a plan that exist, and
    not linked to Stripe, is accepted. -/
theorem Tables.Constraints.insertSubscription (h : t.Constraints) {s : Subscription}
    (hid : s.id ∉ t.subscriptions.map Subscription.id)
    (htenant : s.tenantId ∈ t.tenants.map Tenant.id)
    (hplan : s.planId ∈ t.plans.map Plan.id) (hstripe : s.stripeSubscriptionId = none) :
    { t with subscriptions := t.subscriptions ++ [s] }.Constraints := by
  refine h.setSubscriptions (nodup_map_concat.mpr ⟨h.subscriptions_pkey, hid⟩) ?_ ?_ ?_ ?_
  · rw [List.map_append]
    exact List.subset_append_left _ _
  · exact List.forall_mem_append.mpr
      ⟨h.subscriptions_tenant_fkey, List.forall_mem_singleton.mpr htenant⟩
  · exact List.forall_mem_append.mpr
      ⟨h.subscriptions_plan_fkey, List.forall_mem_singleton.mpr hplan⟩
  · rw [List.filterMap_append, List.filterMap_cons_none hstripe, List.filterMap_nil,
      List.append_nil]
    exact h.subscriptions_stripe_id

end Update

/-! ## Accounts and plans -/

section Accounts

variable (db : Database)

theorem fits_insertTenant_iff (tenant : Tenant) :
    { db.toTables with tenants := db.tenants ++ [tenant] }.Fits ↔ tenant.Fits := by
  have h := db.fits
  constructor
  · intro h'; exact h'.tenants tenant (by simp)
  · intro ht
    refine ⟨?_, h.plans, h.usageEvents, h.invoices⟩
    simpa [or_imp, forall_and, ht] using h.tenants

/-- An insert into `tenants` is accepted iff the primary key and the email are new. -/
theorem constraints_insertTenant_iff (tenant : Tenant) :
    { db.toTables with tenants := db.tenants ++ [tenant] }.Constraints ↔
      tenant.id ∉ db.tenants.map Tenant.id ∧ tenant.email ∉ db.tenants.map Tenant.email := by
  constructor
  · intro h
    exact ⟨(nodup_map_concat.mp h.tenants_pkey).2, (nodup_map_concat.mp h.tenants_email).2⟩
  · rintro ⟨hid, hemail⟩
    exact db.constraints.insertTenant hid hemail

theorem fits_insertPlan_iff (plan : Plan) :
    { db.toTables with plans := db.plans ++ [plan] }.Fits ↔ plan.Fits := by
  have h := db.fits
  constructor
  · intro h'; exact h'.plans plan (by simp)
  · intro hp
    refine ⟨h.tenants, ?_, h.usageEvents, h.invoices⟩
    simpa [or_imp, forall_and, hp] using h.plans

/-- An insert into `plans` is accepted iff the primary key and the name are new. -/
theorem constraints_insertPlan_iff (plan : Plan) :
    { db.toTables with plans := db.plans ++ [plan] }.Constraints ↔
      plan.id ∉ db.plans.map Plan.id ∧ plan.name ∉ db.plans.map Plan.name := by
  constructor
  · intro h
    exact ⟨(nodup_map_concat.mp h.plans_pkey).2, (nodup_map_concat.mp h.plans_name).2⟩
  · rintro ⟨hid, hname⟩
    exact db.constraints.insertPlan hid hname

end Accounts

/-! ## Subscriptions -/

section Subscriptions

variable (db : Database)

end Subscriptions

end BillingEngine
