import BillingEngine.Common.Records
import BillingEngine.Migrations.Revisions

/-!
# The tables of the models are the schema at the head (`app/models/`)

Each model class is mapped to a table, a member of an `Enum` is stored under its name,
and a nullable attribute is `None` where the cell is null. What the server enforces at
the head of the revisions is then what `Database` has as fields.

Results:
* `atRevision_toSql`: the tables of a `Database` are a database at the head.
* `exists_database`: every database at the head is that of a `Database`.
-/

namespace BillingEngine

open Relational

/-! ## Rows -/

/-- The name of the member of the `Enum`. -/
def SubscriptionStatus.label : SubscriptionStatus → String
  | active => "ACTIVE"
  | cancelled => "CANCELLED"
  | pastDue => "PAST_DUE"
  | trialing => "TRIALING"

def UsageType.label : UsageType → String
  | apiCall => "API_CALL"
  | tokens => "TOKENS"

open Migrations

def Tenant.toRow (t : Tenant) : SqlRow :=
  [("id", some (uuidValue t.id)), ("name", some (stringValue t.name)),
    ("email", some (stringValue t.email)), ("is_active", some (booleanValue t.isActive))]

def Plan.toRow (p : Plan) : SqlRow :=
  [("id", some (uuidValue p.id)), ("name", some (stringValue p.name)),
    ("price", some (integerValue p.price)), ("usage_limit", some (integerValue p.usageLimit)),
    ("is_active", some (booleanValue p.isActive)),
    ("api_call_limit", some (integerValue p.apiCallLimit)),
    ("tokens_limit", some (integerValue p.tokensLimit)),
    ("stripe_price_id", p.stripePriceId.map stringValue),
    ("stripe_product_id", p.stripeProductId.map stringValue)]

def Subscription.toRow (s : Subscription) : SqlRow :=
  [("id", some (uuidValue s.id)), ("tenant_id", some (uuidValue s.tenantId)),
    ("plan_id", some (uuidValue s.planId)), ("status", some (.label s.status.label)),
    ("started_at", some (dateTimeValue s.startedAt)),
    ("stripe_customer_id", s.stripeCustomerId.map stringValue),
    ("stripe_subscription_id", s.stripeSubscriptionId.map stringValue)]

def UsageEvent.toRow (e : UsageEvent) : SqlRow :=
  [("id", some (uuidValue e.id)), ("subscription_id", some (uuidValue e.subscriptionId)),
    ("quantity", some (integerValue e.quantity)), ("created_at", some (dateTimeValue e.createdAt)),
    ("idempotency_key", some (stringValue e.idempotencyKey)),
    ("usage_type", some (.label e.usageType.label)),
    ("cached_input_tokens", some (integerValue e.cachedInputTokens)),
    ("input_tokens", some (integerValue e.inputTokens)),
    ("output_tokens", some (integerValue e.outputTokens)),
    ("reasoning_tokens", some (integerValue e.reasoningTokens))]

def Invoice.toRow (i : Invoice) : SqlRow :=
  [("id", some (uuidValue i.id)), ("subscription_id", some (uuidValue i.subscriptionId)),
    ("plan_price", some (integerValue i.planPrice)),
    ("usage_limit", some (integerValue i.usageLimit)),
    ("total_usage", some (integerValue i.totalUsage)), ("overage", some (integerValue i.overage)),
    ("amount_due", some (integerValue i.amountDue)),
    ("created_at", some (dateTimeValue i.createdAt)),
    ("period_start", i.periodStart.map dateTimeValue),
    ("period_end", i.periodEnd.map dateTimeValue)]

def WebhookEvent.toRow (w : WebhookEvent) : SqlRow :=
  [("id", some (uuidValue w.id)), ("event_id", some (stringValue w.eventId)),
    ("event_type", some (stringValue w.eventType)),
    ("created_at", some (dateTimeValue w.createdAt))]

/-- The rows of the six tables. -/
def Tables.contents (t : Tables) : Contents SqlValue
  | "tenants" => t.tenants.map Tenant.toRow
  | "plans" => t.plans.map Plan.toRow
  | "subscriptions" => t.subscriptions.map Subscription.toRow
  | "usage_events" => t.usageEvents.map UsageEvent.toRow
  | "invoices" => t.invoices.map Invoice.toRow
  | "webhook_events" => t.webhookEvents.map WebhookEvent.toRow
  | _ => []

/-- The database that the session of the app works on. -/
def Tables.toSql (t : Tables) : SqlDb := ⟨schemaAt (some .addStripeFields), t.contents⟩

namespace Migrations

/-! ## The schema at the head -/

namespace Head

def tenants : Table SqlType where
  name := "tenants"
  columns := CreateInitialSchema.tenants.columns
  constraints := [.primaryKey "id", .uniqueIndex "ix_tenants_email" "email"]

def plans : Table SqlType where
  name := "plans"
  columns := CreateInitialSchema.plans.columns ++ [column "api_call_limit" .integer false,
    column "tokens_limit" .integer false, column "stripe_price_id" (.string none) true,
    column "stripe_product_id" (.string none) true]
  constraints := [.primaryKey "id", .unique none "name"]

def subscriptions : Table SqlType where
  name := "subscriptions"
  columns := CreateInitialSchema.subscriptions.columns ++
    [column "stripe_customer_id" (.string none) true,
      column "stripe_subscription_id" (.string none) true]
  constraints := [.foreignKey "plan_id" "plans" "id", .foreignKey "tenant_id" "tenants" "id",
    .primaryKey "id",
    .unique (some "uq_subscriptions_stripe_subscription_id") "stripe_subscription_id"]

def usageEvents : Table SqlType where
  name := "usage_events"
  columns := CreateInitialSchema.usageEvents.columns ++
    [column "idempotency_key" (.string none) false, enumColumn "usage_type" "usagetype" false,
      column "cached_input_tokens" .integer false, column "input_tokens" .integer false,
      column "output_tokens" .integer false, column "reasoning_tokens" .integer false]
  constraints := [.foreignKey "subscription_id" "subscriptions" "id", .primaryKey "id",
    .unique (some "uq_usage_events_idempotency_key") "idempotency_key"]

def invoices : Table SqlType where
  name := "invoices"
  columns := AddInvoices.invoices.columns ++
    [column "period_start" .dateTime true, column "period_end" .dateTime true]
  constraints := [.foreignKey "subscription_id" "subscriptions" "id", .primaryKey "id"]

def types : List EnumType := [CreateInitialSchema.subscriptionStatus, AddUsageTypes.usageType]

theorem schemaAt_head : schemaAt (some .addStripeFields) =
    ⟨[plans, tenants, subscriptions, usageEvents, invoices, AddStripeFields.webhookEvents],
      types⟩ := by
  decide

/-! ### Labels -/

variable {name : String} {v : Option (Value SqlValue)} {r : SqlRow}

theorem cellOk_status
    (h : CellOk types (enumColumn name "subscriptionstatus" false) (name, v)) :
    ∃ status : SubscriptionStatus, v = some (.label status.label) := by
  obtain ⟨type, htype, hname, text, htext, rfl⟩ := cellOk_enum h
  have hmember : ∀ type ∈ types, type.name = "subscriptionstatus" → ∀ text ∈ type.labels,
      ∃ status ∈ [SubscriptionStatus.active, .cancelled, .pastDue, .trialing],
        text = status.label := by
    decide
  obtain ⟨status, -, rfl⟩ := hmember type htype hname text htext
  exact ⟨status, rfl⟩

theorem cellOk_usageType (h : CellOk types (enumColumn name "usagetype" false) (name, v)) :
    ∃ usageType : UsageType, v = some (.label usageType.label) := by
  obtain ⟨type, htype, hname, text, htext, rfl⟩ := cellOk_enum h
  have hmember : ∀ type ∈ types, type.name = "usagetype" → ∀ text ∈ type.labels,
      ∃ usageType ∈ [UsageType.apiCall, .tokens], text = usageType.label := by
    decide
  obtain ⟨usageType, -, rfl⟩ := hmember type htype hname text htext
  exact ⟨usageType, rfl⟩

theorem status_known (status : SubscriptionStatus) :
    ∃ type ∈ types, type.name = "subscriptionstatus" ∧ status.label ∈ type.labels := by
  cases status <;> decide

theorem usageType_known (usageType : UsageType) :
    ∃ type ∈ types, type.name = "usagetype" ∧ usageType.label ∈ type.labels := by
  cases usageType <;> decide

/-! ### The rows of each table are those of its records -/

attribute [local simp] CellOk column enumColumn ColumnType.Fits Scalars.Fits uuidValue stringValue
  integerValue booleanValue dateTimeValue SqlType.Fits

theorem exists_tenant (h : RowOk types tenants.columns r) : ∃ t : Tenant, t.toRow = r := by
  have hcell := cells_of_rowOk h (by decide)
  obtain ⟨id, hid⟩ := cellOk_uuid (hcell "id" _ _ (by decide))
  obtain ⟨name, hname⟩ :=
    cellOk_string (hcell "name" (.scalar (.string (some 255))) _ (by decide))
  obtain ⟨email, hemail⟩ :=
    cellOk_string (hcell "email" (.scalar (.string (some 255))) _ (by decide))
  obtain ⟨isActive, hisActive⟩ := cellOk_boolean (hcell "is_active" _ _ (by decide))
  refine ⟨⟨id, name, email, isActive⟩, ?_⟩
  rw [h.eq_cells (by decide)]
  simp [Tenant.toRow, tenants, CreateInitialSchema.tenants, hid, hname, hemail, hisActive]

theorem rowOk_tenant {t : Tenant} : RowOk types tenants.columns t.toRow ↔ t.Fits := by
  simp [RowOk, Tenant.toRow, tenants, CreateInitialSchema.tenants, Tenant.Fits]

theorem exists_plan (h : RowOk types plans.columns r) : ∃ p : Plan, p.toRow = r := by
  have hcell := cells_of_rowOk h (by decide)
  obtain ⟨id, hid⟩ := cellOk_uuid (hcell "id" _ _ (by decide))
  obtain ⟨name, hname⟩ :=
    cellOk_string (hcell "name" (.scalar (.string (some 100))) _ (by decide))
  obtain ⟨price, hprice, -⟩ := cellOk_integer (hcell "price" _ _ (by decide))
  obtain ⟨usageLimit, husageLimit, -⟩ := cellOk_integer (hcell "usage_limit" _ _ (by decide))
  obtain ⟨isActive, hisActive⟩ := cellOk_boolean (hcell "is_active" _ _ (by decide))
  obtain ⟨apiCallLimit, hapiCallLimit, -⟩ := cellOk_integer (hcell "api_call_limit" _ _ (by decide))
  obtain ⟨tokensLimit, htokensLimit, -⟩ := cellOk_integer (hcell "tokens_limit" _ _ (by decide))
  obtain ⟨stripePriceId, hstripePriceId⟩ :=
    cellOk_nullableString (hcell "stripe_price_id" _ _ (by decide))
  obtain ⟨stripeProductId, hstripeProductId⟩ :=
    cellOk_nullableString (hcell "stripe_product_id" _ _ (by decide))
  refine ⟨⟨id, name, price, usageLimit, apiCallLimit, tokensLimit, stripePriceId, stripeProductId,
    isActive⟩, ?_⟩
  rw [h.eq_cells (by decide)]
  simp [Plan.toRow, plans, CreateInitialSchema.plans, hid, hname, hprice, husageLimit, hisActive,
    hapiCallLimit, htokensLimit, hstripePriceId, hstripeProductId]

theorem rowOk_plan {p : Plan} : RowOk types plans.columns p.toRow ↔ p.Fits := by
  simp [RowOk, Plan.toRow, plans, CreateInitialSchema.plans, Plan.Fits]

theorem exists_subscription (h : RowOk types subscriptions.columns r) :
    ∃ s : Subscription, s.toRow = r := by
  have hcell := cells_of_rowOk h (by decide)
  obtain ⟨id, hid⟩ := cellOk_uuid (hcell "id" _ _ (by decide))
  obtain ⟨tenantId, htenantId⟩ := cellOk_uuid (hcell "tenant_id" _ _ (by decide))
  obtain ⟨planId, hplanId⟩ := cellOk_uuid (hcell "plan_id" _ _ (by decide))
  obtain ⟨status, hstatus⟩ := cellOk_status (hcell "status" _ _ (by decide))
  obtain ⟨startedAt, hstartedAt⟩ := cellOk_dateTime (hcell "started_at" _ _ (by decide))
  obtain ⟨customer, hcustomer⟩ := cellOk_nullableString (hcell "stripe_customer_id" _ _ (by decide))
  obtain ⟨stripeId, hstripeId⟩ :=
    cellOk_nullableString (hcell "stripe_subscription_id" _ _ (by decide))
  refine ⟨⟨id, tenantId, planId, status, customer, stripeId, startedAt⟩, ?_⟩
  rw [h.eq_cells (by decide)]
  simp [Subscription.toRow, subscriptions, CreateInitialSchema.subscriptions, hid, htenantId,
    hplanId, hstatus, hstartedAt, hcustomer, hstripeId]

theorem rowOk_subscription (s : Subscription) : RowOk types subscriptions.columns s.toRow := by
  simp [RowOk, Subscription.toRow, subscriptions, CreateInitialSchema.subscriptions,
    status_known]

theorem exists_usageEvent (h : RowOk types usageEvents.columns r) :
    ∃ e : UsageEvent, e.toRow = r := by
  have hcell := cells_of_rowOk h (by decide)
  obtain ⟨id, hid⟩ := cellOk_uuid (hcell "id" _ _ (by decide))
  obtain ⟨subscriptionId, hsubscriptionId⟩ := cellOk_uuid (hcell "subscription_id" _ _ (by decide))
  obtain ⟨quantity, hquantity, -⟩ := cellOk_integer (hcell "quantity" _ _ (by decide))
  obtain ⟨createdAt, hcreatedAt⟩ := cellOk_dateTime (hcell "created_at" _ _ (by decide))
  obtain ⟨idempotencyKey, hidempotencyKey⟩ :=
    cellOk_string (hcell "idempotency_key" (.scalar (.string none)) _ (by decide))
  obtain ⟨usageType, husageType⟩ := cellOk_usageType (hcell "usage_type" _ _ (by decide))
  obtain ⟨cached, hcached, -⟩ := cellOk_integer (hcell "cached_input_tokens" _ _ (by decide))
  obtain ⟨input, hinput, -⟩ := cellOk_integer (hcell "input_tokens" _ _ (by decide))
  obtain ⟨output, houtput, -⟩ := cellOk_integer (hcell "output_tokens" _ _ (by decide))
  obtain ⟨reasoning, hreasoning, -⟩ := cellOk_integer (hcell "reasoning_tokens" _ _ (by decide))
  refine ⟨⟨id, subscriptionId, usageType, quantity, cached, input, output, reasoning,
    idempotencyKey, createdAt⟩, ?_⟩
  rw [h.eq_cells (by decide)]
  simp [UsageEvent.toRow, usageEvents, CreateInitialSchema.usageEvents, hid, hsubscriptionId,
    hquantity, hcreatedAt, hidempotencyKey, husageType, hcached, hinput, houtput, hreasoning]

theorem rowOk_usageEvent {e : UsageEvent} : RowOk types usageEvents.columns e.toRow ↔ e.Fits := by
  simp [RowOk, UsageEvent.toRow, usageEvents, CreateInitialSchema.usageEvents, UsageEvent.Fits,
    usageType_known]

theorem exists_invoice (h : RowOk types invoices.columns r) : ∃ i : Invoice, i.toRow = r := by
  have hcell := cells_of_rowOk h (by decide)
  obtain ⟨id, hid⟩ := cellOk_uuid (hcell "id" _ _ (by decide))
  obtain ⟨subscriptionId, hsubscriptionId⟩ := cellOk_uuid (hcell "subscription_id" _ _ (by decide))
  obtain ⟨planPrice, hplanPrice, -⟩ := cellOk_integer (hcell "plan_price" _ _ (by decide))
  obtain ⟨usageLimit, husageLimit, -⟩ := cellOk_integer (hcell "usage_limit" _ _ (by decide))
  obtain ⟨totalUsage, htotalUsage, -⟩ := cellOk_integer (hcell "total_usage" _ _ (by decide))
  obtain ⟨overage, hoverage, -⟩ := cellOk_integer (hcell "overage" _ _ (by decide))
  obtain ⟨amountDue, hamountDue, -⟩ := cellOk_integer (hcell "amount_due" _ _ (by decide))
  obtain ⟨createdAt, hcreatedAt⟩ := cellOk_dateTime (hcell "created_at" _ _ (by decide))
  obtain ⟨periodStart, hperiodStart⟩ :=
    cellOk_nullableDateTime (hcell "period_start" _ _ (by decide))
  obtain ⟨periodEnd, hperiodEnd⟩ :=
    cellOk_nullableDateTime (hcell "period_end" _ _ (by decide))
  refine ⟨⟨id, subscriptionId, planPrice, usageLimit, totalUsage, overage, amountDue,
    createdAt, periodStart, periodEnd⟩, ?_⟩
  rw [h.eq_cells (by decide)]
  simp [Invoice.toRow, invoices, AddInvoices.invoices, hid, hsubscriptionId, hplanPrice,
    husageLimit, htotalUsage, hoverage, hamountDue, hcreatedAt, hperiodStart, hperiodEnd]

theorem rowOk_invoice {i : Invoice} : RowOk types invoices.columns i.toRow ↔ i.Fits := by
  simp [RowOk, Invoice.toRow, invoices, AddInvoices.invoices, Invoice.Fits]

theorem exists_webhookEvent (h : RowOk types AddStripeFields.webhookEvents.columns r) :
    ∃ w : WebhookEvent, w.toRow = r := by
  have hcell := cells_of_rowOk h (by decide)
  obtain ⟨id, hid⟩ := cellOk_uuid (hcell "id" _ _ (by decide))
  obtain ⟨eventId, heventId⟩ :=
    cellOk_string (hcell "event_id" (.scalar (.string none)) _ (by decide))
  obtain ⟨eventType, heventType⟩ :=
    cellOk_string (hcell "event_type" (.scalar (.string none)) _ (by decide))
  obtain ⟨createdAt, hcreatedAt⟩ := cellOk_dateTime (hcell "created_at" _ _ (by decide))
  refine ⟨⟨id, eventId, eventType, createdAt⟩, ?_⟩
  rw [h.eq_cells (by decide)]
  simp [WebhookEvent.toRow, AddStripeFields.webhookEvents, hid, heventId, heventType, hcreatedAt]

theorem rowOk_webhookEvent (w : WebhookEvent) :
    RowOk types AddStripeFields.webhookEvents.columns w.toRow := by
  simp [RowOk, WebhookEvent.toRow, AddStripeFields.webhookEvents]

end Head

/-! ## Databases at the head -/

section Databases

open Head

variable {t : Tables}

/-- The rows fit the columns. -/
theorem rows_toSql_iff : (∀ table ∈ t.toSql.schema.tables, ∀ r ∈ t.toSql.contents table.name,
    RowOk t.toSql.schema.types table.columns r) ↔ t.Fits := by
  have hplans : (∀ r ∈ t.contents "plans", RowOk types plans.columns r) ↔
      ∀ p ∈ t.plans, p.Fits := by simp [Tables.contents, rowOk_plan]
  have htenants : (∀ r ∈ t.contents "tenants", RowOk types tenants.columns r) ↔
      ∀ x ∈ t.tenants, x.Fits := by simp [Tables.contents, rowOk_tenant]
  have hsubs : ∀ r ∈ t.contents "subscriptions", RowOk types subscriptions.columns r := by
    simp [Tables.contents, rowOk_subscription]
  have husage : (∀ r ∈ t.contents "usage_events", RowOk types usageEvents.columns r) ↔
      ∀ e ∈ t.usageEvents, e.Fits := by simp [Tables.contents, rowOk_usageEvent]
  have hinvoices : (∀ r ∈ t.contents "invoices", RowOk types invoices.columns r) ↔
      ∀ i ∈ t.invoices, i.Fits := by simp [Tables.contents, rowOk_invoice]
  have hevents : ∀ r ∈ t.contents "webhook_events",
      RowOk types AddStripeFields.webhookEvents.columns r := by
    simp [Tables.contents, rowOk_webhookEvent]
  rw [Tables.toSql, schemaAt_head]
  constructor
  · intro h
    exact ⟨htenants.mp (h tenants (by simp)), hplans.mp (h plans (by simp)),
      husage.mp (h usageEvents (by simp)), hinvoices.mp (h invoices (by simp))⟩
  · intro h table htable
    simp only [List.mem_cons, List.not_mem_nil, or_false] at htable
    rcases htable with rfl | rfl | rfl | rfl | rfl | rfl
    exacts [hplans.mpr h.plans, htenants.mpr h.tenants, hsubs, husage.mpr h.usageEvents,
      hinvoices.mpr h.invoices, hevents]

/-! ### Keys -/

theorem columnValues_tenants (name : String) : columnValues t.contents "tenants" name =
    t.tenants.map fun x => x.toRow.value name :=
  columnValues_of_map rfl name

theorem columnValues_plans (name : String) : columnValues t.contents "plans" name =
    t.plans.map fun p => p.toRow.value name :=
  columnValues_of_map rfl name

theorem columnValues_subscriptions (name : String) : columnValues t.contents "subscriptions" name =
    t.subscriptions.map fun s => s.toRow.value name :=
  columnValues_of_map rfl name

theorem columnValues_usageEvents (name : String) : columnValues t.contents "usage_events" name =
    t.usageEvents.map fun e => e.toRow.value name :=
  columnValues_of_map rfl name

theorem columnValues_invoices (name : String) : columnValues t.contents "invoices" name =
    t.invoices.map fun i => i.toRow.value name :=
  columnValues_of_map rfl name

theorem columnValues_webhookEvents (name : String) :
    columnValues t.contents "webhook_events" name =
      t.webhookEvents.map fun w => w.toRow.value name :=
  columnValues_of_map rfl name

theorem plans_constraints_iff : (∀ c ∈ plans.constraints, c.Holds t.contents "plans") ↔
    (t.plans.map Plan.id).Nodup ∧ (t.plans.map Plan.name).Nodup := by
  rw [plans, List.forall_mem_cons, List.forall_mem_singleton,
    holds_primaryKey_iff Plan.id uuidValue_injective (columnValues_plans "id"),
    holds_unique_iff Plan.name stringValue_injective (columnValues_plans "name")]

theorem tenants_constraints_iff : (∀ c ∈ tenants.constraints, c.Holds t.contents "tenants") ↔
    (t.tenants.map Tenant.id).Nodup ∧ (t.tenants.map Tenant.email).Nodup := by
  rw [tenants, List.forall_mem_cons, List.forall_mem_singleton,
    holds_primaryKey_iff Tenant.id uuidValue_injective (columnValues_tenants "id"),
    holds_uniqueIndex_iff Tenant.email stringValue_injective (columnValues_tenants "email")]

theorem subscriptions_constraints_iff :
    (∀ c ∈ subscriptions.constraints, c.Holds t.contents "subscriptions") ↔
      (∀ s ∈ t.subscriptions, s.planId ∈ t.plans.map Plan.id) ∧
      (∀ s ∈ t.subscriptions, s.tenantId ∈ t.tenants.map Tenant.id) ∧
      (t.subscriptions.map Subscription.id).Nodup ∧
      (t.subscriptions.filterMap Subscription.stripeSubscriptionId).Nodup := by
  rw [subscriptions, List.forall_mem_cons, List.forall_mem_cons, List.forall_mem_cons,
    List.forall_mem_singleton,
    holds_foreignKey_iff Subscription.planId Plan.id uuidValue_injective
      (columnValues_subscriptions "plan_id") (columnValues_plans "id"),
    holds_foreignKey_iff Subscription.tenantId Tenant.id uuidValue_injective
      (columnValues_subscriptions "tenant_id") (columnValues_tenants "id"),
    holds_primaryKey_iff Subscription.id uuidValue_injective (columnValues_subscriptions "id"),
    holds_uniqueNullable_iff Subscription.stripeSubscriptionId stringValue_injective
      (columnValues_subscriptions "stripe_subscription_id")]

theorem usageEvents_constraints_iff :
    (∀ c ∈ usageEvents.constraints, c.Holds t.contents "usage_events") ↔
      (∀ e ∈ t.usageEvents, e.subscriptionId ∈ t.subscriptions.map Subscription.id) ∧
      (t.usageEvents.map UsageEvent.id).Nodup ∧
      (t.usageEvents.map UsageEvent.idempotencyKey).Nodup := by
  rw [usageEvents, List.forall_mem_cons, List.forall_mem_cons, List.forall_mem_singleton,
    holds_foreignKey_iff UsageEvent.subscriptionId Subscription.id uuidValue_injective
      (columnValues_usageEvents "subscription_id") (columnValues_subscriptions "id"),
    holds_primaryKey_iff UsageEvent.id uuidValue_injective (columnValues_usageEvents "id"),
    holds_unique_iff UsageEvent.idempotencyKey stringValue_injective
      (columnValues_usageEvents "idempotency_key")]

theorem invoices_constraints_iff : (∀ c ∈ invoices.constraints, c.Holds t.contents "invoices") ↔
    (∀ i ∈ t.invoices, i.subscriptionId ∈ t.subscriptions.map Subscription.id) ∧
      (t.invoices.map Invoice.id).Nodup := by
  rw [invoices, List.forall_mem_cons, List.forall_mem_singleton,
    holds_foreignKey_iff Invoice.subscriptionId Subscription.id uuidValue_injective
      (columnValues_invoices "subscription_id") (columnValues_subscriptions "id"),
    holds_primaryKey_iff Invoice.id uuidValue_injective (columnValues_invoices "id")]

theorem webhookEvents_constraints_iff :
    (∀ c ∈ AddStripeFields.webhookEvents.constraints, c.Holds t.contents "webhook_events") ↔
      (t.webhookEvents.map WebhookEvent.id).Nodup ∧
      (t.webhookEvents.map WebhookEvent.eventId).Nodup := by
  rw [AddStripeFields.webhookEvents, List.forall_mem_cons, List.forall_mem_singleton,
    holds_primaryKey_iff WebhookEvent.id uuidValue_injective (columnValues_webhookEvents "id"),
    holds_unique_iff WebhookEvent.eventId stringValue_injective
      (columnValues_webhookEvents "event_id")]

/-- The constraints are those of the tables. -/
theorem constraints_toSql_iff : (∀ table ∈ t.toSql.schema.tables, ∀ c ∈ table.constraints,
    c.Holds t.toSql.contents table.name) ↔ t.Constraints := by
  rw [Tables.toSql, schemaAt_head]
  constructor
  · intro h
    obtain ⟨hplan, hname⟩ := plans_constraints_iff.mp (h plans (by simp))
    obtain ⟨htenant, hemail⟩ := tenants_constraints_iff.mp (h tenants (by simp))
    obtain ⟨hplanKey, htenantKey, hsub, hstripe⟩ :=
      subscriptions_constraints_iff.mp (h subscriptions (by simp))
    obtain ⟨husageKey, husage, hidem⟩ := usageEvents_constraints_iff.mp (h usageEvents (by simp))
    obtain ⟨hinvoiceKey, hinvoice⟩ := invoices_constraints_iff.mp (h invoices (by simp))
    obtain ⟨hwebhook, hevent⟩ :=
      webhookEvents_constraints_iff.mp (h AddStripeFields.webhookEvents (by simp))
    exact ⟨htenant, hemail, hplan, hname, hsub, htenantKey, hplanKey, hstripe, husage, husageKey,
      hidem, hinvoice, hinvoiceKey, hwebhook, hevent⟩
  · intro h table htable
    simp only [List.mem_cons, List.not_mem_nil, or_false] at htable
    rcases htable with rfl | rfl | rfl | rfl | rfl | rfl
    exacts [plans_constraints_iff.mpr ⟨h.plans_pkey, h.plans_name⟩,
      tenants_constraints_iff.mpr ⟨h.tenants_pkey, h.tenants_email⟩,
      subscriptions_constraints_iff.mpr ⟨h.subscriptions_plan_fkey, h.subscriptions_tenant_fkey,
        h.subscriptions_pkey, h.subscriptions_stripe_id⟩,
      usageEvents_constraints_iff.mpr ⟨h.usage_subscription_fkey, h.usage_pkey,
        h.usage_idempotency_key⟩,
      invoices_constraints_iff.mpr ⟨h.invoices_subscription_fkey, h.invoices_pkey⟩,
      webhookEvents_constraints_iff.mpr ⟨h.webhook_pkey, h.webhook_event_id⟩]

/-- **What the server enforces** at the head is what `Database` enforces. -/
theorem valid_toSql_iff : t.toSql.Valid ↔ t.Fits ∧ t.Constraints := by
  constructor
  · intro h
    exact ⟨rows_toSql_iff.mp h.rows, constraints_toSql_iff.mp h.constraints⟩
  · rintro ⟨hfits, hconstraints⟩
    have hconsistent : (schemaAt (some .addStripeFields)).Consistent := by decide
    exact ⟨hconsistent, rows_toSql_iff.mpr hfits, constraints_toSql_iff.mpr hconstraints⟩

/-- There are no rows under other names. -/
theorem contents_eq_nil {table : String} (h : table ∉ t.toSql.schema.tables.map Table.name) :
    t.contents table = [] := by
  rw [Tables.toSql, schemaAt_head] at h
  simp only [List.map_cons, List.map_nil, List.mem_cons, not_or] at h
  obtain ⟨hplans, htenants, hsubs, husage, hinvoices, hevents, -⟩ := h
  unfold Tables.contents
  split <;> first | rfl | contradiction

theorem atRevision_toSql (db : Database) :
    AtRevision (some .addStripeFields) db.toTables.toSql :=
  ⟨rfl, valid_toSql_iff.mpr ⟨db.fits, db.constraints⟩, fun _ => contents_eq_nil⟩

/-- **Every database at the head** is that of a `Database`. -/
theorem exists_database {d : SqlDb} (h : AtRevision (some .addStripeFields) d) :
    ∃ db : Database, db.toTables.toSql = d := by
  have hschema : d.schema = ⟨[plans, tenants, subscriptions, usageEvents, invoices,
    AddStripeFields.webhookEvents], types⟩ := h.schema.trans schemaAt_head
  have hrows := h.valid.rows
  rw [hschema] at hrows
  obtain ⟨ts, htenants⟩ := exists_records fun r hr => exists_tenant (hrows tenants (by simp) r hr)
  obtain ⟨ps, hplans⟩ := exists_records fun r hr => exists_plan (hrows plans (by simp) r hr)
  obtain ⟨ss, hsubs⟩ := exists_records fun r hr =>
    exists_subscription (hrows subscriptions (by simp) r hr)
  obtain ⟨es, husage⟩ := exists_records fun r hr =>
    exists_usageEvent (hrows usageEvents (by simp) r hr)
  obtain ⟨is, hinvoices⟩ := exists_records fun r hr =>
    exists_invoice (hrows invoices (by simp) r hr)
  obtain ⟨ws, hevents⟩ := exists_records fun r hr =>
    exists_webhookEvent (hrows AddStripeFields.webhookEvents (by simp) r hr)
  let t : Tables := ⟨ts, ps, ss, es, is, ws⟩
  have hcontents : t.contents = d.contents := by
    funext table
    unfold Tables.contents
    split
    · exact htenants
    · exact hplans
    · exact hsubs
    · exact husage
    · exact hinvoices
    · exact hevents
    · refine (h.closed table ?_).symm
      rw [hschema]
      simp_all [plans, tenants, subscriptions, usageEvents, invoices,
        AddStripeFields.webhookEvents]
  have heq : t.toSql = d := by
    cases d
    cases h.schema
    cases hcontents
    rfl
  have hvalid : t.toSql.Valid := heq ▸ h.valid
  obtain ⟨hfits, hconstraints⟩ := valid_toSql_iff.mp hvalid
  exact ⟨⟨t, hfits, hconstraints⟩, heq⟩

end Databases

end Migrations

end BillingEngine
