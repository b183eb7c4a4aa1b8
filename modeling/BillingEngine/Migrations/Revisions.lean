import BillingEngine.Common.Scripts
import BillingEngine.Model.Tables

/-!
# The six revisions (`alembic/versions/`)

Each revision has a script for `upgrade()` and one for `downgrade()`, with one statement
for each call of `op`, in the order of the source. `Enum.create` and `Enum.drop` are
called with `checkfirst=True`, but the enum of a column of `create_table` is created
without a check. The scripts of one call are run in one transaction (`env.py`), so nothing
is changed if one of them fails.

The table in which Alembic notes the current revision is left out.
-/

namespace BillingEngine

open Relational

namespace Migrations

/-! ## Column types and values -/

/-- The types of `sqlalchemy` in the revisions; a `String` may have a length. -/
inductive SqlType where
  | uuid
  | string (length : Option ℕ)
  | integer
  | boolean
  | dateTime
deriving DecidableEq

inductive SqlValue where
  | uuid (value : Uuid)
  | string (value : String)
  | integer (value : ℤ)
  | boolean (value : Bool)
  | dateTime (value : DateTime)
deriving DecidableEq

def SqlType.Fits : SqlType → SqlValue → Prop
  | .uuid, .uuid _ => True
  | .string length, .string value => ∀ n ∈ length, value.length ≤ n
  | .integer, .integer value => inInteger value
  | .boolean, .boolean _ => True
  | .dateTime, .dateTime _ => True
  | _, _ => False

instance : ∀ (type : SqlType) (value : SqlValue), Decidable (type.Fits value)
  | .uuid, v | .string _, v | .integer, v | .boolean, v | .dateTime, v => by
    cases v <;> unfold SqlType.Fits <;> infer_instance

instance : Scalars SqlType SqlValue := ⟨SqlType.Fits, inferInstance⟩

abbrev SqlDb := Db SqlType SqlValue

abbrev SqlRow := Row SqlValue

abbrev Op := Statement SqlType SqlValue

/-- `sa.Column(name, type, nullable=…)` -/
def column (name : String) (type : SqlType) (nullable : Bool) : Column SqlType :=
  ⟨name, .scalar type, nullable⟩

/-- `sa.Column(name, sa.Enum(…, name=enum), nullable=…)` -/
def enumColumn (name enum : String) (nullable : Bool) : Column SqlType :=
  ⟨name, .enum enum, nullable⟩

def uuidValue (u : Uuid) : Value SqlValue := .scalar (.uuid u)

def stringValue (s : String) : Value SqlValue := .scalar (.string s)

def integerValue (n : ℤ) : Value SqlValue := .scalar (.integer n)

def booleanValue (b : Bool) : Value SqlValue := .scalar (.boolean b)

def dateTimeValue (t : DateTime) : Value SqlValue := .scalar (.dateTime t)

theorem uuidValue_injective : Function.Injective uuidValue := fun _ _ h => by cases h; rfl

theorem stringValue_injective : Function.Injective stringValue := fun _ _ h => by cases h; rfl

/-! ### What a cell holds -/

section Cells

variable {types : List EnumType} {name : String} {v : Option (Value SqlValue)}

/-- The value of a cell that may not be null. -/
theorem cellOk_notNull {type : SqlType} (h : CellOk types (column name type false) (name, v)) :
    ∃ value, v = some (.scalar value) ∧ type.Fits value := by
  obtain ⟨-, hnull, hfits⟩ := h
  cases v with
  | none => exact absurd (hnull rfl) (by simp [column])
  | some value =>
    have hvalue := hfits value rfl
    cases value with
    | scalar value => exact ⟨value, rfl, hvalue⟩
    | label text => exact hvalue.elim

theorem cellOk_uuid (h : CellOk types (column name .uuid false) (name, v)) :
    ∃ u, v = some (uuidValue u) := by
  obtain ⟨value, rfl, hfits⟩ := cellOk_notNull h
  cases value <;> first | exact ⟨_, rfl⟩ | exact hfits.elim

theorem cellOk_integer (h : CellOk types (column name .integer false) (name, v)) :
    ∃ n, v = some (integerValue n) ∧ inInteger n := by
  obtain ⟨value, rfl, hfits⟩ := cellOk_notNull h
  cases value <;> first | exact ⟨_, rfl, hfits⟩ | exact hfits.elim

theorem cellOk_string {length : Option ℕ}
    (h : CellOk types (column name (.string length) false) (name, v)) :
    ∃ s, v = some (stringValue s) := by
  obtain ⟨value, rfl, hfits⟩ := cellOk_notNull h
  cases value <;> first | exact ⟨_, rfl⟩ | exact hfits.elim

theorem cellOk_boolean (h : CellOk types (column name .boolean false) (name, v)) :
    ∃ b, v = some (booleanValue b) := by
  obtain ⟨value, rfl, hfits⟩ := cellOk_notNull h
  cases value <;> first | exact ⟨_, rfl⟩ | exact hfits.elim

theorem cellOk_dateTime (h : CellOk types (column name .dateTime false) (name, v)) :
    ∃ t, v = some (dateTimeValue t) := by
  obtain ⟨value, rfl, hfits⟩ := cellOk_notNull h
  cases value <;> first | exact ⟨_, rfl⟩ | exact hfits.elim

/-- A cell that is not null is one of the column that may not be null. -/
theorem cellOk_nullable {type : SqlType} (h : CellOk types (column name type true) (name, v)) :
    v = none ∨ CellOk types (column name type false) (name, v) := by
  cases v with
  | none => exact .inl rfl
  | some value => exact .inr ⟨rfl, fun hnone => absurd hnone (by simp), h.2.2⟩

theorem cellOk_nullableString (h : CellOk types (column name (.string none) true) (name, v)) :
    ∃ s : Option String, v = s.map stringValue := by
  rcases cellOk_nullable h with rfl | h
  · exact ⟨none, rfl⟩
  · obtain ⟨s, rfl⟩ := cellOk_string h
    exact ⟨some s, rfl⟩

theorem cellOk_nullableDateTime (h : CellOk types (column name .dateTime true) (name, v)) :
    ∃ t : Option DateTime, v = t.map dateTimeValue := by
  rcases cellOk_nullable h with rfl | h
  · exact ⟨none, rfl⟩
  · obtain ⟨t, rfl⟩ := cellOk_dateTime h
    exact ⟨some t, rfl⟩

theorem cellOk_enum {enum : String} (h : CellOk types (enumColumn name enum false) (name, v)) :
    ∃ type ∈ types, type.name = enum ∧ ∃ text ∈ type.labels, v = some (.label text) := by
  obtain ⟨-, hnull, hfits⟩ := h
  cases v with
  | none => exact absurd (hnull rfl) (by simp [enumColumn])
  | some value =>
    have hvalue := hfits value rfl
    cases value with
    | scalar value => exact hvalue.elim
    | label text =>
      obtain ⟨type, htype, hname, htext⟩ := hvalue
      exact ⟨type, htype, hname, text, htext, rfl⟩

/-- The cells of a row under the names of the columns. -/
theorem cells_of_rowOk {columns : List (Column SqlType)} {r : SqlRow} (h : RowOk types columns r)
    (hnames : (columns.map Column.name).Nodup) (name : String) (type : ColumnType SqlType)
    (nullable : Bool) (hc : ⟨name, type, nullable⟩ ∈ columns) :
    CellOk types ⟨name, type, nullable⟩ (name, r.value name) :=
  h.cellOk hnames hc

end Cells

/-! ## `43dca0c47b44`: create initial schema -/

namespace CreateInitialSchema

def plans : Table SqlType where
  name := "plans"
  columns := [column "id" .uuid false, column "name" (.string (some 100)) false,
    column "price" .integer false, column "usage_limit" .integer false,
    column "is_active" .boolean false]
  constraints := [.primaryKey "id", .unique none "name"]

def tenants : Table SqlType where
  name := "tenants"
  columns := [column "id" .uuid false, column "name" (.string (some 255)) false,
    column "email" (.string (some 255)) false, column "is_active" .boolean false]
  constraints := [.primaryKey "id"]

def subscriptionStatus : EnumType where
  name := "subscriptionstatus"
  labels := ["ACTIVE", "CANCELLED", "PAST_DUE", "TRIALING"]

def subscriptions : Table SqlType where
  name := "subscriptions"
  columns := [column "id" .uuid false, column "tenant_id" .uuid false,
    column "plan_id" .uuid false, enumColumn "status" "subscriptionstatus" false,
    column "started_at" .dateTime false]
  constraints := [.foreignKey "plan_id" "plans" "id", .foreignKey "tenant_id" "tenants" "id",
    .primaryKey "id"]

def usageEvents : Table SqlType where
  name := "usage_events"
  columns := [column "id" .uuid false, column "subscription_id" .uuid false,
    column "quantity" .integer false, column "created_at" .dateTime false]
  constraints := [.foreignKey "subscription_id" "subscriptions" "id", .primaryKey "id"]

def upgrade : List Op :=
  [.createTable plans [], .createTable tenants [],
    .createConstraint "tenants" (.uniqueIndex "ix_tenants_email" "email"),
    .createTable subscriptions [subscriptionStatus], .createTable usageEvents []]

def downgrade : List Op :=
  [.dropTable "usage_events", .dropTable "subscriptions", .dropIndex "ix_tenants_email" "tenants",
    .dropTable "tenants", .dropTable "plans"]

end CreateInitialSchema

/-! ## `10bb7eb21c52`: add idempotency key to usage events -/

namespace AddIdempotencyKey

/-- `'legacy-' || id::text`, for the value of the column `id` -/
def legacyText : Option (Value SqlValue) → Option (Value SqlValue)
  | some (.scalar (.uuid id)) => some (.scalar (.string ("legacy-" ++ id.str)))
  | _ => none

def legacyKey (r : SqlRow) : Option (Value SqlValue) := legacyText (r.value "id")

def upgrade : List Op :=
  [.addColumn "usage_events" (column "idempotency_key" (.string none) true),
    .update "usage_events" [("idempotency_key", legacyKey)]
      fun r => (r.value "idempotency_key").isNone,
    .setNotNull "usage_events" "idempotency_key",
    .createConstraint "usage_events"
      (.unique (some "uq_usage_events_idempotency_key") "idempotency_key")]

/-- The constraint is dropped as `None`. -/
def downgrade : List Op :=
  [.dropConstraint none "usage_events", .dropColumn "usage_events" "idempotency_key"]

end AddIdempotencyKey

/-! ## `8b0e3e7d8039`: add invoices -/

namespace AddInvoices

def invoices : Table SqlType where
  name := "invoices"
  columns := [column "id" .uuid false, column "subscription_id" .uuid false,
    column "plan_price" .integer false, column "usage_limit" .integer false,
    column "total_usage" .integer false, column "overage" .integer false,
    column "amount_due" .integer false, column "created_at" .dateTime false]
  constraints := [.foreignKey "subscription_id" "subscriptions" "id", .primaryKey "id"]

def upgrade : List Op := [.createTable invoices []]

def downgrade : List Op := [.dropTable "invoices"]

end AddInvoices

/-! ## `4c4dce7abd0f`: add billing period to invoices -/

namespace AddBillingPeriod

def upgrade : List Op :=
  [.addColumn "invoices" (column "period_start" .dateTime true),
    .addColumn "invoices" (column "period_end" .dateTime true)]

def downgrade : List Op :=
  [.dropColumn "invoices" "period_end", .dropColumn "invoices" "period_start"]

end AddBillingPeriod

/-! ## `2a29408dbf7d`: add usage types and per-type plan limits -/

namespace AddUsageTypes

def usageType : EnumType where
  name := "usagetype"
  labels := ["API_CALL", "TOKENS"]

def zero (_ : SqlRow) : Option (Value SqlValue) := some (.scalar (.integer 0))

def upgrade : List Op :=
  [.createType usageType,
    .addColumn "usage_events" (enumColumn "usage_type" "usagetype" true),
    .update "usage_events" [("usage_type", fun _ => some (.label "API_CALL"))] fun _ => true,
    .setNotNull "usage_events" "usage_type",
    .addColumn "plans" (column "api_call_limit" .integer true),
    .addColumn "plans" (column "tokens_limit" .integer true),
    .addColumn "plans" (column "stripe_price_id" (.string none) true),
    .addColumn "plans" (column "stripe_product_id" (.string none) true),
    .update "plans" [("api_call_limit", fun r => r.value "usage_limit"), ("tokens_limit", zero)]
      fun _ => true,
    .setNotNull "plans" "api_call_limit",
    .setNotNull "plans" "tokens_limit",
    .addColumn "usage_events" (column "cached_input_tokens" .integer true),
    .addColumn "usage_events" (column "input_tokens" .integer true),
    .addColumn "usage_events" (column "output_tokens" .integer true),
    .addColumn "usage_events" (column "reasoning_tokens" .integer true),
    .update "usage_events" [("cached_input_tokens", zero), ("input_tokens", zero),
      ("output_tokens", zero), ("reasoning_tokens", zero)] fun _ => true,
    .setNotNull "usage_events" "cached_input_tokens",
    .setNotNull "usage_events" "input_tokens",
    .setNotNull "usage_events" "output_tokens",
    .setNotNull "usage_events" "reasoning_tokens"]

def downgrade : List Op :=
  [.dropColumn "usage_events" "reasoning_tokens", .dropColumn "usage_events" "output_tokens",
    .dropColumn "usage_events" "input_tokens", .dropColumn "usage_events" "cached_input_tokens",
    .dropColumn "plans" "tokens_limit", .dropColumn "plans" "api_call_limit",
    .dropColumn "plans" "stripe_product_id", .dropColumn "plans" "stripe_price_id",
    .dropColumn "usage_events" "usage_type", .dropType "usagetype"]

end AddUsageTypes

/-! ## `c1d0e2f3a4b5`: add stripe fields and webhook_events -/

namespace AddStripeFields

def webhookEvents : Table SqlType where
  name := "webhook_events"
  columns := [column "id" .uuid false, column "event_id" (.string none) false,
    column "event_type" (.string none) false, column "created_at" .dateTime false]
  constraints := [.primaryKey "id", .unique none "event_id"]

def upgrade : List Op :=
  [.createTable webhookEvents [],
    .addColumn "subscriptions" (column "stripe_customer_id" (.string none) true),
    .addColumn "subscriptions" (column "stripe_subscription_id" (.string none) true),
    .createConstraint "subscriptions"
      (.unique (some "uq_subscriptions_stripe_subscription_id") "stripe_subscription_id")]

def downgrade : List Op :=
  [.dropConstraint (some "uq_subscriptions_stripe_subscription_id") "subscriptions",
    .dropColumn "subscriptions" "stripe_subscription_id",
    .dropColumn "subscriptions" "stripe_customer_id", .dropTable "webhook_events"]

end AddStripeFields

/-! ## The chain of revisions -/

inductive Revision where
  | createInitialSchema
  | addIdempotencyKey
  | addInvoices
  | addBillingPeriod
  | addUsageTypes
  | addStripeFields
deriving DecidableEq

namespace Revision

/-- `down_revision` -/
def downRevision : Revision → Option Revision
  | createInitialSchema => none
  | addIdempotencyKey => some createInitialSchema
  | addInvoices => some addIdempotencyKey
  | addBillingPeriod => some addInvoices
  | addUsageTypes => some addBillingPeriod
  | addStripeFields => some addUsageTypes

def upgrade : Revision → List Op
  | createInitialSchema => CreateInitialSchema.upgrade
  | addIdempotencyKey => AddIdempotencyKey.upgrade
  | addInvoices => AddInvoices.upgrade
  | addBillingPeriod => AddBillingPeriod.upgrade
  | addUsageTypes => AddUsageTypes.upgrade
  | addStripeFields => AddStripeFields.upgrade

def downgrade : Revision → List Op
  | createInitialSchema => CreateInitialSchema.downgrade
  | addIdempotencyKey => AddIdempotencyKey.downgrade
  | addInvoices => AddInvoices.downgrade
  | addBillingPeriod => AddBillingPeriod.downgrade
  | addUsageTypes => AddUsageTypes.downgrade
  | addStripeFields => AddStripeFields.downgrade

/-- The revisions from the first one up to this one. -/
def history : Revision → List Revision
  | createInitialSchema => [createInitialSchema]
  | addIdempotencyKey => [createInitialSchema, addIdempotencyKey]
  | addInvoices => [createInitialSchema, addIdempotencyKey, addInvoices]
  | addBillingPeriod => [createInitialSchema, addIdempotencyKey, addInvoices, addBillingPeriod]
  | addUsageTypes =>
    [createInitialSchema, addIdempotencyKey, addInvoices, addBillingPeriod, addUsageTypes]
  | addStripeFields =>
    [createInitialSchema, addIdempotencyKey, addInvoices, addBillingPeriod, addUsageTypes,
      addStripeFields]

theorem history_eq (r : Revision) : r.history = (r.downRevision.elim [] history) ++ [r] := by
  cases r <;> rfl

end Revision

/-- The schema at a revision, as the upgrades up to it make it from nothing; `none` is
    the state before the first one. -/
def schemaAt (revision : Option Revision) : Schema SqlType :=
  schemaAfter ((revision.elim [] Revision.history).flatMap Revision.upgrade) ⟨[], []⟩

/-- A database at a revision: any rows that the schema accepts. -/
structure AtRevision (revision : Option Revision) (d : SqlDb) : Prop where
  schema : d.schema = schemaAt revision
  valid : d.Valid
  closed : d.Closed

end Migrations

end BillingEngine
