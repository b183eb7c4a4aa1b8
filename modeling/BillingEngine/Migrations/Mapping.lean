import BillingEngine.Migrations.Head

/-!
# The models and the migrations describe the same databases

The model classes are written by hand, and so are the revisions; nothing in the
repository compares the two. They agree: a session finds in every database at the head
the rows of exactly one state of the models, and the server accepts a transaction
exactly if the constraints that the models declare hold.

Results:
* `toSql_injective`: no two states of the models are stored in the same way.
* `models_match_head`: the correspondence, both ways.
-/

namespace BillingEngine

open Relational Migrations

/-! ## Rows determine records -/

@[simp] theorem uuidValue_inj {a b : Uuid} : uuidValue a = uuidValue b ↔ a = b :=
  uuidValue_injective.eq_iff

@[simp] theorem stringValue_inj {a b : String} : stringValue a = stringValue b ↔ a = b :=
  stringValue_injective.eq_iff

@[simp] theorem integerValue_inj {a b : ℤ} : integerValue a = integerValue b ↔ a = b := by
  simp [integerValue]

@[simp] theorem booleanValue_inj {a b : Bool} : booleanValue a = booleanValue b ↔ a = b := by
  simp [booleanValue]

@[simp] theorem dateTimeValue_inj {a b : DateTime} : dateTimeValue a = dateTimeValue b ↔ a = b := by
  simp [dateTimeValue]

@[simp] theorem map_stringValue_inj {a b : Option String} :
    a.map stringValue = b.map stringValue ↔ a = b :=
  (Option.map_injective stringValue_injective).eq_iff

@[simp] theorem map_dateTimeValue_inj {a b : Option DateTime} :
    a.map dateTimeValue = b.map dateTimeValue ↔ a = b :=
  (Option.map_injective fun _ _ => dateTimeValue_inj.mp).eq_iff

@[simp] theorem status_label_inj {a b : SubscriptionStatus} : a.label = b.label ↔ a = b := by
  cases a <;> cases b <;> decide

@[simp] theorem usageType_label_inj {a b : UsageType} : a.label = b.label ↔ a = b := by
  cases a <;> cases b <;> decide

theorem Tenant.toRow_injective : Function.Injective Tenant.toRow := by
  rintro ⟨⟩ ⟨⟩ h
  simp [Tenant.toRow] at h
  simp [h]

theorem Plan.toRow_injective : Function.Injective Plan.toRow := by
  rintro ⟨⟩ ⟨⟩ h
  simp [Plan.toRow] at h
  simp [h]

theorem Subscription.toRow_injective : Function.Injective Subscription.toRow := by
  rintro ⟨⟩ ⟨⟩ h
  simp [Subscription.toRow] at h
  simp [h]

theorem UsageEvent.toRow_injective : Function.Injective UsageEvent.toRow := by
  rintro ⟨⟩ ⟨⟩ h
  simp [UsageEvent.toRow] at h
  simp [h]

theorem Invoice.toRow_injective : Function.Injective Invoice.toRow := by
  rintro ⟨⟩ ⟨⟩ h
  simp [Invoice.toRow] at h
  simp [h]

theorem WebhookEvent.toRow_injective : Function.Injective WebhookEvent.toRow := by
  rintro ⟨⟩ ⟨⟩ h
  simp [WebhookEvent.toRow] at h
  simp [h]

/-- **No two states are stored in the same way.** -/
theorem Tables.toSql_injective : Function.Injective Tables.toSql := by
  intro t t' h
  have hcontents : t.contents = t'.contents := congrArg Db.contents h
  have htable : ∀ table, t.contents table = t'.contents table := congrFun hcontents
  have htenants : t.tenants = t'.tenants :=
    List.map_injective_iff.mpr Tenant.toRow_injective (htable "tenants")
  have hplans : t.plans = t'.plans :=
    List.map_injective_iff.mpr Plan.toRow_injective (htable "plans")
  have hsubs : t.subscriptions = t'.subscriptions :=
    List.map_injective_iff.mpr Subscription.toRow_injective (htable "subscriptions")
  have husage : t.usageEvents = t'.usageEvents :=
    List.map_injective_iff.mpr UsageEvent.toRow_injective (htable "usage_events")
  have hinvoices : t.invoices = t'.invoices :=
    List.map_injective_iff.mpr Invoice.toRow_injective (htable "invoices")
  have hevents : t.webhookEvents = t'.webhookEvents :=
    List.map_injective_iff.mpr WebhookEvent.toRow_injective (htable "webhook_events")
  cases t
  cases t'
  cases htenants
  cases hplans
  cases hsubs
  cases husage
  cases hinvoices
  cases hevents
  rfl

/-- **The models match the head.** Every database at the head is that of one state of the
    models, and a transaction is accepted by the server as it is by the models. -/
theorem Migrations.models_match_head :
    (∀ d : SqlDb, AtRevision (some .addStripeFields) d ↔
      ∃! db : Database, db.toTables.toSql = d) ∧
    ∀ t : Tables, (∃ db, commit t = .ok db ∧ db.toTables = t) ↔ t.toSql.Valid := by
  refine ⟨fun d => ⟨fun h => ?_, ?_⟩, fun t => ⟨?_, fun h => ?_⟩⟩
  · obtain ⟨db, rfl⟩ := exists_database h
    refine ⟨db, rfl, fun db' hdb' => Database.ext (Tables.toSql_injective hdb')⟩
  · rintro ⟨db, rfl, -⟩
    exact atRevision_toSql db
  · rintro ⟨db, -, rfl⟩
    exact valid_toSql_iff.mpr ⟨db.fits, db.constraints⟩
  · obtain ⟨db, hdb⟩ := commit_isOk_iff.mpr (valid_toSql_iff.mp h)
    exact ⟨db, hdb, commit_eq_ok.mp hdb⟩

end BillingEngine
