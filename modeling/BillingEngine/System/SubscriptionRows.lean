import BillingEngine.System.Serial
import BillingEngine.Webhooks.Deliveries

/-!
# What one operation does to the subscriptions

Four operations write to `subscriptions`: the creation of a subscription, a
webhook delivery, the reconciliation job, and none of them deletes a row or
changes its primary key or its tenant.

Results:
* `Op.apply_subscriptions`: what the rows can be after one operation.
* `Op.apply_owners`, `Serial.run_owners`: every row keeps its key and its tenant.
-/

namespace BillingEngine

open Runs Webhooks ReconciliationService

namespace Op

/-- What an operation makes of the rows. -/
inductive SubscriptionChange (driver : Driver) (db : Database) (op : Op) :
    List Subscription → Prop
  | unchanged : SubscriptionChange driver db op db.subscriptions
  | created {subscription : SubscriptionCreate} {now : DateTime} {id : Uuid} {row : Subscription}
      (hop : op = createSubscription subscription now id) :
      SubscriptionChange driver db op (db.subscriptions ++ [row])
  | delivered {event : StripeEvent} {now : DateTime} {ids : StripeService.NewIds}
      {rows : List Subscription} (hop : op = handleWebhook event now ids)
      (hhandled : Handled driver db ⟨event, ids, now⟩)
      (hchange : RowChange driver db ⟨event, ids, now⟩ rows) :
      SubscriptionChange driver db op rows
  | reconciled {retrieve : String → ℕ → Except Exn Json} {attempts : ℕ} {baseDelay : ℚ}
      (hop : op = runOnce (some retrieve) attempts baseDelay) :
      SubscriptionChange driver db op
        (db.subscriptions.map (syncedRow retrieve attempts baseDelay))

/-- **The writers of `subscriptions`.** -/
theorem apply_subscriptions (driver : Driver) (db : Database) (op : Op) :
    SubscriptionChange driver db op (op.apply driver db).subscriptions := by
  have heffect := apply_effect driver db op
  generalize ht : (op.apply driver db).toTables = t at heffect
  cases heffect with
  | subscriptionCreated row => exact .created rfl
  | @delivered event now ids =>
    rw [← ht]
    by_cases hhandled : Handled driver db ⟨event, ids, now⟩
    · exact .delivered rfl hhandled (rowChange_of_handled hhandled).1
    · have hsame : ((handleWebhook event now ids).apply driver db) = db :=
        deliver_of_not_handled hhandled
      rw [hsame]
      exact .unchanged
  | @reconciled retrieve attempts baseDelay =>
    rw [← ht]
    cases retrieve with
    | none => exact .unchanged
    | some retrieve =>
      rw [apply, runOnce_rows]
      exact .reconciled rfl
  | unchanged | tenantCreated | planCreated | plansEdited | recorded | billed => exact .unchanged

end Op

/-! ## Keys and tenants -/

/-- The primary key and the tenant of every row. -/
def Database.owners (db : Database) : List (Uuid × Uuid) :=
  db.subscriptions.map fun row => (row.id, row.tenantId)

variable {driver : Driver} {db db' : Database}

theorem Database.owners_fst (db : Database) :
    db.owners.map Prod.fst = db.subscriptions.map Subscription.id := by
  rw [owners, List.map_map]
  rfl

/-- Where every row keeps its key, a key that exists goes on existing. -/
theorem Database.mem_ids_of_owners {sid : Uuid} (howners : db.owners <+: db'.owners)
    (h : sid ∈ db.subscriptions.map Subscription.id) :
    sid ∈ db'.subscriptions.map Subscription.id := by
  rw [← owners_fst] at h ⊢
  exact (howners.map Prod.fst).subset h

/-- A replaced row has the key and the tenant of the row that was read. -/
theorem owners_replace {loaded object : Subscription} (hmem : loaded ∈ db.subscriptions)
    (hid : object.id = loaded.id) (htenant : object.tenantId = loaded.tenantId) :
    db.owners <+: (Rows.replace Subscription.id object db.subscriptions).map
      fun row => (row.id, row.tenantId) := by
  have hsame : ∀ row ∈ db.subscriptions, row.id = object.id →
      (row.id, row.tenantId) = (object.id, object.tenantId) := by
    intro row hrow heq
    have : row = loaded :=
      Rows.eq_of_unique db.constraints.subscriptions_pkey hrow hmem (heq.trans hid)
    rw [this, hid, htenant]
  rw [Rows.map_replace_of_eq hsame]
  exact List.prefix_rfl

theorem owners_rowChange {d : Delivery} {rows : List Subscription}
    (h : RowChange driver db d rows) :
    db.owners <+: rows.map fun row => (row.id, row.tenantId) := by
  cases h with
  | ignored | unlinked => exact List.prefix_rfl
  | newTenant => rw [List.map_append]; exact List.prefix_append _ _
  | knownTenant _ _ _ hrow => exact owners_replace (Rows.find?_mem hrow).1 rfl rfl
  | updated _ _ hrow => exact owners_replace (StripeService.linkedSubscription_mem hrow) rfl rfl
  | deleted _ _ hrow => exact owners_replace (StripeService.linkedSubscription_mem hrow) rfl rfl

/-- **Ownership never moves.** -/
theorem Op.apply_owners (driver : Driver) (db : Database) (op : Op) :
    db.owners <+: (op.apply driver db).owners := by
  have hchange := apply_subscriptions driver db op
  change _ <+: (op.apply driver db).subscriptions.map _
  generalize (op.apply driver db).subscriptions = rows at hchange
  cases hchange with
  | unchanged => exact List.prefix_rfl
  | created => rw [List.map_append]; exact List.prefix_append _ _
  | delivered _ _ hchange => exact owners_rowChange hchange
  | reconciled =>
    rw [List.map_map]
    exact List.prefix_rfl

theorem Serial.run_owners {ok : Serial → Op → Prop} {s s' : Serial}
    (h : Run (Serial.next driver) ok s s') : s.db.owners <+: s'.db.owners :=
  run_appends Database.owners (fun s op _ => Op.apply_owners driver s.db op) h

end BillingEngine
