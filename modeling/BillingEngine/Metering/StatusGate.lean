import BillingEngine.System.SubscriptionRows

/-!
# The status gate of a Stripe-linked subscription

`record_usage` asks the stored status, and the stored status is what the latest
sync has translated, by webhook or by the reconciliation job. `from_stripe_status`
knows five statuses under which a subscription does not run; everything else,
`incomplete`, `paused` or no status at all, falls through to `ACTIVE`.

Results:
* `row_synced`, `row_kept`: a sync sets the status of its row, and only a sync of
  the row or a checkout changes it.
* `refused_iff`: after any run since the latest sync, a new request is refused
  exactly if that sync was a deletion or carried one of the five statuses.
* `paused_consumes`: a paused subscription consumes.
-/

namespace BillingEngine

open Runs Webhooks ReconciliationService StripeService UsageRepository SubscriptionRepository

namespace StatusGate

/-- What a sync carries: the deletion of the Stripe subscription, or a status. -/
inductive Sync where
  | deletion
  | status (stripeStatus : Json)

/-- The status that the row has after it. -/
def Sync.translated : Sync → SubscriptionStatus
  | deletion => .cancelled
  | status stripeStatus => fromStripeStatus stripeStatus

/-- The operation commits a sync of the row. -/
inductive Syncs (driver : Driver) (db : Database) (rid : Uuid) : Op → Sync → Prop
  /-- a delivery of `customer.subscription.updated` -/
  | updated {event : StripeEvent} {now : DateTime} {ids : NewIds} {obj : Json}
      {loaded : Subscription} (hhandled : Handled driver db ⟨event, ids, now⟩)
      (htype : event.type = "customer.subscription.updated")
      (hobj : event.data.getItem "object" = .ok obj)
      (hrow : linkedSubscription driver db obj = .ok (some loaded)) (hid : loaded.id = rid) :
      Syncs driver db rid (.handleWebhook event now ids) (.status (obj.getAttr "status"))
  /-- a delivery of `customer.subscription.deleted` -/
  | deleted {event : StripeEvent} {now : DateTime} {ids : NewIds} {obj : Json}
      {loaded : Subscription} (hhandled : Handled driver db ⟨event, ids, now⟩)
      (htype : event.type = "customer.subscription.deleted")
      (hobj : event.data.getItem "object" = .ok obj)
      (hrow : linkedSubscription driver db obj = .ok (some loaded)) (hid : loaded.id = rid) :
      Syncs driver db rid (.handleWebhook event now ids) .deletion
  /-- an answer to the reconciliation job -/
  | reconciled {retrieve : String → ℕ → Except Exn Json} {attempts : ℕ} {baseDelay : ℚ}
      {row : Subscription} {answer : Json} (hmem : row ∈ db.subscriptions) (hid : row.id = rid)
      (hanswer : answerFor retrieve attempts baseDelay row = some answer) :
      Syncs driver db rid (.runOnce (some retrieve) attempts baseDelay)
        (.status (answer.getAttr "status"))

/-- The operation is no sync of the row, and no checkout. -/
def NoNewerSync (driver : Driver) (rid : Uuid) (s : Serial) (op : Op) : Prop :=
  (∀ sync, ¬ Syncs driver s.db rid op sync) ∧
    ∀ event now ids, op = .handleWebhook event now ids →
      event.type ≠ "checkout.session.completed"

/-- The row has the status. -/
def HasStatus (db : Database) (rid : Uuid) (status : SubscriptionStatus) : Prop :=
  ∃ row ∈ db.subscriptions, row.id = rid ∧ row.status = status

/-- The sync is a deletion, or it carries one of the five statuses that are translated. -/
def Closes : Sync → Prop
  | .deletion => True
  | .status stripeStatus => stripeStatus ∈ [Json.str "trialing", .str "past_due", .str "unpaid",
      .str "canceled", .str "incomplete_expired"]

variable {driver : Driver} {db : Database} {rid : Uuid} {op : Op} {sync : Sync}

theorem translated_ne_active_iff : sync.translated ≠ .active ↔ Closes sync := by
  cases sync with
  | deletion => simp [Sync.translated, Closes]
  | status stripeStatus =>
    cases stripeStatus with
    | str text =>
      simp only [Sync.translated, Closes, fromStripeStatus, List.mem_cons, Json.str.injEq,
        List.not_mem_nil, or_false]
      split_ifs with htrialing hpastDue hcancelled
      · simp [htrialing]
      · rcases hpastDue with rfl | rfl <;> simp
      · rcases hcancelled with rfl | rfl <;> simp
      · simp only [ne_eq, not_true_eq_false, false_iff]
        tauto
    | _ => simp [Sync.translated, Closes, fromStripeStatus]

/-! ## One operation -/

/-- **A sync sets the status of its row.** -/
theorem row_synced (h : Syncs driver db rid op sync) :
    HasStatus (op.apply driver db) rid sync.translated := by
  cases h with
  | @updated event now ids obj loaded hhandled htype hobj hrow hid =>
    obtain ⟨plan, -, hrows⟩ := (rowChange_of_handled hhandled).1.of_updated htype hobj hrow
    change ∃ row ∈ (deliver driver db ⟨event, ids, now⟩).1.subscriptions, _
    rw [hrows]
    exact ⟨_, Rows.self_mem_replace (linkedSubscription_mem hrow) rfl, hid, rfl⟩
  | @deleted event now ids obj loaded hhandled htype hobj hrow hid =>
    have hrows := (rowChange_of_handled hhandled).1.of_deleted htype hobj hrow
    change ∃ row ∈ (deliver driver db ⟨event, ids, now⟩).1.subscriptions, _
    rw [hrows]
    exact ⟨_, Rows.self_mem_replace (linkedSubscription_mem hrow) rfl, hid, rfl⟩
  | @reconciled retrieve attempts baseDelay row answer hmem hid hanswer =>
    refine ⟨syncedRow retrieve attempts baseDelay row, ?_, hid, ?_⟩
    · rw [Op.apply, runOnce_rows]
      exact List.mem_map_of_mem hmem
    · simp only [syncedRow, syncedStatus, hanswer, Sync.translated]

/-- **Only a sync or a checkout changes the status.** -/
theorem row_kept {status : SubscriptionStatus} (h : HasStatus db rid status)
    (hsync : ∀ sync, ¬ Syncs driver db rid op sync)
    (hcheckout : ∀ event now ids, op = .handleWebhook event now ids →
      event.type ≠ "checkout.session.completed") :
    HasStatus (op.apply driver db) rid status := by
  obtain ⟨row, hmem, hid, hstatus⟩ := h
  have hchange := Op.apply_subscriptions driver db op
  unfold HasStatus
  generalize (op.apply driver db).subscriptions = rows at hchange
  cases hchange with
  | unchanged => exact ⟨row, hmem, hid, hstatus⟩
  | created => exact ⟨row, List.mem_append_left _ hmem, hid, hstatus⟩
  | delivered hop hhandled hchange =>
    subst hop
    have hother : ∀ loaded : Subscription, loaded.id ≠ rid → row.id ≠ loaded.id := by
      rintro loaded hne heq
      exact hne (heq.symm.trans hid)
    cases hchange with
    | ignored | unlinked => exact ⟨row, hmem, hid, hstatus⟩
    | newTenant htype | knownTenant htype => exact absurd htype (hcheckout _ _ _ rfl)
    | @updated obj loaded plan htype hobj hrow =>
      have hne : loaded.id ≠ rid := fun heq =>
        hsync _ (.updated hhandled htype hobj hrow heq)
      exact ⟨row, Rows.mem_replace_of_ne hmem (hother loaded hne), hid, hstatus⟩
    | @deleted obj loaded htype hobj hrow =>
      have hne : loaded.id ≠ rid := fun heq =>
        hsync _ (.deleted hhandled htype hobj hrow heq)
      exact ⟨row, Rows.mem_replace_of_ne hmem (hother loaded hne), hid, hstatus⟩
  | @reconciled retrieve attempts baseDelay hop =>
    subst hop
    refine ⟨syncedRow retrieve attempts baseDelay row, List.mem_map_of_mem hmem, hid, ?_⟩
    have hnone : answerFor retrieve attempts baseDelay row = none := by
      by_contra hsome
      obtain ⟨answer, hanswer⟩ := Option.ne_none_iff_exists'.mp hsome
      exact hsync _ (.reconciled hmem hid hanswer)
    simp only [syncedRow, syncedStatus, hnone]
    exact hstatus

/-! ## Runs -/

theorem run_kept {status : SubscriptionStatus} {s s' : Serial}
    (hrun : Run (Serial.next driver) (NoNewerSync driver rid) s s')
    (h : HasStatus s.db rid status) : HasStatus s'.db rid status := by
  refine hrun.invariant (P := fun s => HasStatus s.db rid status) ?_ h
  intro s op s' hs hok hnext
  rw [(Serial.next_eq_some.mp hnext).2]
  exact row_kept hs hok.1 hok.2

/-- **The gate after the latest sync.** A request under a new key, without a NUL, is refused for the
    status, and records nothing, exactly if the sync closes the gate. -/
theorem refused_iff {s₀ s₁ s : Serial} (hsync : Syncs driver s₀.db rid op sync)
    (hnext : Serial.next driver s₀ op = some s₁)
    (hrun : Run (Serial.next driver) (NoNewerSync driver rid) s₁ s) {usage : UsageRequest}
    (hrid : usage.subscriptionId = rid) (hstorable : Storable usage.idempotencyKey)
    (hkey : getByIdempotencyKey s.db usage.idempotencyKey = none)
    (nowBounds nowInsert : DateTime) (id : Uuid) :
    (∃ status, UsageService.recordUsage s.db usage nowBounds nowInsert id =
      (s.db, .error (UsageService.notActive usage status))) ↔ Closes sync := by
  have hset : HasStatus s₁.db rid sync.translated := by
    rw [(Serial.next_eq_some.mp hnext).2]
    exact row_synced hsync
  obtain ⟨row, hmem, hid, hstatus⟩ := run_kept hrun hset
  have hsub : getById s.db usage.subscriptionId = some row :=
    getById_eq_some_iff.mpr ⟨hmem, hid.trans hrid.symm⟩
  rw [← translated_ne_active_iff, ← hstatus]
  constructor
  · rintro ⟨status, hrefused⟩ hact
    exact UsageService.recordUsage_of_active hsub hact _ (by rw [hrefused]; rfl)
  · intro hact
    exact ⟨row.status, UsageService.recordUsage_of_inactive hstorable hkey hsub hact⟩

/-- The sample database, in which `sub_1` is active. -/
def start : Serial where
  db := Sample.db
  clock := Sample.july

/-- The delivery of an update of `sub_1` with the given fields. -/
def update (fields : List (String × Json)) : Delivery :=
  Sample.eventAbout "evt_1" "customer.subscription.updated" fields 0

def afterUpdate (fields : List (String × Json)) : Serial where
  db := (deliver .stringsOnly Sample.db (update fields)).1
  clock := Sample.july

/-- The delivery as an operation. -/
def updateOp (fields : List (String × Json)) : Op :=
  .handleWebhook (update fields).event (update fields).now (update fields).ids

/-- The status that it carries. -/
def carried (fields : List (String × Json)) : Json :=
  Json.getAttr (.obj (("id", .str "sub_1") :: fields)) "status"

theorem next_update (fields : List (String × Json)) :
    Serial.next .stringsOnly start (updateOp fields) = some (afterUpdate fields) := by
  have hclock : Serial.readClock Sample.july [Sample.july] = some Sample.july := by decide
  exact Serial.next_eq_some.mpr ⟨hclock, rfl⟩

theorem syncs_update {fields : List (String × Json)}
    (hhandled : Handled .stringsOnly Sample.db (update fields)) :
    Syncs .stringsOnly start.db ⟨3⟩ (updateOp fields) (.status (carried fields)) := by
  have hid : HasId (.obj (("id", .str "sub_1") :: fields)) "sub_1" := rfl
  have hrow := linkedSubscription_of_hasId .stringsOnly Sample.db hid
  exact .updated hhandled rfl rfl (hrow.trans rfl) (show Sample.subscription.id = ⟨3⟩ from rfl)

theorem refused_iff_past_due : ∃ status,
    UsageService.recordUsage (afterUpdate [("status", .str "past_due")]).db (Sample.tenCalls "k")
        Sample.july Sample.july ⟨10⟩ =
      ((afterUpdate [("status", .str "past_due")]).db,
        .error (UsageService.notActive (Sample.tenCalls "k") status)) := by
  have hcloses : Closes (.status (carried [("status", .str "past_due")])) := by
    simp [Closes, carried, Json.getAttr, List.lookup]
  exact (refused_iff (syncs_update (by decide)) (next_update _) .refl rfl (by decide) (by decide)
    _ _ _).mpr hcloses

/-- The update is a sync with another status than `active`, and ten calls under a new
    key are recorded after it. -/
structure Consumes (fields : List (String × Json)) : Prop where
  syncs : Syncs .stringsOnly start.db ⟨3⟩ (updateOp fields) (.status (carried fields))
  not_active : carried fields ≠ .str "active"
  next : Serial.next .stringsOnly start (updateOp fields) = some (afterUpdate fields)
  fresh_key : getByIdempotencyKey (afterUpdate fields).db "k" = none
  recorded : (UsageService.recordUsage (afterUpdate fields).db (Sample.tenCalls "k") Sample.july
    Sample.july ⟨10⟩).1.usageEvents = [newEvent (Sample.tenCalls "k") ⟨10⟩ Sample.july]

/-- A paused subscription, one that is incomplete and one without a status consume. -/
theorem paused_consumes : Consumes [("status", .str "paused")] ∧
    Consumes [("status", .str "incomplete")] ∧ Consumes [] :=
  ⟨⟨syncs_update (by decide), by simp [carried, Json.getAttr, List.lookup], next_update _,
      by decide, by decide⟩,
    ⟨syncs_update (by decide), by simp [carried, Json.getAttr, List.lookup], next_update _,
      by decide, by decide⟩,
    ⟨syncs_update (by decide), by simp [carried, Json.getAttr, List.lookup], next_update _,
      by decide, by decide⟩⟩

end StatusGate

end BillingEngine
