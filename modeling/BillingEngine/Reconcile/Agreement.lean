import BillingEngine.Webhooks.Atomicity

/-!
# Reconciliation against the webhook path

The job and the handler of `customer.subscription.updated` read the same Stripe
object. The handler takes the status and the plan of its price from it, the job
only the status. Both passes map every row of `subscriptions` on its own, so the
tables agree exactly when the two maps agree on every row.

Results:
* `runOnce_subscriptions`: what `run_once` makes of each row.
* `deliverAll_subscriptions`: what one update event for each linked row, in any
  order, makes of each row.
* `agreement_iff`: the tables are equal iff the objects name no other plan.
* `plan_not_reconciled`: a changed price is where they differ.
-/

namespace BillingEngine

open StripeService ReconciliationService SubscriptionRepository Webhooks

/-- What Stripe answers: for every subscription id the object that has it. -/
structure StripeView where
  object : String → Json
  hasId : ∀ stripeId, HasId (object stripeId) stripeId

namespace StripeView

variable (view : StripeView)

/-- The status that an object stands for. -/
def status (stripeId : String) : SubscriptionStatus :=
  fromStripeStatus ((view.object stripeId).getAttr "status")

/-- Every `Subscription.retrieve` succeeds. -/
def retrieve (stripeId : String) (_ : ℕ) : Except Exn Json := .ok (view.object stripeId)

end StripeView

namespace Agreement

variable (driver : Driver) (db : Database) (view : StripeView)

/-- What the job makes of a row. -/
def reconciledRow (row : Subscription) : Subscription :=
  match row.stripeSubscriptionId with
  | none => row
  | some stripeId => { row with status := view.status stripeId }

/-- What the update event makes of the row that it is about. -/
def deliveredRow (row : Subscription) : Subscription :=
  match row.stripeSubscriptionId with
  | none => row
  | some stripeId =>
    if stripeId = "" then row
    else
      match pricedPlan driver db (view.object stripeId) with
      | .error _ => row
      | .ok plan =>
        { row with status := view.status stripeId, planId := (plan.map Plan.id).getD row.planId }

/-! ## The job -/

variable {driver db view} {row : Subscription} {stripeId : String}

theorem reconciledRow_none (h : row.stripeSubscriptionId = none) :
    reconciledRow view row = row := by
  simp only [reconciledRow, h]

theorem reconciledRow_some (h : row.stripeSubscriptionId = some stripeId) :
    reconciledRow view row = { row with status := view.status stripeId } := by
  simp only [reconciledRow, h]

theorem retry_retrieve {attempts : ℕ} (hattempts : 0 < attempts) (baseDelay : ℚ)
    (stripeId : String) :
    (retry (view.retrieve stripeId) attempts baseDelay).result = .ok (view.object stripeId) := by
  cases attempts with
  | zero => omega
  | succ n => rfl

theorem runOnce_subscriptions {attempts : ℕ} (hattempts : 0 < attempts) (baseDelay : ℚ) :
    (runOnce (some view.retrieve) attempts baseDelay db).1.subscriptions =
      db.subscriptions.map (reconciledRow view) := by
  rw [runOnce_rows]
  refine List.map_congr_left fun row _ => ?_
  obtain hs | ⟨stripeId, hs⟩ := Option.eq_none_or_eq_some row.stripeSubscriptionId
  · rw [reconciledRow_none hs]
    simp only [syncedRow, syncedStatus, answerFor, hs, Option.bind_none]
    rw [← hs]
  · rw [reconciledRow_some hs]
    simp only [syncedRow, syncedStatus, answerFor, hs, Option.bind_some,
      retry_retrieve hattempts, Except.toOption, StripeView.status]

/-! ## The deliveries -/

/-- The delivery of the object about one Stripe subscription. -/
structure UpdateDelivery where
  stripeId : String
  eventId : String
  ids : NewIds
  now : DateTime

namespace UpdateDelivery

/-- The event that is delivered. -/
def toDelivery (view : StripeView) (d : UpdateDelivery) : Delivery where
  event := updatedEvent d.eventId (view.object d.stripeId)
  ids := d.ids
  now := d.now

end UpdateDelivery

/-- The deliveries have new event ids and draw new keys for their markers. -/
structure NewEvents (db : Database) (ds : List UpdateDelivery) : Prop where
  eventIds_nodup : (ds.map UpdateDelivery.eventId).Nodup
  eventIds_new : ∀ d ∈ ds, d.eventId ∉ db.webhookEvents.map WebhookEvent.eventId
  markers_nodup : (ds.map fun d => d.ids.marker).Nodup
  markers_new : ∀ d ∈ ds, d.ids.marker ∉ db.webhookEvents.map WebhookEvent.id

/-- The rows after one delivery. -/
def afterDelivery (driver : Driver) (db : Database) (view : StripeView) (stripeId : String)
    (row : Subscription) : Subscription :=
  if row.stripeSubscriptionId = some stripeId then deliveredRow driver db view row else row

theorem deliveredRow_keeps (row : Subscription) :
    (deliveredRow driver db view row).id = row.id ∧
      (deliveredRow driver db view row).tenantId = row.tenantId ∧
      (deliveredRow driver db view row).stripeSubscriptionId = row.stripeSubscriptionId := by
  unfold deliveredRow
  split
  · exact ⟨rfl, rfl, rfl⟩
  · split_ifs
    · exact ⟨rfl, rfl, rfl⟩
    · split <;> exact ⟨rfl, rfl, rfl⟩

/-- The plan of a delivered row exists. -/
theorem deliveredRow_planId (hrow : row ∈ db.subscriptions) :
    (deliveredRow driver db view row).planId ∈ db.plans.map Plan.id := by
  have hold := db.constraints.subscriptions_plan_fkey row hrow
  unfold deliveredRow
  split
  · exact hold
  · split_ifs
    · exact hold
    · split
      · exact hold
      · rename_i plan hplan
        cases plan with
        | none => exact hold
        | some plan =>
          unfold pricedPlan at hplan
          simp only [bind, Except.bind, pure, Except.pure] at hplan
          split_ifs at hplan
          · split at hplan
            · cases hplan
            · simp only [Except.ok.injEq] at hplan
              exact List.mem_map_of_mem (Rows.find?_mem hplan).1
          · cases hplan

theorem afterDelivery_of_ne (h : row.stripeSubscriptionId ≠ some stripeId) :
    afterDelivery driver db view stripeId row = row := if_neg h

/-- What the handler leaves pending, row by row; when it raises, no row would
    have changed. -/
theorem processEvent_rows (driver : Driver) (db : Database) (view : StripeView)
    (stripeId eventId : String) :
    (∃ exn, processEvent driver db (updatedEvent eventId (view.object stripeId)) = .error exn ∧
      ∀ row ∈ db.subscriptions, afterDelivery driver db view stripeId row = row) ∨
    ∃ pending, processEvent driver db (updatedEvent eventId (view.object stripeId)) = .ok pending ∧
      ∀ newId now, pending.applyTo newId now db.subscriptions =
        db.subscriptions.map (afterDelivery driver db view stripeId) := by
  rw [processEvent_updatedEvent (view.hasId stripeId)]
  by_cases hne : stripeId = ""
  · rw [if_pos hne]
    refine .inr ⟨_, rfl, fun newId now => ?_⟩
    have hsame : ∀ row ∈ db.subscriptions, row = afterDelivery driver db view stripeId row := by
      intro row _
      unfold afterDelivery
      split_ifs with hs
      · simp only [deliveredRow, hs, if_pos hne]
      · rfl
    exact (List.map_id _).symm.trans (List.map_congr_left hsame)
  · rw [if_neg hne]
    cases hlinked : getByStripeSubscriptionId db stripeId with
    | none =>
      refine .inr ⟨_, rfl, fun newId now => ?_⟩
      have hsame : ∀ row ∈ db.subscriptions, row = afterDelivery driver db view stripeId row :=
        fun row hrow => (afterDelivery_of_ne (Rows.find?_eq_none.mp hlinked row hrow)).symm
      exact (List.map_id _).symm.trans (List.map_congr_left hsame)
    | some loaded =>
      obtain ⟨hmem, hs⟩ := getByStripeSubscriptionId_eq_some_iff.mp hlinked
      -- the loaded row is the only one that is linked
      have honly : ∀ row ∈ db.subscriptions, row.stripeSubscriptionId = some stripeId →
          row = loaded := fun row hrow hrs =>
        Rows.eq_of_unique_filterMap db.constraints.subscriptions_stripe_id hrow hmem hrs hs
      cases hplan : pricedPlan driver db (view.object stripeId) with
      | error exn =>
        refine .inl ⟨exn, rfl, fun row hrow => ?_⟩
        unfold afterDelivery
        split_ifs with hrs
        · simp only [deliveredRow, hrs, if_neg hne, hplan]
        · rfl
      | ok plan =>
        refine .inr ⟨_, rfl, fun newId now => ?_⟩
        refine List.map_congr_left fun row hrow => ?_
        by_cases hrs : row.stripeSubscriptionId = some stripeId
        · obtain rfl := honly row hrow hrs
          rw [if_pos rfl, SubscriptionPatch.diff_apply_loaded, afterDelivery, if_pos hrs]
          simp only [deliveredRow, hrs, if_neg hne, hplan]
          rfl
        · have hid : row.id ≠ loaded.id := fun heq => hrs
            (by rw [Rows.eq_of_unique db.constraints.subscriptions_pkey hrow hmem heq, hs])
          rw [if_neg hid, afterDelivery_of_ne hrs]

/-- The rows are accepted. -/
theorem constraints_afterDelivery (driver : Driver) (db : Database) (view : StripeView)
    (stripeId : String) :
    Tables.Constraints { db.toTables with
      subscriptions := db.subscriptions.map (afterDelivery driver db view stripeId) } := by
  refine db.constraints.mapSubscriptions (fun row _ => ?_) fun row hrow => ?_
  · unfold afterDelivery
    split_ifs
    · exact deliveredRow_keeps row
    · exact ⟨rfl, rfl, rfl⟩
  · unfold afterDelivery
    split_ifs
    · exact deliveredRow_planId hrow
    · exact db.constraints.subscriptions_plan_fkey row hrow

/-- A new event that is processed is committed. -/
theorem deliver_of_processed (driver : Driver) (view : StripeView) (d : UpdateDelivery)
    (hevent : d.eventId ∉ db.webhookEvents.map WebhookEvent.eventId)
    (hmarker : d.ids.marker ∉ db.webhookEvents.map WebhookEvent.id) {pending : PendingWrite}
    (hok : processEvent driver db (d.toDelivery view).event = .ok pending)
    (hrows : pending.applyTo d.ids.subscription d.now db.subscriptions =
      db.subscriptions.map (afterDelivery driver db view d.stripeId)) :
    ∃ db', deliver driver db (d.toDelivery view) = (db', .ok ()) ∧
      db'.toTables = { db.toTables with
        webhookEvents := db.webhookEvents ++
          [newMarker (d.toDelivery view).event d.ids.marker d.now]
        subscriptions := db.subscriptions.map (afterDelivery driver db view d.stripeId) } := by
  rw [← hrows]
  refine deliver_of_processEvent hevent hmarker hok ?_
  have hcons := constraints_afterDelivery driver db view d.stripeId
  rw [← hrows] at hcons
  exact hcons

/-- **One delivery.** Whether it is processed, is about no row or raises, every
    row ends up as `afterDelivery` says, and only its marker may be new. -/
theorem deliver_updateDelivery (driver : Driver) (view : StripeView) (d : UpdateDelivery)
    (hevent : d.eventId ∉ db.webhookEvents.map WebhookEvent.eventId)
    (hmarker : d.ids.marker ∉ db.webhookEvents.map WebhookEvent.id) :
    ∃ markers, (markers = [] ∨ markers = [newMarker (d.toDelivery view).event d.ids.marker d.now]) ∧
      (deliver driver db (d.toDelivery view)).1.toTables = { db.toTables with
        webhookEvents := db.webhookEvents ++ markers
        subscriptions := db.subscriptions.map (afterDelivery driver db view d.stripeId) } := by
  rcases processEvent_rows driver db view d.stripeId d.eventId with
    ⟨exn, herr, hsame⟩ | ⟨pending, hok, hrows⟩
  · have hnone := WebhookEventRepository.getByEventId_eq_none_iff.mpr hevent
    have hmap : db.subscriptions.map (afterDelivery driver db view d.stripeId) = db.subscriptions :=
      (List.map_congr_left hsame).trans (List.map_id _)
    have hraised : handleWebhook driver db (updatedEvent d.eventId (view.object d.stripeId))
        d.ids d.now = (db, .error exn) := by
      rw [handleWebhook, show (updatedEvent d.eventId _).id = d.eventId from rfl, hnone]
      simp only [herr]
    refine ⟨[], .inl rfl, ?_⟩
    simp only [deliver, UpdateDelivery.toDelivery, hraised, hmap, List.append_nil]
  · obtain ⟨db', hdeliver, ht⟩ :=
      deliver_of_processed driver view d hevent hmarker hok (hrows _ _)
    exact ⟨_, .inr rfl, by rw [hdeliver]; exact ht⟩

/-- Only the plans of the database matter for a row. -/
theorem deliveredRow_congr {db' : Database} (h : db'.plans = db.plans) (row : Subscription) :
    deliveredRow driver db' view row = deliveredRow driver db view row := by
  simp only [deliveredRow, pricedPlan, PlanRepository.getByStripePriceId, h]

/-- **All deliveries**, at most one for each Stripe subscription and in any order. -/
theorem deliverAll_subscriptions (ds : List UpdateDelivery) : ∀ db : Database,
    (ds.map UpdateDelivery.stripeId).Nodup → NewEvents db ds →
    (deliverAll driver db (ds.map (UpdateDelivery.toDelivery view))).subscriptions =
      db.subscriptions.map fun row =>
        if row.stripeSubscriptionId ∈ ds.map fun d => some d.stripeId then
          deliveredRow driver db view row
        else row := by
  induction ds with
  | nil => intro db _ _; simp [deliverAll]
  | cons d ds ih =>
    intro db honce hnew
    rw [List.map_cons, List.nodup_cons] at honce
    obtain ⟨markers, hmarkers, ht⟩ := deliver_updateDelivery driver view d
      (hnew.eventIds_new d (by simp)) (hnew.markers_new d (by simp))
    have hevents := hnew.eventIds_nodup
    have hkeys := hnew.markers_nodup
    rw [List.map_cons, List.nodup_cons] at hevents hkeys
    generalize hdb' : (deliver driver db (d.toDelivery view)).1 = db' at ht
    have hnew' : NewEvents db' ds := by
      refine ⟨hevents.2, fun d' hd' => ?_, hkeys.2, fun d' hd' => ?_⟩
      · rw [ht, List.map_append, List.mem_append, not_or]
        refine ⟨hnew.eventIds_new d' (by simp [hd']), fun hmem => ?_⟩
        rcases hmarkers with rfl | rfl
        · cases hmem
        · rw [List.map_singleton, List.mem_singleton] at hmem
          exact hevents.1 (List.mem_map.mpr ⟨d', hd', hmem⟩)
      · rw [ht, List.map_append, List.mem_append, not_or]
        refine ⟨hnew.markers_new d' (by simp [hd']), fun hmem => ?_⟩
        rcases hmarkers with rfl | rfl
        · cases hmem
        · rw [List.map_singleton, List.mem_singleton] at hmem
          exact hkeys.1 (List.mem_map.mpr ⟨d', hd', hmem⟩)
    have hplans : db'.plans = db.plans := by rw [ht]
    rw [List.map_cons, deliverAll, hdb', ih db' honce.2 hnew', ht, List.map_map]
    refine List.map_congr_left fun row _ => ?_
    simp only [Function.comp_apply, deliveredRow_congr hplans]
    by_cases hs : row.stripeSubscriptionId = some d.stripeId
    · -- the row of this delivery is not touched by the later ones
      rw [afterDelivery, if_pos hs, if_neg, if_pos (by simp [hs])]
      rw [(deliveredRow_keeps row).2.2, hs]
      simpa using honce.1
    · rw [afterDelivery_of_ne hs]
      simp [hs]

/-! ## Agreement -/

variable (driver db view) in
/-- The two passes agree on a row: a plan that the price of its object names is
    its own, and if the event is not processed, the status is in sync already. -/
structure RowAgrees (row : Subscription) (stripeId : String) : Prop where
  plan : stripeId ≠ "" → ∀ plan,
    pricedPlan driver db (view.object stripeId) = .ok (some plan) → plan.id = row.planId
  status : (stripeId = "" ∨ ∃ exn, pricedPlan driver db (view.object stripeId) = .error exn) →
    row.status = view.status stripeId

theorem reconciledRow_eq_iff (h : row.stripeSubscriptionId = some stripeId) :
    reconciledRow view row = deliveredRow driver db view row ↔
      RowAgrees driver db view row stripeId := by
  have hsame : ∀ status planId, ({ row with status := status } : Subscription) =
      { row with status := status, planId := planId } ↔ planId = row.planId := by
    intro status planId
    constructor
    · intro heq; exact (congrArg Subscription.planId heq).symm
    · rintro rfl; rfl
  rw [reconciledRow_some h]
  by_cases hne : stripeId = ""
  · have hrow : deliveredRow driver db view row = row := by simp only [deliveredRow, h, if_pos hne]
    rw [hrow]
    constructor
    · intro heq
      exact ⟨fun h' => absurd hne h', fun _ => (congrArg Subscription.status heq).symm⟩
    · intro hagrees
      rw [← hagrees.status (.inl hne)]
  · cases hplan : pricedPlan driver db (view.object stripeId) with
    | error exn =>
      have hrow : deliveredRow driver db view row = row := by
        simp only [deliveredRow, h, if_neg hne, hplan]
      rw [hrow]
      constructor
      · intro heq
        refine ⟨fun _ plan hp => ?_, fun _ => (congrArg Subscription.status heq).symm⟩
        rw [hplan] at hp; cases hp
      · intro hagrees
        rw [← hagrees.status (.inr ⟨exn, hplan⟩)]
    | ok plan =>
      have hrow : deliveredRow driver db view row = { row with
          status := view.status stripeId, planId := (plan.map Plan.id).getD row.planId } := by
        simp only [deliveredRow, h, if_neg hne, hplan]
      rw [hrow, hsame]
      constructor
      · intro heq
        refine ⟨fun _ plan' hp => ?_, fun hfail => ?_⟩
        · rw [hplan] at hp
          cases hp
          exact heq
        · rcases hfail with hempty | ⟨exn, herr⟩
          · exact absurd hempty hne
          · rw [hplan] at herr; cases herr
      · intro hagrees
        cases plan with
        | none => rfl
        | some plan => exact hagrees.plan hne plan hplan

/-- **The job agrees with the webhooks iff no price names another plan.** -/
theorem agreement_iff {attempts : ℕ} (hattempts : 0 < attempts) (baseDelay : ℚ)
    {ds : List UpdateDelivery} (hnew : NewEvents db ds)
    (hcover : (ds.map UpdateDelivery.stripeId).Perm
      (db.subscriptions.filterMap Subscription.stripeSubscriptionId)) :
    (runOnce (some view.retrieve) attempts baseDelay db).1.subscriptions =
        (deliverAll driver db (ds.map (UpdateDelivery.toDelivery view))).subscriptions ↔
      ∀ row ∈ db.subscriptions, ∀ stripeId, row.stripeSubscriptionId = some stripeId →
        RowAgrees driver db view row stripeId := by
  have honce := hcover.nodup_iff.mpr db.constraints.subscriptions_stripe_id
  rw [runOnce_subscriptions hattempts, deliverAll_subscriptions ds db honce hnew,
    List.map_inj_left]
  refine forall₂_congr fun row hrow => ?_
  obtain hs | ⟨stripeId, hs⟩ := Option.eq_none_or_eq_some row.stripeSubscriptionId
  · simp [reconciledRow_none hs, hs]
  · have hmem : stripeId ∈ ds.map UpdateDelivery.stripeId :=
      hcover.mem_iff.mpr (List.mem_filterMap.mpr ⟨row, hrow, hs⟩)
    have hin : row.stripeSubscriptionId ∈ ds.map fun d => some d.stripeId := by
      obtain ⟨d, hd, rfl⟩ := List.mem_map.mp hmem
      exact List.mem_map.mpr ⟨d, hd, hs.symm⟩
    rw [if_pos hin, reconciledRow_eq_iff hs]
    constructor
    · intro hagrees stripeId' hs'
      rw [hs] at hs'
      cases hs'
      exact hagrees
    · intro hagrees; exact hagrees stripeId hs

/-! ## Two plans -/

/-- The sample database with a second plan. -/
def twoPlans : Database where
  tenants := Sample.db.tenants
  plans := [Sample.plan, { Sample.plan with
    id := ⟨4⟩, name := "Max", stripePriceId := some "price_max" }]
  subscriptions := Sample.db.subscriptions
  usageEvents := []
  invoices := []
  webhookEvents := []
  fits := by decide
  constraints := by decide

/-- Every subscription has the given status and price at Stripe. -/
def viewOf (status price : String) : StripeView where
  object stripeId := .obj [("id", .str stripeId), ("status", .str status),
    ("items", .obj [("data", .arr [.obj [("price", .obj [("id", .str price)])]])])]
  hasId _ := rfl

def oneDelivery : List UpdateDelivery :=
  [{ stripeId := "sub_1", eventId := "evt_1", ids := ⟨⟨100⟩, ⟨101⟩⟩, now := Sample.july }]

theorem newEvents_oneDelivery : NewEvents twoPlans oneDelivery where
  eventIds_nodup := by decide
  eventIds_new := by decide
  markers_nodup := by decide
  markers_new := by decide

/-- The price is that of the stored plan, and the payment has failed. -/
theorem agreement_iff_same_price :
    (runOnce (some (viewOf "past_due" "price_pro").retrieve) 3 1 twoPlans).1.subscriptions =
      (deliverAll .stringsOnly twoPlans (oneDelivery.map
        (UpdateDelivery.toDelivery (viewOf "past_due" "price_pro")))).subscriptions := by
  refine (agreement_iff (by decide) 1 newEvents_oneDelivery (by decide)).mpr ?_
  intro row hrow stripeId hs
  obtain rfl := List.mem_singleton.mp hrow
  cases hs
  refine ⟨fun _ plan hplan => ?_, fun hfail => ?_⟩
  · cases hplan
    rfl
  · rcases hfail with hempty | ⟨exn, herr⟩
    · exact absurd hempty (by decide)
    · cases herr

/-- The price has changed to that of another plan: the event moves the row to the
    plan, the job does not. -/
theorem plan_not_reconciled : NewEvents twoPlans oneDelivery ∧
    (oneDelivery.map UpdateDelivery.stripeId).Perm
      (twoPlans.subscriptions.filterMap Subscription.stripeSubscriptionId) ∧
    (runOnce (some (viewOf "active" "price_max").retrieve) 3 1 twoPlans).1.subscriptions ≠
      (deliverAll .stringsOnly twoPlans (oneDelivery.map
        (UpdateDelivery.toDelivery (viewOf "active" "price_max")))).subscriptions :=
  ⟨newEvents_oneDelivery, by decide, by decide⟩

end Agreement

end BillingEngine
