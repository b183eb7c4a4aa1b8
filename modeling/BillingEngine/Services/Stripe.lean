import BillingEngine.Model.Repositories

/-!
# `StripeService.handle_webhook` (`app/services/stripe_service.py`, lines 89–189)

A verified Stripe event is its `id`, its `type` and its `data`, a decoded JSON
value of any shape that reads as a dictionary, as in the tests of the service; the
objects of the Stripe SDK, of which some versions have no `.get`, are taken to read
alike. No text of Stripe has a NUL. The session does not flush before a query
(`autoflush=False`), so the marker row and the subscription changes of a call
reach the database together, in its commit; an attribute that was assigned the
value it already had is not part of the `UPDATE`. `PendingWrite` is what the
session would write.

`StripeService.handleWebhook` is the method run without interruption;
`webhookStep` is the method cut at its database steps: marker lookup, the query
of the handler, the plan lookup of an update, commit, rollback.

Results:
* `StripeService.handleWebhook_cases`: the three outcomes of a call, and
  `StripeService.handleWebhook_effect`, its effect on the database.
* `webhookSteps_eq_handleWebhook`: the uninterrupted steps are the method.
* `webhookStep_effect`: one step changes the database only by committing, and
  then it stores the marker and the pending write together.
* `PendingWrite.map_id_grows`: a webhook never removes a subscription and never
  changes the primary key of one.
-/

namespace BillingEngine

/-- A verified event, as `construct_event` returns it in `tests/test_stripe_service.py`:
    a dictionary, all the way down. -/
structure StripeEvent where
  id : String
  type : String
  data : Json

/-! ## What a session is about to write -/

/-- The columns of an `UPDATE subscriptions … WHERE id = …`; `none` is a column
    that is not written. -/
structure SubscriptionPatch where
  planId : Option Uuid
  status : Option SubscriptionStatus
  stripeCustomerId : Option String
  stripeSubscriptionId : Option String
deriving DecidableEq

namespace SubscriptionPatch

/-- The columns in which the object differs from the row it was loaded from. -/
def diff (loaded object : Subscription) : SubscriptionPatch where
  planId := if object.planId = loaded.planId then none else some object.planId
  status := if object.status = loaded.status then none else some object.status
  stripeCustomerId :=
    if object.stripeCustomerId = loaded.stripeCustomerId then none else object.stripeCustomerId
  stripeSubscriptionId :=
    if object.stripeSubscriptionId = loaded.stripeSubscriptionId then none
    else object.stripeSubscriptionId

/-- The row after the update. -/
def apply (patch : SubscriptionPatch) (row : Subscription) : Subscription :=
  { row with
    planId := patch.planId.getD row.planId
    status := patch.status.getD row.status
    stripeCustomerId := patch.stripeCustomerId.or row.stripeCustomerId
    stripeSubscriptionId := patch.stripeSubscriptionId.or row.stripeSubscriptionId }

@[simp] theorem apply_id (patch : SubscriptionPatch) (row : Subscription) :
    (patch.apply row).id = row.id := rfl

@[simp] theorem apply_tenantId (patch : SubscriptionPatch) (row : Subscription) :
    (patch.apply row).tenantId = row.tenantId := rfl

@[simp] theorem apply_status (patch : SubscriptionPatch) (row : Subscription) :
    (patch.apply row).status = patch.status.getD row.status := rfl

@[simp] theorem apply_planId (patch : SubscriptionPatch) (row : Subscription) :
    (patch.apply row).planId = patch.planId.getD row.planId := rfl

/-- The object comes from the row by assignments of the handlers: the keys are
    kept, and a Stripe id is never taken away. -/
structure Over (loaded object : Subscription) : Prop where
  id : object.id = loaded.id
  tenantId : object.tenantId = loaded.tenantId
  startedAt : object.startedAt = loaded.startedAt
  stripeCustomerId : object.stripeCustomerId = none → loaded.stripeCustomerId = none
  stripeSubscriptionId : object.stripeSubscriptionId = none → loaded.stripeSubscriptionId = none

/-- The status and the plan may be assigned anything. -/
theorem over_status_planId (loaded : Subscription) (status : SubscriptionStatus) (planId : Uuid) :
    Over loaded { loaded with status := status, planId := planId } :=
  ⟨rfl, rfl, rfl, id, id⟩

/-- A changed column that is not taken away is written. -/
theorem ite_none_or {α : Type*} [DecidableEq α] {old new : Option α}
    (h : new = none → old = none) : (if new = old then none else new).or old = new := by
  split_ifs with heq
  · rw [Option.none_or, heq]
  · cases new with
    | none => exact absurd (h rfl).symm heq
    | some v => rfl

/-- Writing the changed columns over the loaded row gives the object. -/
theorem diff_apply {loaded object : Subscription} (h : Over loaded object) :
    (diff loaded object).apply loaded = object := by
  have hplan : (if object.planId = loaded.planId then none else some object.planId).getD
      loaded.planId = object.planId := by
    split_ifs with heq <;> simp [heq]
  have hstatus : (if object.status = loaded.status then none else some object.status).getD
      loaded.status = object.status := by
    split_ifs with heq <;> simp [heq]
  have hcustomer := ite_none_or h.stripeCustomerId
  have hsub := ite_none_or h.stripeSubscriptionId
  cases object
  simp only [diff, apply, hplan, hstatus, hcustomer, hsub, Subscription.mk.injEq, true_and]
  exact ⟨h.id.symm, h.tenantId.symm, h.startedAt.symm⟩

theorem diff_apply_loaded (loaded : Subscription) (status : SubscriptionStatus) (planId : Uuid) :
    (diff loaded { loaded with status := status, planId := planId }).apply loaded =
      { loaded with status := status, planId := planId } :=
  diff_apply (over_status_planId loaded status planId)

end SubscriptionPatch

/-- The subscription part of a webhook transaction. The primary key and the
    start time of a new row are filled in by the flush. -/
inductive PendingWrite where
  | none
  | insert (tenantId planId : Uuid) (status : SubscriptionStatus)
      (stripeCustomerId stripeSubscriptionId : Option String)
  | update (id : Uuid) (patch : SubscriptionPatch)
deriving DecidableEq

namespace PendingWrite

/-- The subscriptions after the flush. -/
def applyTo (pending : PendingWrite) (newId : Uuid) (now : DateTime)
    (subscriptions : List Subscription) : List Subscription :=
  match pending with
  | none => subscriptions
  | insert tenantId planId status stripeCustomerId stripeSubscriptionId =>
    subscriptions ++ [{ id := newId, tenantId, planId, status, stripeCustomerId,
                        stripeSubscriptionId, startedAt := now }]
  | update id patch => subscriptions.map fun s => if s.id = id then patch.apply s else s

/-- Rows are neither removed nor renumbered. -/
theorem map_id_grows (pending : PendingWrite) (newId : Uuid) (now : DateTime)
    (subscriptions : List Subscription) :
    subscriptions.map Subscription.id <+:
      (pending.applyTo newId now subscriptions).map Subscription.id := by
  cases pending with
  | none => exact List.prefix_rfl
  | insert => simp [applyTo]
  | update id patch =>
    have h : ∀ s : Subscription, (if s.id = id then patch.apply s else s).id = s.id := by
      intro s; split_ifs <;> rfl
    rw [applyTo, Rows.map_map_of_eq h]

/-- Writing what changed in an object replaces the row that it was loaded from. -/
theorem applyTo_update {loaded object : Subscription} {subscriptions : List Subscription}
    (hu : (subscriptions.map Subscription.id).Nodup) (hmem : loaded ∈ subscriptions)
    (h : SubscriptionPatch.Over loaded object) (newId : Uuid) (now : DateTime) :
    (update loaded.id (.diff loaded object)).applyTo newId now subscriptions =
      Rows.replace Subscription.id object subscriptions := by
  refine List.map_congr_left fun s hs => ?_
  rw [h.id]
  split_ifs with hid
  · rw [Rows.eq_of_unique hu hs hmem hid, SubscriptionPatch.diff_apply h]
  · rfl

end PendingWrite

/-! ## The handlers -/

namespace StripeService

open SubscriptionRepository

/-- `UUID(value)` for a decoded value. -/
def toUuid : Json → Except Exn Uuid
  | .str s => Uuid.parse s
  | .null => .error .typeError
  | _ => .error .attributeError

/-- `obj.get(key)`, when it is truthy, as the text of a column. -/
def optionalText (driver : Driver) (obj : Json) (key : String) : Except Exn (Option String) := do
  let v ← obj.get key
  if v.truthy then return some (← driver.bindText v) else return none

/-- What a checkout session says. -/
structure CheckoutFields where
  tenantId : Uuid
  planId : Uuid
  customer : Option String
  subscription : Option String
deriving DecidableEq

/-- The reads of `_sync_from_checkout` (lines 136–138 and 151–154). -/
def checkoutFields (driver : Driver) (sessionObj : Json) : Except Exn CheckoutFields := do
  let metadata ← sessionObj.get "metadata"
  let metadata := if metadata.truthy then metadata else .obj []
  let tenantId ← toUuid (← metadata.getItem "tenant_id")
  let planId ← toUuid (← metadata.getItem "plan_id")
  let customer ← optionalText driver sessionObj "customer"
  let subscription ← optionalText driver sessionObj "subscription"
  return { tenantId, planId, customer, subscription }

namespace CheckoutFields

variable (fields : CheckoutFields)

/-- The row of a tenant who has one, after the checkout (lines 149–154). -/
def onto (loaded : Subscription) : Subscription :=
  { loaded with
    planId := fields.planId
    status := .active
    stripeCustomerId := fields.customer.or loaded.stripeCustomerId
    stripeSubscriptionId := fields.subscription.or loaded.stripeSubscriptionId }

/-- The row of a tenant who had none. -/
def newRow (id : Uuid) (now : DateTime) : Subscription where
  id := id
  tenantId := fields.tenantId
  planId := fields.planId
  status := .active
  stripeCustomerId := fields.customer
  stripeSubscriptionId := fields.subscription
  startedAt := now

/-- The write for the row of the tenant, if there is one. -/
def write : Option Subscription → PendingWrite
  | none => .insert fields.tenantId fields.planId .active fields.customer fields.subscription
  | some loaded => .update loaded.id (.diff loaded (fields.onto loaded))

theorem onto_over (loaded : Subscription) : SubscriptionPatch.Over loaded (fields.onto loaded) :=
  ⟨rfl, rfl, rfl, fun h => (Option.or_eq_none_iff.mp h).2, fun h => (Option.or_eq_none_iff.mp h).2⟩

end CheckoutFields

/-- `_sync_from_checkout` (lines 135–154): the session is read first, and the row of the
    tenant last. -/
def syncFromCheckout (driver : Driver) (db : Database) (sessionObj : Json) :
    Except Exn PendingWrite := do
  let fields ← checkoutFields driver sessionObj
  return fields.write (getByTenant db fields.tenantId)

theorem syncFromCheckout_eq (driver : Driver) (db : Database) (sessionObj : Json) :
    syncFromCheckout driver db sessionObj =
      (fun f => f.write (getByTenant db f.tenantId)) <$> checkoutFields driver sessionObj :=
  (map_eq_pure_bind _ _).symm

/-- `sub_obj.get("id")` and the row it names; nothing when the id is missing or
    empty, or when no row is linked to it (lines 157–163 and 174–180). -/
def linkedSubscription (driver : Driver) (db : Database) (subObj : Json) :
    Except Exn (Option Subscription) := do
  let stripeSubId ← subObj.get "id"
  if stripeSubId.truthy then
    return getByStripeSubscriptionId db (← driver.bindText stripeSubId)
  else return none

/-- `_price_id_from_items` (lines 185–189): every error of the subscripts is one
    of the three that are caught. -/
def priceIdFromItems (subObj : Json) : Json :=
  let price : Except Exn Json := do
    let items ← subObj.getItem "items"
    let data ← items.getItem "data"
    let first ← data.getFirst
    let price ← first.getItem "price"
    price.getItem "id"
  match price with
  | .ok id => id
  | .error _ => .null

/-- The update of lines 165–171, given the outcome of the plan lookup. -/
def statusUpdate (loaded : Subscription) (status : SubscriptionStatus) (plan : Option Plan) :
    PendingWrite :=
  .update loaded.id (.diff loaded
    { loaded with status := status, planId := (plan.map Plan.id).getD loaded.planId })

/-- `_sync_subscription_status` (lines 156–171). -/
def syncSubscriptionStatus (driver : Driver) (db : Database) (subObj : Json) :
    Except Exn PendingWrite := do
  match ← linkedSubscription driver db subObj with
  | none => return .none
  | some loaded =>
    let status := fromStripeStatus (← subObj.get "status")
    let priceId := priceIdFromItems subObj
    if priceId.truthy then
      let plan := PlanRepository.getByStripePriceId db (← driver.bindText priceId)
      return statusUpdate loaded status plan
    else return statusUpdate loaded status none

/-- `_cancel_subscription` (lines 173–182). -/
def cancelSubscription (driver : Driver) (db : Database) (subObj : Json) :
    Except Exn PendingWrite := do
  match ← linkedSubscription driver db subObj with
  | none => return .none
  | some loaded => return .update loaded.id (.diff loaded { loaded with status := .cancelled })

/-- `_process_event` (lines 124–133). -/
def processEvent (driver : Driver) (db : Database) (event : StripeEvent) :
    Except Exn PendingWrite := do
  let data ← event.data.getItem "object"
  if event.type = "checkout.session.completed" then syncFromCheckout driver db data
  else if event.type = "customer.subscription.updated" then syncSubscriptionStatus driver db data
  else if event.type = "customer.subscription.deleted" then cancelSubscription driver db data
  else return .none

/-- The keys that a webhook transaction draws: for the marker, and for a new
    subscription. -/
structure NewIds where
  marker : Uuid
  subscription : Uuid
deriving DecidableEq

/-- The marker row of line 111. -/
def newMarker (event : StripeEvent) (id : Uuid) (now : DateTime) : WebhookEvent where
  id := id
  eventId := event.id
  eventType := event.type
  createdAt := now

/-- `self._db.commit()` of line 115: the marker and the pending write in one
    transaction. -/
def commitWebhook (db : Database) (event : StripeEvent) (pending : PendingWrite) (ids : NewIds)
    (now : DateTime) : Except Exn Database :=
  commit { db.toTables with
    webhookEvents := db.webhookEvents ++ [newMarker event ids.marker now]
    subscriptions := pending.applyTo ids.subscription now db.subscriptions }

/-- `handle_webhook` on a verified event (lines 108–122). -/
def handleWebhook (driver : Driver) (db : Database) (event : StripeEvent) (ids : NewIds)
    (now : DateTime) : Database × Except Exn Unit :=
  match WebhookEventRepository.getByEventId db event.id with
  | some _ => (db, .ok ())
  | none =>
    match processEvent driver db event with
    | .error exn => (db, .error exn)
    | .ok pending =>
      match commitWebhook db event pending ids now with
      | .error exn => (db, .error exn)
      | .ok db' => (db', .ok ())

/-! ### A `customer.subscription.updated` event -/

/-- The event that carries the subscription object `obj`. -/
def updatedEvent (eventId : String) (obj : Json) : StripeEvent where
  id := eventId
  type := "customer.subscription.updated"
  data := .obj [("object", obj)]

/-- The plan that the price of an object names, if any. -/
def pricedPlan (driver : Driver) (db : Database) (subObj : Json) : Except Exn (Option Plan) := do
  let priceId := priceIdFromItems subObj
  if priceId.truthy then
    return PlanRepository.getByStripePriceId db (← driver.bindText priceId)
  else return none

/-- `obj` is an object whose `id` is `stripeId`. -/
def HasId (obj : Json) (stripeId : String) : Prop := obj.getItem "id" = .ok (.str stripeId)

section Updated

variable {driver : Driver} {db : Database} {obj : Json} {stripeId eventId : String}

theorem HasId.get (h : HasId obj stripeId) : obj.get "id" = .ok (.str stripeId) := by
  unfold HasId Json.getItem at h
  split at h
  · split at h
    · cases h; simp [Json.get, *]
    · cases h
  · cases h

theorem HasId.get_status (h : HasId obj stripeId) :
    obj.get "status" = .ok (obj.getAttr "status") := by
  unfold HasId Json.getItem at h
  split at h
  · rfl
  · cases h

/-- The row that an object with an id is about. -/
theorem linkedSubscription_of_hasId (driver : Driver) (db : Database) (h : HasId obj stripeId) :
    linkedSubscription driver db obj =
      .ok (if stripeId = "" then none else getByStripeSubscriptionId db stripeId) := by
  by_cases hne : stripeId = ""
  · simp [linkedSubscription, h.get, Json.truthy, hne, bind, Except.bind, pure, Except.pure]
  · simp [linkedSubscription, h.get, Json.truthy, hne, driver.bindText_str, bind, Except.bind, pure,
      Except.pure]

/-- What an updated event leaves pending. -/
theorem processEvent_updatedEvent (h : HasId obj stripeId) :
    processEvent driver db (updatedEvent eventId obj) =
      match if stripeId = "" then none else getByStripeSubscriptionId db stripeId with
      | none => .ok .none
      | some loaded => (pricedPlan driver db obj).map
          (statusUpdate loaded (fromStripeStatus (obj.getAttr "status"))) := by
  have hprocess : processEvent driver db (updatedEvent eventId obj) =
      syncSubscriptionStatus driver db obj := by
    simp [processEvent, updatedEvent, Json.getItem, List.lookup, bind, Except.bind]
  rw [hprocess, syncSubscriptionStatus, linkedSubscription_of_hasId driver db h]
  cases if stripeId = "" then none else getByStripeSubscriptionId db stripeId with
  | none => rfl
  | some loaded =>
    simp only [bind, Except.bind, pure, Except.pure, h.get_status, pricedPlan]
    split_ifs
    · cases driver.bindText (priceIdFromItems obj) <;> rfl
    · rfl

end Updated

/-! ### What the handlers leave pending -/

section Pending

variable {driver : Driver} {db : Database} {obj : Json} {event : StripeEvent}
  {pending : PendingWrite}

theorem syncFromCheckout_ok : syncFromCheckout driver db obj = .ok pending ↔
    ∃ f, checkoutFields driver obj = .ok f ∧ f.write (getByTenant db f.tenantId) = pending := by
  rw [syncFromCheckout_eq, map_eq_ok]

theorem syncSubscriptionStatus_ok (h : syncSubscriptionStatus driver db obj = .ok pending) :
    (linkedSubscription driver db obj = .ok none ∧ pending = .none) ∨
      ∃ loaded plan, linkedSubscription driver db obj = .ok (some loaded) ∧
        pricedPlan driver db obj = .ok plan ∧
        pending = statusUpdate loaded (fromStripeStatus (obj.getAttr "status")) plan := by
  unfold syncSubscriptionStatus at h
  obtain ⟨linked, hlinked, h⟩ := bind_eq_ok.mp h
  cases linked with
  | none => cases h; exact .inl ⟨hlinked, rfl⟩
  | some loaded =>
    obtain ⟨status, hstatus, h⟩ := bind_eq_ok.mp h
    rw [← Json.getAttr_of_get hstatus] at h
    right
    dsimp only at h
    split_ifs at h with hprice
    · obtain ⟨priceId, hpriceId, h⟩ := bind_eq_ok.mp h
      cases h
      exact ⟨loaded, _, hlinked, by rw [pricedPlan, if_pos hprice, hpriceId]; rfl, rfl⟩
    · cases h
      exact ⟨loaded, _, hlinked, by rw [pricedPlan, if_neg hprice]; rfl, rfl⟩

theorem cancelSubscription_ok (h : cancelSubscription driver db obj = .ok pending) :
    (linkedSubscription driver db obj = .ok none ∧ pending = .none) ∨
      ∃ loaded, linkedSubscription driver db obj = .ok (some loaded) ∧
        pending = .update loaded.id (.diff loaded { loaded with status := .cancelled }) := by
  unfold cancelSubscription at h
  obtain ⟨linked, hlinked, h⟩ := bind_eq_ok.mp h
  cases linked with
  | none => cases h; exact .inl ⟨hlinked, rfl⟩
  | some loaded => cases h; exact .inr ⟨loaded, hlinked, rfl⟩

/-- Only a row of the table is loaded. -/
theorem linkedSubscription_mem {loaded : Subscription}
    (h : linkedSubscription driver db obj = .ok (some loaded)) : loaded ∈ db.subscriptions := by
  unfold linkedSubscription at h
  obtain ⟨stripeSubId, -, h⟩ := bind_eq_ok.mp h
  split_ifs at h
  · obtain ⟨text, -, h⟩ := bind_eq_ok.mp h
    exact (Rows.find?_mem (Except.ok.inj h)).1
  · cases h

end Pending

/-- **The three outcomes of a call.** The event is a repetition; the call raises; or
    the marker is stored together with what `_process_event` left pending. -/
theorem handleWebhook_cases (driver : Driver) (db : Database) (event : StripeEvent) (ids : NewIds)
    (now : DateTime) :
    ((∃ marker, WebhookEventRepository.getByEventId db event.id = some marker) ∧
      handleWebhook driver db event ids now = (db, .ok ())) ∨
    (∃ exn, WebhookEventRepository.getByEventId db event.id = none ∧
      handleWebhook driver db event ids now = (db, .error exn)) ∨
    ∃ pending db', WebhookEventRepository.getByEventId db event.id = none ∧
      processEvent driver db event = .ok pending ∧
      handleWebhook driver db event ids now = (db', .ok ()) ∧
      db'.toTables = { db.toTables with
        webhookEvents := db.webhookEvents ++ [newMarker event ids.marker now]
        subscriptions := pending.applyTo ids.subscription now db.subscriptions } := by
  unfold handleWebhook
  cases hm : WebhookEventRepository.getByEventId db event.id with
  | some marker => exact .inl ⟨⟨marker, rfl⟩, rfl⟩
  | none =>
    right
    cases hp : processEvent driver db event with
    | error exn => exact .inl ⟨exn, rfl, rfl⟩
    | ok pending =>
      cases hc : commitWebhook db event pending ids now with
      | error exn => exact .inl ⟨exn, rfl, by simp only [hc]⟩
      | ok db' => exact .inr ⟨pending, db', rfl, rfl, by simp only [hc], commit_eq_ok.mp hc⟩

/-- **Effect of one call.** Nothing, or the marker is stored together with what
    `_process_event` left pending. -/
theorem handleWebhook_effect (driver : Driver) (db : Database) (event : StripeEvent) (ids : NewIds)
    (now : DateTime) :
    (handleWebhook driver db event ids now).1 = db ∨
      ∃ pending, processEvent driver db event = .ok pending ∧
        (handleWebhook driver db event ids now).1.toTables = { db.toTables with
          webhookEvents := db.webhookEvents ++ [newMarker event ids.marker now]
          subscriptions := pending.applyTo ids.subscription now db.subscriptions } := by
  rcases handleWebhook_cases driver db event ids now with
    ⟨-, h⟩ | ⟨exn, -, h⟩ | ⟨pending, db', -, hp, h, ht⟩
  · exact .inl (by rw [h])
  · exact .inl (by rw [h])
  · exact .inr ⟨pending, hp, by rw [h]; exact ht⟩

end StripeService

/-! ## The database steps -/

/-- Where a call of `handle_webhook` is. -/
inductive WebhookPc where
  | lookupMarker
  | process
  | readPlan (loaded : Subscription) (status : SubscriptionStatus) (priceId : String)
  | commit (pending : PendingWrite)
  | rollback (exn : Exn)
  | done (result : Except Exn Unit)
deriving DecidableEq

open StripeService in
/-- `_sync_subscription_status` up to the end of its first query. -/
def statusStep (driver : Driver) (db : Database) (subObj : Json) : Except Exn WebhookPc := do
  match ← linkedSubscription driver db subObj with
  | none => return .commit .none
  | some loaded =>
    let status := fromStripeStatus (← subObj.get "status")
    let priceId := priceIdFromItems subObj
    if priceId.truthy then return .readPlan loaded status (← driver.bindText priceId)
    else return .commit (statusUpdate loaded status none)

open StripeService in
/-- `_process_event` up to the end of its first query: what is left to do. -/
def processStep (driver : Driver) (db : Database) (event : StripeEvent) : Except Exn WebhookPc := do
  let data ← event.data.getItem "object"
  if event.type = "checkout.session.completed" then
    return .commit (← syncFromCheckout driver db data)
  else if event.type = "customer.subscription.updated" then statusStep driver db data
  else if event.type = "customer.subscription.deleted" then
    return .commit (← cancelSubscription driver db data)
  else return .commit .none

/-- The write that is pending once the plan lookup, if one is left, has run. -/
def afterPlanLookup (db : Database) : WebhookPc → Except Exn PendingWrite
  | .readPlan loaded status priceId =>
    .ok (StripeService.statusUpdate loaded status (PlanRepository.getByStripePriceId db priceId))
  | .commit pending => .ok pending
  | _ => .ok .none

open StripeService in
/-- One database step of `handle_webhook`, up to the next one. -/
def webhookStep (driver : Driver) (event : StripeEvent) (ids : NewIds) (now : DateTime)
    (db : Database) : WebhookPc → Option (Database × WebhookPc)
  | .lookupMarker =>
    match WebhookEventRepository.getByEventId db event.id with
    | some _ => some (db, .done (.ok ()))
    | none => some (db, .process)
  | .process =>
    match processStep driver db event with
    | .ok pc => some (db, pc)
    | .error exn => some (db, .rollback exn)
  | .readPlan loaded status priceId =>
    some (db, .commit (statusUpdate loaded status (PlanRepository.getByStripePriceId db priceId)))
  | .commit pending =>
    match commitWebhook db event pending ids now with
    | .ok db' => some (db', .done (.ok ()))
    | .error exn => some (db, .rollback exn)
  | .rollback exn => some (db, .done (.error exn))
  | .done _ => none

/-- The steps of one call on an otherwise idle database. -/
def webhookSteps (driver : Driver) (event : StripeEvent) (ids : StripeService.NewIds)
    (now : DateTime) : ℕ → Database × WebhookPc → Database × WebhookPc
  | 0, c => c
  | fuel + 1, (db, pc) =>
    match webhookStep driver event ids now db pc with
    | some c => webhookSteps driver event ids now fuel c
    | none => (db, pc)

section Steps

variable {driver : Driver} {event : StripeEvent} {ids : StripeService.NewIds} {now : DateTime}
  {n : ℕ} {db db' : Database} {pc pc' : WebhookPc}

/-- Its first query and the plan lookup, if there is one, are
    `_sync_subscription_status`. -/
theorem syncSubscriptionStatus_eq (subObj : Json) :
    StripeService.syncSubscriptionStatus driver db subObj =
      (statusStep driver db subObj).bind (afterPlanLookup db) := by
  unfold StripeService.syncSubscriptionStatus statusStep
  cases StripeService.linkedSubscription driver db subObj with
  | error exn => rfl
  | ok linked =>
    cases linked with
    | none => rfl
    | some loaded =>
      simp only [bind, Except.bind, pure, Except.pure]
      cases subObj.get "status" with
      | error exn => rfl
      | ok status =>
        dsimp only
        split_ifs
        · cases driver.bindText (StripeService.priceIdFromItems subObj) <;> rfl
        · rfl

/-- The first query and, if there is one, the second are `_process_event`. -/
theorem processEvent_eq_processStep : StripeService.processEvent driver db event =
    (processStep driver db event).bind (afterPlanLookup db) := by
  unfold StripeService.processEvent processStep
  cases event.data.getItem "object" with
  | error exn => rfl
  | ok data =>
    simp only [bind, Except.bind, pure, Except.pure, syncSubscriptionStatus_eq]
    split_ifs
    · cases StripeService.syncFromCheckout driver db data <;> rfl
    · rfl
    · cases StripeService.cancelSubscription driver db data <;> rfl
    · rfl

/-- What `_sync_subscription_status` leaves to do after its first query: nothing
    without a row, else the plan lookup or the commit. -/
theorem statusStep_ok {subObj : Json} (h : statusStep driver db subObj = .ok pc) :
    (StripeService.linkedSubscription driver db subObj = .ok none ∧ pc = .commit .none) ∨
      ∃ loaded, StripeService.linkedSubscription driver db subObj = .ok (some loaded) ∧
        ((∃ priceId, pc = .readPlan loaded (fromStripeStatus (subObj.getAttr "status")) priceId) ∨
          pc = .commit (StripeService.statusUpdate loaded
            (fromStripeStatus (subObj.getAttr "status")) none)) := by
  unfold statusStep at h
  obtain ⟨linked, hlinked, h⟩ := bind_eq_ok.mp h
  cases linked with
  | none => cases h; exact .inl ⟨hlinked, rfl⟩
  | some loaded =>
    obtain ⟨status, hstatus, h⟩ := bind_eq_ok.mp h
    rw [← Json.getAttr_of_get hstatus] at h
    refine .inr ⟨loaded, hlinked, ?_⟩
    dsimp only at h
    split_ifs at h
    · obtain ⟨priceId, -, h⟩ := bind_eq_ok.mp h
      cases h
      exact .inl ⟨priceId, rfl⟩
    · cases h
      exact .inr rfl

/-- What `_process_event` leaves to do is a plan lookup or the commit. -/
theorem processStep_ok (h : processStep driver db event = .ok pc) :
    (∃ loaded status priceId, pc = .readPlan loaded status priceId) ∨
      ∃ pending, pc = .commit pending := by
  unfold processStep at h
  obtain ⟨data, -, h⟩ := bind_eq_ok.mp h
  split_ifs at h
  · obtain ⟨pending, -, h⟩ := bind_eq_ok.mp h
    cases h
    exact .inr ⟨pending, rfl⟩
  · rcases statusStep_ok h with ⟨-, rfl⟩ | ⟨loaded, -, ⟨priceId, rfl⟩ | rfl⟩
    · exact .inr ⟨_, rfl⟩
    · exact .inl ⟨loaded, _, priceId, rfl⟩
    · exact .inr ⟨_, rfl⟩
  · obtain ⟨pending, -, h⟩ := bind_eq_ok.mp h
    cases h
    exact .inr ⟨pending, rfl⟩
  · cases h
    exact .inr ⟨_, rfl⟩

theorem webhookSteps_done (result : Except Exn Unit) :
    webhookSteps driver event ids now n (db, .done result) = (db, .done result) := by
  cases n <;> simp [webhookSteps, webhookStep]

theorem webhookSteps_step {c : Database × WebhookPc}
    (h : webhookStep driver event ids now db pc = some c) :
    webhookSteps driver event ids now (n + 1) (db, pc) = webhookSteps driver event ids now n c := by
  simp [webhookSteps, h]

theorem webhookSteps_commit (pending : PendingWrite) :
    webhookSteps driver event ids now (n + 2) (db, .commit pending) =
      match StripeService.commitWebhook db event pending ids now with
      | .error exn => (db, .done (.error exn))
      | .ok db' => (db', .done (.ok ())) := by
  cases hc : StripeService.commitWebhook db event pending ids now <;>
    simp [webhookSteps, webhookStep, hc, webhookSteps_done]

/-- **The steps are the method.** Five steps always suffice. -/
theorem webhookSteps_eq_handleWebhook :
    webhookSteps driver event ids now 5 (db, .lookupMarker) =
      let r := StripeService.handleWebhook driver db event ids now
      (r.1, .done r.2) := by
  unfold StripeService.handleWebhook
  cases hm : WebhookEventRepository.getByEventId db event.id with
  | some marker =>
    rw [webhookSteps_step (by simp only [webhookStep, hm]; rfl), webhookSteps_done]
  | none =>
    rw [webhookSteps_step (by simp only [webhookStep, hm]; rfl)]
    simp only [processEvent_eq_processStep]
    cases hp : processStep driver db event with
    | error exn =>
      rw [webhookSteps_step (by simp only [webhookStep, hp]; rfl),
        webhookSteps_step (by simp only [webhookStep]; rfl), webhookSteps_done]
      rfl
    | ok pc =>
      rw [webhookSteps_step (by simp only [webhookStep, hp]; rfl)]
      rcases processStep_ok hp with ⟨loaded, status, priceId, rfl⟩ | ⟨pending, rfl⟩
      · rw [webhookSteps_step (by simp only [webhookStep]; rfl), webhookSteps_commit]
        simp only [Except.bind, afterPlanLookup]
        split <;> rfl
      · rw [webhookSteps_commit]
        simp only [Except.bind, afterPlanLookup]
        split <;> rfl

/-! ## What one step does -/

/-- **Effect of one step on the database.** Nothing, unless it is a commit that
    succeeds: then the marker is stored together with the pending write, and the
    call has ended without an exception. -/
theorem webhookStep_effect (h : webhookStep driver event ids now db pc = some (db', pc')) :
    (db' = db ∧ ∀ pending, pc = .commit pending → pc' ≠ .done (.ok ())) ∨
      ∃ pending, pc = .commit pending ∧ pc' = .done (.ok ()) ∧
        db'.toTables = { db.toTables with
          webhookEvents := db.webhookEvents ++ [StripeService.newMarker event ids.marker now]
          subscriptions := pending.applyTo ids.subscription now db.subscriptions } := by
  cases pc with
  | lookupMarker => simp only [webhookStep] at h; split at h <;> cases h <;> simp
  | process => simp only [webhookStep] at h; split at h <;> cases h <;> simp
  | readPlan loaded status priceId => simp only [webhookStep] at h; cases h; simp
  | commit pending =>
    simp only [webhookStep] at h
    split at h
    · rename_i db₁ hc
      cases h
      exact .inr ⟨pending, rfl, rfl, commit_eq_ok.mp hc⟩
    · cases h; simp
  | rollback exn => simp only [webhookStep] at h; cases h; simp
  | done result => simp [webhookStep] at h

/-- No step touches another table, removes a marker or removes a subscription. -/
theorem webhookStep_other (h : webhookStep driver event ids now db pc = some (db', pc')) :
    db'.toTables = { db.toTables with
        webhookEvents := db'.webhookEvents, subscriptions := db'.subscriptions } ∧
      db.webhookEvents <+: db'.webhookEvents ∧
      db.subscriptions.map Subscription.id <+: db'.subscriptions.map Subscription.id := by
  rcases webhookStep_effect h with ⟨rfl, -⟩ | ⟨pending, -, -, ht⟩
  · exact ⟨rfl, List.prefix_rfl, List.prefix_rfl⟩
  · rw [ht]
    exact ⟨rfl, List.prefix_append _ _, pending.map_id_grows _ _ _⟩

end Steps

end BillingEngine
