import BillingEngine.Reconcile.Agreement
import BillingEngine.Services.Checkout
import BillingEngine.System.Serial
import BillingEngine.Webhooks.Deliveries

/-!
# A plan to its price and back

The checkout event names the plan by its key, every later update event of the
Stripe subscription by its price. `get_by_stripe_price_id` takes the first plan
with that price, and nothing keeps two plans from having the same one. So the
tenant stays on the plan that was paid for exactly if it is the first plan with its
price.

Results:
* `onPlan_of_checkout`: the checkout puts the tenant on the plan.
* `handled_of_checkout`: it is handled, unless its Stripe subscription is another row's.
* `onPlan_deliver`: an update puts it on the first plan with the price.
* `plan_kept_iff`: the plan is kept exactly if it is the first one with its price.
* `moved_to_older_plan`: two plans with one price.
-/

namespace BillingEngine

open Runs StripeService SubscriptionRepository

namespace Webhooks

namespace PlanPrice

/-- The tenant's subscription is on the plan. -/
def OnPlan (db : Database) (tenantId planId : Uuid) : Prop :=
  ∃ row, getByTenant db tenantId = some row ∧ row.planId = planId

/-- The delivery is an update of the Stripe subscription, with the price. -/
structure UpdateFor (stripeId price : String) (u : Delivery) : Prop where
  type : u.event.type = "customer.subscription.updated"
  object : ∃ obj, u.event.data.getItem "object" = .ok obj ∧ HasId obj stripeId ∧
    priceIdFromItems obj = .str price

/-- The tenant's subscription is linked to the Stripe subscription and on the plan. -/
def LinkedOnPlan (db : Database) (tenantId : Uuid) (stripeId : String) (planId : Uuid) : Prop :=
  ∃ row, getByTenant db tenantId = some row ∧ row.stripeSubscriptionId = some stripeId ∧
    row.planId = planId

variable {driver : Driver} {db : Database} {d u : Delivery} {tenantId planId : Uuid}
  {stripeId price : String} {settings : StripeSettings} {plan : Plan}

/-! ## The deliveries -/

theorem deliver_plans (driver : Driver) (db : Database) (d : Delivery) :
    (deliver driver db d).1.plans = db.plans := by
  by_cases h : Handled driver db d
  · rw [(rowChange_of_handled h).2]
  · rw [deliver_of_not_handled h]

/-- **The checkout.** -/
theorem onPlan_of_checkout {existing : Option Subscription} {sessionObj : Json}
    (htype : d.event.type = "checkout.session.completed")
    (hobj : d.event.data.getItem "object" = .ok sessionObj)
    (hechoes : Echoes (sessionParams settings tenantId planId price existing) sessionObj)
    (hlink : sessionObj.get "subscription" = .ok (.str stripeId)) (hne : stripeId ≠ "")
    (hhandled : Handled driver db d) :
    LinkedOnPlan (deliver driver db d).1 tenantId stripeId planId := by
  obtain ⟨fields, hfields, hrows⟩ := (rowChange_of_handled hhandled).1.of_checkout htype hobj
  obtain ⟨rfl, rfl, hsubscription⟩ := checkoutFields_of_echoes hechoes hlink hne hfields
  unfold LinkedOnPlan getByTenant
  rw [hrows]
  cases hfound : getByTenant db fields.tenantId with
  | none =>
    refine ⟨fields.newRow d.ids.subscription d.now, ?_, hsubscription, rfl⟩
    rw [List.find?_append, ← getByTenant, hfound]
    simp [CheckoutFields.newRow]
  | some loaded =>
    obtain ⟨hmem, htenant⟩ := Rows.find?_mem hfound
    refine ⟨fields.onto loaded, ?_, ?_, rfl⟩
    · exact Rows.find?_replace db.constraints.subscriptions_pkey hfound rfl
        (decide_eq_true htenant)
    · simp [CheckoutFields.onto, hsubscription]

/-- **An update** that is handled puts the linked row on the first plan with the price. -/
theorem onPlan_deliver (driver : Driver) (hne : stripeId ≠ "") (hprice : price ≠ "")
    (hlinked : LinkedOnPlan db tenantId stripeId planId)
    (hplan : PlanRepository.getByStripePriceId db price = some plan)
    (hu : UpdateFor stripeId price u) :
    LinkedOnPlan (deliver driver db u).1 tenantId stripeId
      (if Handled driver db u then plan.id else planId) := by
  split_ifs with hhandled
  · obtain ⟨row, hfound, hs, -⟩ := hlinked
    obtain ⟨hmem, htenant⟩ := Rows.find?_mem hfound
    obtain ⟨obj, hobj, hid, hpriceId⟩ := hu.object
    have hrow : linkedSubscription driver db obj = .ok (some row) := by
      rw [linkedSubscription_of_hasId driver db hid, if_neg hne,
        getByStripeSubscriptionId_eq_some_iff.mpr ⟨hmem, hs⟩]
    have hpriced : pricedPlan driver db obj = .ok (some plan) := by
      simp [pricedPlan, hpriceId, Json.truthy, hprice, driver.bindText_str, hplan, bind,
        Except.bind, pure, Except.pure]
    obtain ⟨plan', hplan', hrows⟩ :=
      (rowChange_of_handled hhandled).1.of_updated hu.type hobj hrow
    rw [hpriced] at hplan'
    cases hplan'
    unfold LinkedOnPlan getByTenant
    rw [hrows]
    exact ⟨_, Rows.find?_replace db.constraints.subscriptions_pkey hfound rfl
      (decide_eq_true htenant), hs, rfl⟩
  · rw [deliver_of_not_handled hhandled]
    exact hlinked

/-! ## A checkout is handled -/

section Accepted

variable (fields : CheckoutFields)

/-- The row of a tenant who has none is accepted. -/
theorem constraints_newRow {id : Uuid} (now : DateTime)
    (htenant : fields.tenantId ∈ db.tenants.map Tenant.id)
    (hplan : fields.planId ∈ db.plans.map Plan.id)
    (hid : id ∉ db.subscriptions.map Subscription.id)
    (hlink : fields.subscription = some stripeId)
    (hfree : ∀ s ∈ db.subscriptions, s.stripeSubscriptionId ≠ some stripeId) :
    { db.toTables with
      subscriptions := db.subscriptions ++ [fields.newRow id now] }.Constraints := by
  have h := db.constraints
  have hnew : [fields.newRow id now].filterMap Subscription.stripeSubscriptionId = [stripeId] := by
    simp [CheckoutFields.newRow, hlink]
  refine h.setSubscriptions (nodup_map_concat.mpr ⟨h.subscriptions_pkey, hid⟩) ?_ ?_ ?_ ?_
  · rw [List.map_append]
    exact List.subset_append_left _ _
  · exact List.forall_mem_append.mpr
      ⟨h.subscriptions_tenant_fkey, List.forall_mem_singleton.mpr htenant⟩
  · exact List.forall_mem_append.mpr
      ⟨h.subscriptions_plan_fkey, List.forall_mem_singleton.mpr hplan⟩
  · rw [List.filterMap_append, hnew, List.nodup_append', List.disjoint_singleton]
    refine ⟨h.subscriptions_stripe_id, List.nodup_singleton _, fun hmem => ?_⟩
    obtain ⟨s, hs, hlinked⟩ := List.mem_filterMap.mp hmem
    exact hfree s hs hlinked

/-- The changed row of a tenant who has one is accepted. -/
theorem constraints_onto {loaded : Subscription} (hmem : loaded ∈ db.subscriptions)
    (hplan : fields.planId ∈ db.plans.map Plan.id)
    (hlink : fields.subscription = some stripeId)
    (hfree : ∀ s ∈ db.subscriptions, s.id ≠ loaded.id →
      s.stripeSubscriptionId ≠ some stripeId) :
    Tables.Constraints { db.toTables with
      subscriptions := Rows.replace Subscription.id (fields.onto loaded) db.subscriptions } := by
  have h := db.constraints
  have hids : (Rows.replace Subscription.id (fields.onto loaded) db.subscriptions).map
      Subscription.id = db.subscriptions.map Subscription.id :=
    Rows.map_replace_of_eq fun s _ hid => hid
  refine h.setSubscriptions (hids ▸ h.subscriptions_pkey) (hids ▸ List.Subset.refl _)
    (fun s hs => ?_) (fun s hs => ?_) ?_
  · rcases Rows.mem_of_mem_replace hs with rfl | ⟨hs, -⟩
    · exact h.subscriptions_tenant_fkey loaded hmem
    · exact h.subscriptions_tenant_fkey s hs
  · rcases Rows.mem_of_mem_replace hs with rfl | ⟨hs, -⟩
    · exact hplan
    · exact h.subscriptions_plan_fkey s hs
  · refine Rows.nodup_filterMap_replace h.subscriptions_pkey h.subscriptions_stripe_id
      fun s hs hother v hv => ?_
    have : v = stripeId := by simpa [CheckoutFields.onto, hlink, eq_comm] using hv
    rw [this]
    exact hfree s hs hother

/-- A checkout is handled, if no other row is linked to its Stripe subscription. -/
theorem handled_of_checkout {existing : Option Subscription} {sessionObj : Json}
    {customer : Option String}
    (htenant : tenantId ∈ db.tenants.map Tenant.id) (hplan : planId ∈ db.plans.map Plan.id)
    (htype : d.event.type = "checkout.session.completed")
    (hobj : d.event.data.getItem "object" = .ok sessionObj)
    (hechoes : Echoes (sessionParams settings tenantId planId price existing) sessionObj)
    (hlink : sessionObj.get "subscription" = .ok (.str stripeId)) (hne : stripeId ≠ "")
    (hcustomer : optionalText driver sessionObj "customer" = .ok customer)
    (hfree : ∀ s ∈ db.subscriptions, s.stripeSubscriptionId = some stripeId →
      getByTenant db tenantId = some s)
    (hevent : d.event.id ∉ db.webhookEvents.map WebhookEvent.eventId)
    (hmarker : d.ids.marker ∉ db.webhookEvents.map WebhookEvent.id)
    (hrow : d.ids.subscription ∉ db.subscriptions.map Subscription.id) :
    Handled driver db d := by
  let fields : CheckoutFields :=
    { tenantId, planId, customer, subscription := some stripeId }
  have hfields : checkoutFields driver sessionObj = .ok fields := by
    rw [checkoutFields_eq hechoes hlink hne, hcustomer]; rfl
  have hok : processEvent driver db d.event = .ok (fields.write (getByTenant db tenantId)) := by
    rw [processEvent, hobj]
    simp only [htype, bind, Except.bind, if_true]
    exact syncFromCheckout_ok.mpr ⟨fields, hfields, rfl⟩
  suffices h : Tables.Constraints { db.toTables with
      subscriptions := (fields.write (getByTenant db tenantId)).applyTo d.ids.subscription d.now
        db.subscriptions } by
    obtain ⟨db', hdeliver, -⟩ := deliver_of_processEvent hevent hmarker hok h
    exact ⟨hevent, by rw [hdeliver]⟩
  cases hfound : getByTenant db tenantId with
  | none =>
    refine constraints_newRow fields d.now htenant hplan hrow rfl fun s hs hid => ?_
    rw [hfree s hs hid] at hfound
    cases hfound
  | some loaded =>
    have hmem := (Rows.find?_mem hfound).1
    rw [CheckoutFields.write, PendingWrite.applyTo_update db.constraints.subscriptions_pkey hmem
      (fields.onto_over loaded)]
    refine constraints_onto fields hmem hplan rfl fun s hs hother hid => ?_
    rw [hfree s hs hid] at hfound
    cases hfound
    exact hother rfl

end Accepted

/-! ## Any number of updates -/

/-- Updates keep the tenant on the plan if it is the first one with the price. -/
theorem onPlan_deliverAll (hne : stripeId ≠ "") (hprice : price ≠ "") {us : List Delivery}
    (hus : ∀ u ∈ us, UpdateFor stripeId price u) : ∀ db : Database,
    LinkedOnPlan db tenantId stripeId plan.id →
    PlanRepository.getByStripePriceId db price = some plan →
    LinkedOnPlan (deliverAll driver db us) tenantId stripeId plan.id := by
  induction us with
  | nil => exact fun db hlinked _ => hlinked
  | cons u us ih =>
    intro db hlinked hplan
    rw [List.forall_mem_cons] at hus
    have hnext : LinkedOnPlan (deliver driver db u).1 tenantId stripeId plan.id := by
      simpa using onPlan_deliver driver hne hprice hlinked hplan hus.1
    refine ih hus.2 _ hnext ?_
    rw [PlanRepository.getByStripePriceId, deliver_plans]
    exact hplan

/-- There is an update that is handled, as long as a key for its marker is left. -/
theorem exists_handled_update (driver : Driver) (stripeId : String) (hprice : price ≠ "")
    {marker : Uuid}
    (hmarker : marker ∉ db.webhookEvents.map WebhookEvent.id) :
    ∃ u, UpdateFor stripeId price u ∧ Handled driver db u := by
  obtain ⟨eventId, hevent⟩ := Infinite.exists_notMem_finset
    (db.webhookEvents.map WebhookEvent.eventId).toFinset
  rw [List.mem_toFinset] at hevent
  let view := Agreement.viewOf "active" price
  let d : Agreement.UpdateDelivery := { stripeId, eventId, ids := ⟨marker, marker⟩,
                                        now := Sample.july }
  have hpriced : pricedPlan driver db (view.object stripeId) =
      .ok (PlanRepository.getByStripePriceId db price) := by
    have hid : priceIdFromItems (view.object stripeId) = .str price := rfl
    simp [pricedPlan, hid, Json.truthy, hprice, driver.bindText_str, bind, Except.bind, pure,
      Except.pure]
  refine ⟨d.toDelivery view, ⟨rfl, _, rfl, view.hasId stripeId, rfl⟩, hevent, ?_⟩
  rcases Agreement.processEvent_rows driver db view stripeId eventId with
    ⟨exn, herr, -⟩ | ⟨pending, hok, hrows⟩
  · rw [processEvent_updatedEvent (view.hasId stripeId), hpriced] at herr
    split at herr <;> cases herr
  · obtain ⟨db', hdeliver, -⟩ :=
      Agreement.deliver_of_processed driver view d hevent hmarker hok (hrows _ _)
    rw [hdeliver]

/-- **The plan is kept exactly if it is the first one with its price.** -/
theorem plan_kept_iff {create : SessionParams → Except Exn String} {url : String}
    {sessionObj : Json} {marker : Uuid}
    (hplan : PlanRepository.getById db planId = some plan)
    (hprice : plan.stripePriceId = some price)
    (hsession : createCheckoutSession settings create db tenantId planId = .ok url)
    (htype : d.event.type = "checkout.session.completed")
    (hobj : d.event.data.getItem "object" = .ok sessionObj)
    (hechoes : Echoes (sessionParams settings tenantId planId price (getByTenant db tenantId))
      sessionObj)
    (hlink : sessionObj.get "subscription" = .ok (.str stripeId)) (hne : stripeId ≠ "")
    (hhandled : Handled driver db d)
    (hmarker : marker ∉ (deliver driver db d).1.webhookEvents.map WebhookEvent.id) :
    (∀ us, (∀ u ∈ us, UpdateFor stripeId price u) →
      OnPlan (deliverAll driver (deliver driver db d).1 us) tenantId planId) ↔
    PlanRepository.getByStripePriceId db price = some plan := by
  obtain ⟨plan', price', hplan', hprice', hprice_ne, -⟩ := createCheckoutSession_eq_ok hsession
  rw [hplan] at hplan'
  cases hplan'
  rw [hprice] at hprice'
  cases hprice'
  obtain ⟨hmem, rfl⟩ := Rows.find?_mem hplan
  have hlinked := onPlan_of_checkout htype hobj hechoes hlink hne hhandled
  have hlookup : PlanRepository.getByStripePriceId (deliver driver db d).1 price =
      PlanRepository.getByStripePriceId db price := by
    rw [PlanRepository.getByStripePriceId, deliver_plans]
    rfl
  constructor
  · intro hkept
    obtain ⟨first, hfirst⟩ := Rows.find?_isSome_of_mem Plan.stripePriceId hmem
    rw [hprice] at hfirst
    obtain ⟨u, hu, hhandled'⟩ := exists_handled_update driver stripeId hprice_ne hmarker
    obtain ⟨row, hrow, hid⟩ := hkept [u] (by simpa using hu)
    obtain ⟨row', hrow', -, hid'⟩ :=
      onPlan_deliver driver hne hprice_ne hlinked (hlookup.trans hfirst) hu
    rw [deliverAll, deliverAll, hrow'] at hrow
    cases hrow
    rw [if_pos hhandled', hid] at hid'
    have : plan = first :=
      Rows.eq_of_unique db.constraints.plans_pkey hmem (Rows.find?_mem hfirst).1 hid'
    rw [this]
    exact hfirst
  · intro hfirst us hus
    obtain ⟨row, hrow, -, hid⟩ :=
      onPlan_deliverAll hne hprice_ne hus _ hlinked (hlookup.trans hfirst)
    exact ⟨row, hrow, hid⟩

/-! ## Two plans -/

/-- The settings with a key for the API. -/
def configured : StripeSettings where
  stripeApiKey := some "sk_test"

/-- Stripe creates a session whatever the parameters are. -/
def alwaysCreates (_ : SessionParams) : Except Exn String := .ok "https://checkout.stripe.test"

/-- The session of a tenant and a plan, paid for with the subscription `sub_9`. -/
def paidSession (tenantId planId : Uuid) : Json :=
  .obj [("metadata", .obj [("tenant_id", .str tenantId.str), ("plan_id", .str planId.str)]),
    ("customer", .str "cus_9"), ("subscription", .str "sub_9")]

def paid (tenantId planId : Uuid) : Delivery where
  event := { id := "evt_1", type := "checkout.session.completed",
             data := .obj [("object", paidSession tenantId planId)] }
  ids := ⟨⟨100⟩, ⟨101⟩⟩
  now := Sample.july

theorem echoes_paidSession (tenantId planId : Uuid) (price : String)
    (existing : Option Subscription) :
    Echoes (sessionParams configured tenantId planId price existing)
      (paidSession tenantId planId) := by
  refine ⟨_, rfl, ?_⟩
  simp [sessionParams, List.lookup]

/-- A later update of `sub_9` with its price. -/
def renewal : Delivery where
  event := { id := "evt_2", type := "customer.subscription.updated",
             data := .obj [("object", (Agreement.viewOf "active" "price_pro").object "sub_9")] }
  ids := ⟨⟨102⟩, ⟨103⟩⟩
  now := Sample.july

theorem updateFor_renewal : UpdateFor "sub_9" "price_pro" renewal := ⟨rfl, _, rfl, rfl, rfl⟩

theorem plan_kept_iff_renewal :
    OnPlan (deliverAll .stringsOnly (deliver .stringsOnly Sample.db (paid ⟨1⟩ ⟨2⟩)).1 [renewal])
      ⟨1⟩ ⟨2⟩ := by
  have hunused : (⟨104⟩ : Uuid) ∉ (deliver .stringsOnly Sample.db
      (paid ⟨1⟩ ⟨2⟩)).1.webhookEvents.map WebhookEvent.id := by decide
  have hsession : createCheckoutSession configured alwaysCreates Sample.db ⟨1⟩ ⟨2⟩ =
      .ok "https://checkout.stripe.test" := rfl
  exact (plan_kept_iff rfl rfl hsession rfl rfl (echoes_paidSession ..) rfl (by decide)
    (by decide) hunused).mpr rfl [renewal] (by simpa using updateFor_renewal)

/-- An old and a new plan with one price. -/
def pricedTwice : List Op :=
  [.createTenant { name := "Acme", email := "billing@acme.test" } ⟨1⟩,
    .createPlan { name := "Pro", price := 4900, usageLimit := 10,
                  stripePriceId := some "price_pro" } ⟨2⟩,
    .createPlan { name := "Pro 2027", price := 4900, usageLimit := 20,
                  stripePriceId := some "price_pro" } ⟨4⟩]

def twoPlans : Serial :=
  (exec (Serial.next .stringsOnly) (Serial.initial Sample.july) pricedTwice).get (by decide)

/-- The tenant pays for the new plan and is moved to the old one. -/
theorem moved_to_older_plan :
    Run (Serial.next .stringsOnly) Always (Serial.initial Sample.july) twoPlans ∧
    createCheckoutSession configured alwaysCreates twoPlans.db ⟨1⟩ ⟨4⟩ =
      .ok "https://checkout.stripe.test" ∧
    OnPlan (deliver .stringsOnly twoPlans.db (paid ⟨1⟩ ⟨4⟩)).1 ⟨1⟩ ⟨4⟩ ∧
    UpdateFor "sub_9" "price_pro" renewal ∧
    ¬ OnPlan (deliverAll .stringsOnly (deliver .stringsOnly twoPlans.db (paid ⟨1⟩ ⟨4⟩)).1 [renewal])
      ⟨1⟩ ⟨4⟩ := by
  refine ⟨Run.of_exec_isSome _, rfl, ⟨_, rfl, rfl⟩, updateFor_renewal, ?_⟩
  rintro ⟨row, hrow, hid⟩
  have hmoved : (getByTenant (deliverAll .stringsOnly
      (deliver .stringsOnly twoPlans.db (paid ⟨1⟩ ⟨4⟩)).1 [renewal]) ⟨1⟩).map Subscription.planId =
      some ⟨2⟩ := by decide
  rw [hrow, Option.map_some, hid] at hmoved
  simp at hmoved

end PlanPrice

end Webhooks

end BillingEngine
