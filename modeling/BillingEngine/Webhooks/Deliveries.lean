import BillingEngine.Webhooks.Atomicity

/-!
# What one delivery does to the subscriptions

A delivery is handled when its event is new and the call does not raise;
otherwise it changes nothing. A handled delivery stores its marker and does one
of a few things to the rows of `subscriptions`, which `RowChange` lists together
with what the handler has read: everything that is proved about the statuses and
plans of rows along a run of deliveries starts from this list.

Results:
* `deliver_of_not_handled`: a delivery that is not handled changes nothing.
* `rowChange_of_handled`: a handled delivery makes one of the listed changes.
* `RowChange.of_checkout`, `RowChange.of_updated`, `RowChange.of_deleted`,
  `RowChange.of_unlinked`: which one it is for an event of a known type.
-/

namespace BillingEngine

open StripeService SubscriptionRepository WebhookEventRepository

namespace Webhooks

/-- The event is new, and it is processed without an exception. -/
def Handled (driver : Driver) (db : Database) (d : Delivery) : Prop :=
  d.event.id ∉ db.webhookEvents.map WebhookEvent.eventId ∧ (deliver driver db d).2 = .ok ()

instance (driver : Driver) (db : Database) (d : Delivery) : Decidable (Handled driver db d) :=
  inferInstanceAs (Decidable (_ ∧ _))

/-- What a handled delivery makes of the rows. -/
inductive RowChange (driver : Driver) (db : Database) (d : Delivery) : List Subscription → Prop
  /-- an event of a type that is not handled -/
  | ignored (hcheckout : d.event.type ≠ "checkout.session.completed")
      (hupdated : d.event.type ≠ "customer.subscription.updated")
      (hdeleted : d.event.type ≠ "customer.subscription.deleted") :
      RowChange driver db d db.subscriptions
  /-- a subscription event about no row -/
  | unlinked {obj : Json} (htype : d.event.type = "customer.subscription.updated" ∨
        d.event.type = "customer.subscription.deleted")
      (hobj : d.event.data.getItem "object" = .ok obj)
      (hrow : linkedSubscription driver db obj = .ok none) :
      RowChange driver db d db.subscriptions
  /-- the checkout of a tenant without a subscription -/
  | newTenant {obj : Json} {fields : CheckoutFields}
      (htype : d.event.type = "checkout.session.completed")
      (hobj : d.event.data.getItem "object" = .ok obj)
      (hfields : checkoutFields driver obj = .ok fields)
      (hrow : getByTenant db fields.tenantId = none) :
      RowChange driver db d (db.subscriptions ++ [fields.newRow d.ids.subscription d.now])
  /-- the checkout of a tenant who has one -/
  | knownTenant {obj : Json} {fields : CheckoutFields} {loaded : Subscription}
      (htype : d.event.type = "checkout.session.completed")
      (hobj : d.event.data.getItem "object" = .ok obj)
      (hfields : checkoutFields driver obj = .ok fields)
      (hrow : getByTenant db fields.tenantId = some loaded) :
      RowChange driver db d (Rows.replace Subscription.id (fields.onto loaded) db.subscriptions)
  | updated {obj : Json} {loaded : Subscription} {plan : Option Plan}
      (htype : d.event.type = "customer.subscription.updated")
      (hobj : d.event.data.getItem "object" = .ok obj)
      (hrow : linkedSubscription driver db obj = .ok (some loaded))
      (hplan : pricedPlan driver db obj = .ok plan) :
      RowChange driver db d (Rows.replace Subscription.id
        { loaded with
          status := fromStripeStatus (obj.getAttr "status")
          planId := (plan.map Plan.id).getD loaded.planId } db.subscriptions)
  | deleted {obj : Json} {loaded : Subscription}
      (htype : d.event.type = "customer.subscription.deleted")
      (hobj : d.event.data.getItem "object" = .ok obj)
      (hrow : linkedSubscription driver db obj = .ok (some loaded)) :
      RowChange driver db d
        (Rows.replace Subscription.id { loaded with status := .cancelled } db.subscriptions)

variable {driver : Driver} {db : Database} {d : Delivery}

/-- What `_process_event` leaves pending makes one of the changes. -/
theorem rowChange_of_processEvent {pending : PendingWrite}
    (h : processEvent driver db d.event = .ok pending) :
    RowChange driver db d (pending.applyTo d.ids.subscription d.now db.subscriptions) := by
  have hu := db.constraints.subscriptions_pkey
  unfold processEvent at h
  obtain ⟨obj, hobj, h⟩ := bind_eq_ok.mp h
  split_ifs at h with hcheckout hupdated hdeleted
  · obtain ⟨fields, hfields, rfl⟩ := syncFromCheckout_ok.mp h
    cases hrow : getByTenant db fields.tenantId with
    | none => exact .newTenant hcheckout hobj hfields hrow
    | some loaded =>
      have hmem := (Rows.find?_mem hrow).1
      rw [CheckoutFields.write, PendingWrite.applyTo_update hu hmem (fields.onto_over loaded)]
      exact .knownTenant hcheckout hobj hfields hrow
  · rcases syncSubscriptionStatus_ok h with ⟨hrow, rfl⟩ | ⟨loaded, plan, hrow, hplan, rfl⟩
    · exact .unlinked (.inl hupdated) hobj hrow
    · rw [statusUpdate, PendingWrite.applyTo_update hu (linkedSubscription_mem hrow)
        (SubscriptionPatch.over_status_planId loaded _ _)]
      exact .updated hupdated hobj hrow hplan
  · rcases cancelSubscription_ok h with ⟨hrow, rfl⟩ | ⟨loaded, hrow, rfl⟩
    · exact .unlinked (.inr hdeleted) hobj hrow
    · rw [PendingWrite.applyTo_update hu (linkedSubscription_mem hrow)
        (SubscriptionPatch.over_status_planId loaded .cancelled loaded.planId)]
      exact .deleted hdeleted hobj hrow
  · cases h
    exact .ignored hcheckout hupdated hdeleted

/-- A repetition and a call that raises leave the database as it is. -/
theorem deliver_of_not_handled (h : ¬ Handled driver db d) : (deliver driver db d).1 = db := by
  rcases handleWebhook_cases driver db d.event d.ids d.now with
    ⟨-, hsame⟩ | ⟨exn, -, hsame⟩ | ⟨pending, db', hnew, -, hok, -⟩
  · rw [deliver, hsame]
  · rw [deliver, hsame]
  · exact absurd ⟨getByEventId_eq_none_iff.mp hnew, by rw [deliver, hok]⟩ h

/-- **A handled delivery** makes one of the listed changes, and besides it only
    stores its marker. -/
theorem rowChange_of_handled (h : Handled driver db d) :
    RowChange driver db d (deliver driver db d).1.subscriptions ∧
      (deliver driver db d).1.toTables = { db.toTables with
        webhookEvents := db.webhookEvents ++ [newMarker d.event d.ids.marker d.now]
        subscriptions := (deliver driver db d).1.subscriptions } := by
  have hnew := getByEventId_eq_none_iff.mpr h.1
  rcases handleWebhook_cases driver db d.event d.ids d.now with
    ⟨⟨marker, hold⟩, -⟩ | ⟨exn, -, hraised⟩ | ⟨pending, db', -, hpending, hok, ht⟩
  · rw [hnew] at hold; cases hold
  · have hreturned := h.2
    rw [deliver, hraised] at hreturned
    cases hreturned
  · rw [deliver, hok, ht]
    exact ⟨rowChange_of_processEvent hpending, rfl⟩

/-! ## The change for an event of each type -/

namespace RowChange

variable {rows : List Subscription} {obj : Json} {loaded : Subscription}

/-- An update of a linked row. -/
theorem of_updated (h : RowChange driver db d rows)
    (htype : d.event.type = "customer.subscription.updated")
    (hobj : d.event.data.getItem "object" = .ok obj)
    (hrow : linkedSubscription driver db obj = .ok (some loaded)) :
    ∃ plan, pricedPlan driver db obj = .ok plan ∧ rows = Rows.replace Subscription.id
      { loaded with
        status := fromStripeStatus (obj.getAttr "status")
        planId := (plan.map Plan.id).getD loaded.planId } db.subscriptions := by
  cases h with
  | ignored _ hupdated => exact absurd htype hupdated
  | unlinked _ hobj' hnone => rw [hobj] at hobj'; cases hobj'; rw [hrow] at hnone; cases hnone
  | newTenant htype' | knownTenant htype' | deleted htype' => rw [htype] at htype'; simp at htype'
  | updated _ hobj' hrow' hplan =>
    rw [hobj] at hobj'; cases hobj'
    rw [hrow] at hrow'; cases hrow'
    exact ⟨_, hplan, rfl⟩

/-- The deletion of a linked row. -/
theorem of_deleted (h : RowChange driver db d rows)
    (htype : d.event.type = "customer.subscription.deleted")
    (hobj : d.event.data.getItem "object" = .ok obj)
    (hrow : linkedSubscription driver db obj = .ok (some loaded)) :
    rows = Rows.replace Subscription.id { loaded with status := .cancelled } db.subscriptions := by
  cases h with
  | ignored _ _ hdeleted => exact absurd htype hdeleted
  | unlinked _ hobj' hnone => rw [hobj] at hobj'; cases hobj'; rw [hrow] at hnone; cases hnone
  | newTenant htype' | knownTenant htype' | updated htype' => rw [htype] at htype'; simp at htype'
  | deleted _ hobj' hrow' =>
    rw [hobj] at hobj'; cases hobj'
    rw [hrow] at hrow'; cases hrow'
    rfl

/-- A subscription event about no row. -/
theorem of_unlinked (h : RowChange driver db d rows)
    (htype : d.event.type = "customer.subscription.updated" ∨
      d.event.type = "customer.subscription.deleted")
    (hobj : d.event.data.getItem "object" = .ok obj)
    (hrow : linkedSubscription driver db obj = .ok none) : rows = db.subscriptions := by
  cases h with
  | ignored | unlinked => rfl
  | newTenant htype' | knownTenant htype' =>
    rcases htype with htype | htype <;> rw [htype] at htype' <;> simp at htype'
  | updated _ hobj' hrow' | deleted _ hobj' hrow' =>
    rw [hobj] at hobj'; cases hobj'
    rw [hrow] at hrow'; cases hrow'

/-- A checkout. -/
theorem of_checkout (h : RowChange driver db d rows)
    (htype : d.event.type = "checkout.session.completed")
    (hobj : d.event.data.getItem "object" = .ok obj) :
    ∃ fields, checkoutFields driver obj = .ok fields ∧
      rows = match getByTenant db fields.tenantId with
        | none => db.subscriptions ++ [fields.newRow d.ids.subscription d.now]
        | some loaded => Rows.replace Subscription.id (fields.onto loaded) db.subscriptions := by
  cases h with
  | ignored hcheckout => exact absurd htype hcheckout
  | unlinked htype' =>
    rcases htype' with htype' | htype' <;> rw [htype] at htype' <;> simp at htype'
  | updated htype' | deleted htype' => rw [htype] at htype'; simp at htype'
  | newTenant _ hobj' hfields hrow | knownTenant _ hobj' hfields hrow =>
    rw [hobj] at hobj'; cases hobj'
    exact ⟨_, hfields, by rw [hrow]⟩

end RowChange

end Webhooks

namespace Sample

/-- The `n`-th delivery, of an event about `sub_1`. -/
def eventAbout (eventId type : String) (fields : List (String × Json)) (n : ℕ) :
    Webhooks.Delivery where
  event := { id := eventId, type := type,
             data := .obj [("object", .obj (("id", .str "sub_1") :: fields))] }
  ids := ⟨⟨Fin.ofNat (2 ^ 128) (100 + 2 * n)⟩, ⟨Fin.ofNat (2 ^ 128) (101 + 2 * n)⟩⟩
  now := july

end Sample

end BillingEngine
