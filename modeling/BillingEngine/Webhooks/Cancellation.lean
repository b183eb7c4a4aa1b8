import BillingEngine.Webhooks.Deliveries

/-!
# A cancelled Stripe subscription

`customer.subscription.deleted` cancels the row that is linked to the Stripe
subscription. The handlers have no notion of order: what arrives last is what
the row shows, and Stripe does not promise to deliver in order. So a row is
cancelled for as long as nothing *revives* it, and two kinds of deliveries do:
an update of the subscription with a live status, and a checkout that leaves
some row linked to it.

Results:
* `not_live_of_deleted`: right after a deletion no row of it is live.
* `revived_of_live`: it becomes live again only by a delivery that revives it.
* `live_of_revives`: and every such delivery makes it live.
* `late_update_revives`: an update that was created before the deletion and
  arrives after it.
-/

namespace BillingEngine

open Runs StripeService SubscriptionRepository

namespace Webhooks

/-- Deliveries one after the other. -/
def nextDelivery (driver : Driver) (db : Database) (d : Delivery) : Option Database :=
  some (deliver driver db d).1

namespace Cancellation

/-- The statuses under which a subscription runs. -/
def LiveStatus (status : SubscriptionStatus) : Prop := status = .active ∨ status = .trialing

/-- A row linked to the Stripe subscription is `ACTIVE` or `TRIALING`. -/
def Live (db : Database) (stripeId : String) : Prop :=
  ∃ row ∈ db.subscriptions, row.stripeSubscriptionId = some stripeId ∧ LiveStatus row.status

instance (status : SubscriptionStatus) : Decidable (LiveStatus status) :=
  inferInstanceAs (Decidable (_ ∨ _))

instance (db : Database) (stripeId : String) : Decidable (Live db stripeId) :=
  inferInstanceAs (Decidable (∃ row ∈ db.subscriptions, _))

/-- The delivery is the deletion of the Stripe subscription. -/
def Deletes (d : Delivery) (stripeId : String) : Prop :=
  d.event.type = "customer.subscription.deleted" ∧
    ∃ obj, d.event.data.getItem "object" = .ok obj ∧ HasId obj stripeId

/-- The link of the row of a tenant after a checkout. -/
def linkAfter (fields : CheckoutFields) (row : Option Subscription) : Option String :=
  fields.subscription.or (row.bind Subscription.stripeSubscriptionId)

/-- The delivery is handled, and it is an update of the row of the Stripe
    subscription with a live status, or a checkout whose row is linked to it. -/
def Revives (driver : Driver) (db : Database) (d : Delivery) (stripeId : String) : Prop :=
  Handled driver db d ∧ ∃ obj, d.event.data.getItem "object" = .ok obj ∧
    ((d.event.type = "customer.subscription.updated" ∧
        LiveStatus (fromStripeStatus (obj.getAttr "status")) ∧
        ∃ loaded, linkedSubscription driver db obj = .ok (some loaded) ∧
          loaded.stripeSubscriptionId = some stripeId) ∨
      (d.event.type = "checkout.session.completed" ∧
        ∃ fields, checkoutFields driver obj = .ok fields ∧
          linkAfter fields (getByTenant db fields.tenantId) = some stripeId))

variable {driver : Driver} {db db' db₀ : Database} {d d₀ : Delivery} {stripeId : String}

/-! ## One delivery -/

/-- **A deletion** leaves no live row of the Stripe subscription. -/
theorem not_live_of_deleted (hne : stripeId ≠ "") (hhandled : Handled driver db d)
    (hdel : Deletes d stripeId) : ¬ Live (deliver driver db d).1 stripeId := by
  obtain ⟨htype, obj, hobj, hid⟩ := hdel
  have hchange := (rowChange_of_handled hhandled).1
  have hlinked := linkedSubscription_of_hasId driver db hid
  rw [if_neg hne] at hlinked
  rintro ⟨row, hrow, hs, hlive⟩
  cases hfound : getByStripeSubscriptionId db stripeId with
  | none =>
    -- there is no row of it at all
    rw [hfound] at hlinked
    rw [hchange.of_unlinked (.inr htype) hobj hlinked] at hrow
    exact Rows.find?_eq_none.mp hfound row hrow hs
  | some loaded =>
    rw [hfound] at hlinked
    rw [hchange.of_deleted htype hobj hlinked] at hrow
    obtain ⟨hmem, hs'⟩ := getByStripeSubscriptionId_eq_some_iff.mp hfound
    rcases Rows.mem_of_mem_replace hrow with rfl | ⟨hold, hother⟩
    · rcases hlive with h | h <;> cases h
    · -- the link is unique
      have heq : row = loaded := Rows.eq_of_unique_filterMap
        db.constraints.subscriptions_stripe_id hold hmem hs hs'
      exact hother (by rw [heq])

/-- A delivery that makes a row of it live is one that revives it. -/
theorem revives_of_live (hdead : ¬ Live db stripeId)
    (hlive : Live (deliver driver db d).1 stripeId) :
    Revives driver db d stripeId := by
  by_cases hhandled : Handled driver db d
  · have hchange := (rowChange_of_handled hhandled).1
    obtain ⟨row, hrow, hs, hstatus⟩ := hlive
    have hold : row ∉ db.subscriptions := fun hmem => hdead ⟨row, hmem, hs, hstatus⟩
    refine ⟨hhandled, ?_⟩
    generalize (deliver driver db d).1.subscriptions = rows at hchange hrow
    cases hchange with
    | ignored | unlinked => exact absurd hrow hold
    | newTenant htype hobj hfields hnone =>
      obtain rfl := List.mem_singleton.mp ((List.mem_append.mp hrow).resolve_left hold)
      refine ⟨_, hobj, .inr ⟨htype, _, hfields, ?_⟩⟩
      rw [hnone, linkAfter, Option.bind_none, Option.or_none]
      exact hs
    | knownTenant htype hobj hfields hsome =>
      rcases Rows.mem_of_mem_replace hrow with rfl | ⟨hmem, -⟩
      · refine ⟨_, hobj, .inr ⟨htype, _, hfields, ?_⟩⟩
        rw [hsome]
        exact hs
      · exact absurd hmem hold
    | updated htype hobj hsome =>
      rcases Rows.mem_of_mem_replace hrow with rfl | ⟨hmem, -⟩
      · exact ⟨_, hobj, .inl ⟨htype, hstatus, _, hsome, hs⟩⟩
      · exact absurd hmem hold
    | deleted htype hobj hsome =>
      rcases Rows.mem_of_mem_replace hrow with rfl | ⟨hmem, -⟩
      · rcases hstatus with h | h <;> cases h
      · exact absurd hmem hold
  · rw [deliver_of_not_handled hhandled] at hlive
    exact absurd hlive hdead

/-- **Whatever revives a Stripe subscription makes a row of it live.** -/
theorem live_of_revives (h : Revives driver db d stripeId) :
    Live (deliver driver db d).1 stripeId := by
  obtain ⟨hhandled, obj, hobj, hkind⟩ := h
  have hchange := (rowChange_of_handled hhandled).1
  unfold Live
  rcases hkind with ⟨htype, hstatus, loaded, hloaded, hs⟩ | ⟨htype, fields, hfields, hlink⟩
  · obtain ⟨plan, -, hrows⟩ := hchange.of_updated htype hobj hloaded
    rw [hrows]
    exact ⟨_, Rows.self_mem_replace (linkedSubscription_mem hloaded) rfl, hs, hstatus⟩
  · obtain ⟨fields', hfields', hrows⟩ := hchange.of_checkout htype hobj
    rw [hfields] at hfields'
    cases hfields'
    rw [hrows]
    cases hfound : getByTenant db fields.tenantId with
    | none =>
      rw [hfound, linkAfter, Option.bind_none, Option.or_none] at hlink
      exact ⟨_, List.mem_append_right _ (List.mem_singleton_self _), hlink, .inl rfl⟩
    | some loaded =>
      rw [hfound] at hlink
      exact ⟨_, Rows.self_mem_replace (Rows.find?_mem hfound).1 rfl, hlink, .inl rfl⟩

/-! ## Runs -/

/-- **Cancelled until revived.** From the commit of a deletion on, a row linked to the
    Stripe subscription is live at some point only if a delivery in between has
    revived it. -/
theorem revived_of_live (hne : stripeId ≠ "") (hhandled : Handled driver db₀ d₀)
    (hdel : Deletes d₀ stripeId)
    (hrun : Run (nextDelivery driver) Always (deliver driver db₀ d₀).1 db)
    (hlive : Live db stripeId) :
    ∃ u d, Run (nextDelivery driver) Always (deliver driver db₀ d₀).1 u ∧
      Revives driver u d stripeId ∧
      Run (nextDelivery driver) Always (deliver driver u d).1 db := by
  have hdead := not_live_of_deleted hne hhandled hdel
  obtain ⟨u, d, v, hbefore, -, hnext, hafter, hdead, hrevived⟩ :=
    Run.exists_change (P := fun db => Live db stripeId) hrun hdead hlive
  cases hnext
  exact ⟨u, d, hbefore, revives_of_live hdead hrevived, hafter⟩

/-! ## An update that arrives late -/

/-- The deletion of `sub_1`. -/
def deletion : Delivery := Sample.eventAbout "evt_2" "customer.subscription.deleted" [] 0

/-- Stripe has created this update before the deletion. -/
def lateUpdate : Delivery :=
  Sample.eventAbout "evt_1" "customer.subscription.updated" [("status", .str "active")] 1

theorem deletes_deletion : Deletes deletion "sub_1" := ⟨rfl, _, rfl, rfl⟩

/-- The row of `sub_1` is cancelled, and the update makes it active again. -/
theorem late_update_revives : Handled .stringsOnly Sample.db deletion ∧
    Deletes deletion "sub_1" ∧ deletion.event.id ≠ lateUpdate.event.id ∧
    Live (deliver .stringsOnly (deliver .stringsOnly Sample.db deletion).1 lateUpdate).1 "sub_1" :=
  ⟨by decide, deletes_deletion, by decide, by decide⟩

theorem revived_of_live_late : ∃ u d, Revives .stringsOnly u d "sub_1" := by
  have hrun : Run (nextDelivery .stringsOnly) Always (deliver .stringsOnly Sample.db deletion).1
      (deliver .stringsOnly (deliver .stringsOnly Sample.db deletion).1 lateUpdate).1 :=
    Run.single (a := lateUpdate) trivial rfl
  obtain ⟨u, d, -, hrevives, -⟩ :=
    revived_of_live (by decide) (by decide) deletes_deletion hrun (by decide)
  exact ⟨u, d, hrevives⟩

end Cancellation

end Webhooks

end BillingEngine
