import BillingEngine.Webhooks.Deliveries

/-!
# What a webhook leaves alone

Whatever the payload holds, a delivery changes or inserts at most one subscription:
after a checkout that of the tenant in the metadata, after a subscription event the
one that is linked to its object. What the event does not carry stays: the stored
customer and subscription of Stripe after a checkout without them, the plan after an
update with an unknown price, and everything after an event about no row.

Results:
* `framed_of_rowChange`: each change of a handled delivery, with what it leaves alone.
* `webhook_frame`: the frame of every call, also of one that raises.
-/

namespace BillingEngine

open StripeService SubscriptionRepository

namespace Webhooks

namespace Frame

/-! ## What the payload names -/

/-- The metadata of the session names the tenant. -/
def NamesTenant (obj : Json) (tenantId : Uuid) : Prop :=
  ∃ metadata v, obj.get "metadata" = .ok metadata ∧ metadata.getItem "tenant_id" = .ok v ∧
    toUuid v = .ok tenantId

/-- The row has the id of the object, as the driver binds it. -/
def LinkedTo (driver : Driver) (obj : Json) (row : Subscription) : Prop :=
  ∃ v text, obj.get "id" = .ok v ∧ driver.bindText v = .ok text ∧
    row.stripeSubscriptionId = some text

/-- The object does not carry the field, or carries nothing under it. -/
def Lacks (obj : Json) (key : String) : Prop := ∀ v, obj.get key = .ok v → v.truthy = false

/-- No plan has the price of the first item, if there is one. -/
def UnknownPrice (driver : Driver) (db : Database) (obj : Json) : Prop :=
  (priceIdFromItems obj).truthy = true → ∀ plan ∈ db.plans, ∀ text,
    driver.bindText (priceIdFromItems obj) = .ok text → plan.stripePriceId ≠ some text

/-! ## One row -/

/-- One row is replaced; it keeps its key and its tenant. -/
structure Changed (rows rows' : List Subscription) (old new : Subscription) : Prop where
  split : ∃ before after, rows = before ++ old :: after ∧ rows' = before ++ new :: after
  id : new.id = old.id
  tenantId : new.tenantId = old.tenantId

theorem Changed.old_mem {rows rows' : List Subscription} {old new : Subscription}
    (h : Changed rows rows' old new) : old ∈ rows := by
  obtain ⟨before, after, hrows, -⟩ := h.split
  rw [hrows]
  exact List.mem_append_right _ List.mem_cons_self

/-- The Stripe ids of the row stay. -/
def KeepsStripeIds (old new : Subscription) : Prop :=
  new.stripeCustomerId = old.stripeCustomerId ∧
    new.stripeSubscriptionId = old.stripeSubscriptionId

/-- The rows after a delivery: no change, or one row. -/
inductive Framed (driver : Driver) (db : Database) (event : StripeEvent) :
    List Subscription → Prop
  | same : Framed driver db event db.subscriptions
  | inserted {obj : Json} {tenantId : Uuid} {new : Subscription}
      (htype : event.type = "checkout.session.completed")
      (hobj : event.data.getItem "object" = .ok obj) (hnames : NamesTenant obj tenantId)
      (hnone : getByTenant db tenantId = none) (hnew : new.tenantId = tenantId) :
      Framed driver db event (db.subscriptions ++ [new])
  | checkedOut {obj : Json} {tenantId : Uuid} {old new : Subscription} {rows : List Subscription}
      (htype : event.type = "checkout.session.completed")
      (hobj : event.data.getItem "object" = .ok obj) (hnames : NamesTenant obj tenantId)
      (htenant : old.tenantId = tenantId) (hchanged : Changed db.subscriptions rows old new)
      (hcustomer : Lacks obj "customer" → new.stripeCustomerId = old.stripeCustomerId)
      (hsubscription : Lacks obj "subscription" →
        new.stripeSubscriptionId = old.stripeSubscriptionId) :
      Framed driver db event rows
  | updated {obj : Json} {old new : Subscription} {rows : List Subscription}
      (htype : event.type = "customer.subscription.updated")
      (hobj : event.data.getItem "object" = .ok obj) (hlinked : LinkedTo driver obj old)
      (hchanged : Changed db.subscriptions rows old new) (hids : KeepsStripeIds old new)
      (hplan : UnknownPrice driver db obj → new.planId = old.planId) :
      Framed driver db event rows
  | deleted {obj : Json} {old new : Subscription} {rows : List Subscription}
      (htype : event.type = "customer.subscription.deleted")
      (hobj : event.data.getItem "object" = .ok obj) (hlinked : LinkedTo driver obj old)
      (hchanged : Changed db.subscriptions rows old new) (hids : KeepsStripeIds old new)
      (hplan : new.planId = old.planId) :
      Framed driver db event rows

variable {driver : Driver} {db : Database} {event : StripeEvent} {obj : Json}

/-! ## What the handlers have read -/

theorem changed_replace {old new : Subscription} (hmem : old ∈ db.subscriptions)
    (hid : new.id = old.id) (htenant : new.tenantId = old.tenantId) :
    Changed db.subscriptions (Rows.replace Subscription.id new db.subscriptions) old new :=
  ⟨Rows.replace_split db.constraints.subscriptions_pkey hmem hid.symm, hid, htenant⟩

theorem linkedTo_of_linkedSubscription {row : Subscription}
    (h : linkedSubscription driver db obj = .ok (some row)) : LinkedTo driver obj row := by
  unfold linkedSubscription at h
  obtain ⟨v, hv, h⟩ := bind_eq_ok.mp h
  split_ifs at h
  · obtain ⟨text, htext, h⟩ := bind_eq_ok.mp h
    exact ⟨v, text, hv, htext, (getByStripeSubscriptionId_eq_some_iff.mp (Except.ok.inj h)).2⟩
  · cases h

theorem optionalText_of_lacks {key : String} {text : Option String} (hlacks : Lacks obj key)
    (h : optionalText driver obj key = .ok text) : text = none := by
  unfold optionalText at h
  obtain ⟨v, hv, h⟩ := bind_eq_ok.mp h
  rw [hlacks v hv] at h
  cases h
  rfl

/-- The fields of a session, and where they come from. -/
theorem checkoutFields_spec {fields : CheckoutFields} (h : checkoutFields driver obj = .ok fields) :
    NamesTenant obj fields.tenantId ∧
      optionalText driver obj "customer" = .ok fields.customer ∧
      optionalText driver obj "subscription" = .ok fields.subscription := by
  unfold checkoutFields at h
  obtain ⟨metadata, hmetadata, h⟩ := bind_eq_ok.mp h
  obtain ⟨v, hv, h⟩ := bind_eq_ok.mp h
  obtain ⟨tenantId, htenantId, h⟩ := bind_eq_ok.mp h
  obtain ⟨_, -, h⟩ := bind_eq_ok.mp h
  obtain ⟨_, -, h⟩ := bind_eq_ok.mp h
  obtain ⟨customer, hcustomer, h⟩ := bind_eq_ok.mp h
  obtain ⟨subscription, hsubscription, h⟩ := bind_eq_ok.mp h
  cases h
  split_ifs at hv
  · exact ⟨⟨metadata, v, hmetadata, hv, htenantId⟩, hcustomer, hsubscription⟩
  · cases hv

/-- An unknown price leaves the handler without a plan. -/
theorem pricedPlan_of_unknownPrice {plan : Option Plan} (hunknown : UnknownPrice driver db obj)
    (h : pricedPlan driver db obj = .ok plan) : plan = none := by
  dsimp only [pricedPlan] at h
  split_ifs at h with hprice
  · obtain ⟨text, htext, h⟩ := bind_eq_ok.mp h
    cases h
    exact Rows.find?_eq_none.mpr fun plan hplan => hunknown hprice plan hplan text htext
  · cases h
    rfl

/-! ## The frame -/

/-- Each change of a handled delivery is within the frame. -/
theorem framed_of_rowChange {d : Delivery} {rows : List Subscription}
    (h : RowChange driver db d rows) : Framed driver db d.event rows := by
  cases h with
  | ignored | unlinked => exact .same
  | newTenant htype hobj hfields hrow =>
    exact .inserted htype hobj (checkoutFields_spec hfields).1 hrow rfl
  | @knownTenant obj fields loaded htype hobj hfields hrow =>
    obtain ⟨hnames, hcustomer, hsubscription⟩ := checkoutFields_spec hfields
    obtain ⟨hmem, htenant⟩ := Rows.find?_mem hrow
    refine .checkedOut htype hobj hnames htenant (changed_replace hmem rfl rfl) ?_ ?_
    · intro hlacks
      rw [CheckoutFields.onto, optionalText_of_lacks hlacks hcustomer, Option.none_or]
    · intro hlacks
      rw [CheckoutFields.onto, optionalText_of_lacks hlacks hsubscription, Option.none_or]
  | updated htype hobj hrow hplan =>
    refine .updated htype hobj (linkedTo_of_linkedSubscription hrow)
      (changed_replace (linkedSubscription_mem hrow) rfl rfl) ⟨rfl, rfl⟩ fun hunknown => ?_
    rw [pricedPlan_of_unknownPrice hunknown hplan]
    rfl
  | deleted htype hobj hrow =>
    exact .deleted htype hobj (linkedTo_of_linkedSubscription hrow)
      (changed_replace (linkedSubscription_mem hrow) rfl rfl) ⟨rfl, rfl⟩ rfl

/-- The event is of one of the three types that are handled. -/
def HandledType (event : StripeEvent) : Prop :=
  event.type = "checkout.session.completed" ∨ event.type = "customer.subscription.updated" ∨
    event.type = "customer.subscription.deleted"

namespace Framed

variable {rows : List Subscription}

/-- An event of another type changes no subscription. -/
theorem of_otherType (h : Framed driver db event rows) (htype : ¬ HandledType event) :
    rows = db.subscriptions := by
  cases h with
  | same => rfl
  | inserted htype' | checkedOut htype' => exact absurd (.inl htype') htype
  | updated htype' => exact absurd (.inr (.inl htype')) htype
  | deleted htype' => exact absurd (.inr (.inr htype')) htype

/-- Nor does a subscription event about an object that no row is linked to. -/
theorem of_unlinked (h : Framed driver db event rows)
    (htype : event.type = "customer.subscription.updated" ∨
      event.type = "customer.subscription.deleted")
    (hobj : event.data.getItem "object" = .ok obj)
    (hunlinked : ∀ row ∈ db.subscriptions, ¬ LinkedTo driver obj row) :
    rows = db.subscriptions := by
  cases h with
  | same => rfl
  | inserted htype' | checkedOut htype' =>
    rcases htype with htype | htype <;> rw [htype] at htype' <;> simp at htype'
  | updated _ hobj' hlinked hchanged | deleted _ hobj' hlinked hchanged =>
    rw [hobj] at hobj'
    cases hobj'
    exact absurd hlinked (hunlinked _ hchanged.old_mem)

end Framed

/-- What a call may do to the tables. -/
structure WithinFrame (driver : Driver) (db : Database) (event : StripeEvent) (db' : Database) :
    Prop where
  tenants : db'.tenants = db.tenants
  plans : db'.plans = db.plans
  usageEvents : db'.usageEvents = db.usageEvents
  invoices : db'.invoices = db.invoices
  subscriptions : Framed driver db event db'.subscriptions
  otherType : ¬ HandledType event → db'.subscriptions = db.subscriptions
  unlinked : (event.type = "customer.subscription.updated" ∨
      event.type = "customer.subscription.deleted") →
    ∀ obj, event.data.getItem "object" = .ok obj →
      (∀ row ∈ db.subscriptions, ¬ LinkedTo driver obj row) →
      db'.subscriptions = db.subscriptions

theorem withinFrame_of_framed {db' : Database} (htables : db'.tenants = db.tenants ∧
      db'.plans = db.plans ∧ db'.usageEvents = db.usageEvents ∧ db'.invoices = db.invoices)
    (h : Framed driver db event db'.subscriptions) : WithinFrame driver db event db' where
  tenants := htables.1
  plans := htables.2.1
  usageEvents := htables.2.2.1
  invoices := htables.2.2.2
  subscriptions := h
  otherType := h.of_otherType
  unlinked := fun htype _ hobj hunlinked => h.of_unlinked htype hobj hunlinked

/-- **The frame of `handle_webhook`**: of every event in every database, whether
    the call returns or raises. -/
theorem webhook_frame (driver : Driver) (db : Database) (event : StripeEvent) (ids : NewIds)
    (now : DateTime) :
    WithinFrame driver db event (handleWebhook driver db event ids now).1 := by
  let d : Delivery := ⟨event, ids, now⟩
  change WithinFrame driver db event (deliver driver db d).1
  by_cases hhandled : Handled driver db d
  · obtain ⟨hchange, htables⟩ := rowChange_of_handled hhandled
    have htenants := congrArg Tables.tenants htables
    have hplans := congrArg Tables.plans htables
    have husageEvents := congrArg Tables.usageEvents htables
    have hinvoices := congrArg Tables.invoices htables
    exact withinFrame_of_framed ⟨htenants, hplans, husageEvents, hinvoices⟩
      (framed_of_rowChange hchange)
  · rw [deliver_of_not_handled hhandled]
    exact withinFrame_of_framed ⟨rfl, rfl, rfl, rfl⟩ .same

end Frame

end Webhooks

end BillingEngine
