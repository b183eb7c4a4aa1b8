import BillingEngine.Api.Router
import BillingEngine.Tenancy.Views

/-!
# What a call of a tenant writes

A call that is made for a tenant writes a usage event or an invoice of one of its
subscriptions, or a subscription of its own together with the marker of an event. The
tenants share three name spaces: the idempotency keys, the ids of Stripe's events and
the ids of Stripe's subscriptions. As long as no two tenants use the same name, a write
for one tenant leaves every row of the others alone.

Results:
* `writeOf_processEvent`: what a webhook leaves pending is a write for the tenant whose
  event it is.
* `Write.Of.others`: the view of the other tenants after a write.
* `Write.Of.own`: two databases in which a tenant sees the same, after the same write.
* `commit_agree`: one of them accepts a write exactly if the other one does.
-/

namespace BillingEngine

open StripeService SubscriptionRepository

namespace Tenancy

/-! ## Names -/

/-- Which tenant uses a name. -/
structure Names where
  ofKey : String → Uuid
  ofEvent : String → Uuid
  ofStripeSubscription : String → Uuid

/-- The stored names are used by the tenants whose rows they are in. -/
structure Named (names : Names) (db : Database) : Prop where
  keys : ∀ e ∈ db.usageEvents, Owns db (names.ofKey e.idempotencyKey) e.subscriptionId
  links : ∀ row ∈ db.subscriptions, ∀ stripeId ∈ row.stripeSubscriptionId,
    names.ofStripeSubscription stripeId = row.tenantId

/-- The event is about the tenant whose id it has: a checkout names this tenant and a
    Stripe subscription of it, and the other events are about one of these. -/
structure EventOf (names : Names) (driver : Driver) (event : StripeEvent) : Prop where
  checkout : ∀ {obj : Json} {fields : CheckoutFields}, event.type = "checkout.session.completed" →
    event.data.getItem "object" = .ok obj → checkoutFields driver obj = .ok fields →
    fields.tenantId = names.ofEvent event.id ∧
      ∀ stripeId ∈ fields.subscription,
        names.ofStripeSubscription stripeId = names.ofEvent event.id
  subscription : ∀ {obj v : Json} {stripeId : String},
    event.type = "customer.subscription.updated" ∨ event.type = "customer.subscription.deleted" →
    event.data.getItem "object" = .ok obj → obj.get "id" = .ok v → v.truthy = true →
    driver.bindText v = .ok stripeId →
    names.ofStripeSubscription stripeId = names.ofEvent event.id

/-! ## Rows of a tenant -/

/-- The rows of the tenant. -/
def rowsOf (tenantId : Uuid) (rows : List Subscription) : List Subscription :=
  rows.filter fun s => decide (s.tenantId = tenantId)

/-- The rows of all other tenants. -/
def rowsOfOthers (tenantId : Uuid) (rows : List Subscription) : List Subscription :=
  rows.filter fun s => !decide (s.tenantId = tenantId)

theorem mem_rowsOf {tenantId : Uuid} {rows : List Subscription} {s : Subscription} :
    s ∈ rowsOf tenantId rows ↔ s ∈ rows ∧ s.tenantId = tenantId := by
  simp [rowsOf]

theorem mem_rowsOfOthers {tenantId : Uuid} {rows : List Subscription} {s : Subscription} :
    s ∈ rowsOfOthers tenantId rows ↔ s ∈ rows ∧ s.tenantId ≠ tenantId := by
  simp [rowsOfOthers]

/-- The rows of one tenant are among those that are not of another one. -/
theorem rowsOf_rowsOfOthers {tenantId other : Uuid} (hne : other ≠ tenantId)
    (rows : List Subscription) : rowsOf other (rowsOfOthers tenantId rows) = rowsOf other rows := by
  refine Rows.filter_filter_of_imp fun s _ hs => ?_
  rw [decide_eq_true_eq] at hs
  simp [hs, hne]

/-! ## Writes to `subscriptions` -/

section Pending

variable {names : Names} {driver : Driver} {db : Database} {tenantId id : Uuid} {now : DateTime}
  {pending : PendingWrite}

/-- The pending write is for a row of the tenant. -/
inductive WriteOf (names : Names) (db : Database) (tenantId : Uuid) : PendingWrite → Prop
  | none : WriteOf names db tenantId .none
  | insert {planId : Uuid} {status : SubscriptionStatus} {customer link : Option String}
      (hlink : ∀ stripeId ∈ link, names.ofStripeSubscription stripeId = tenantId) :
      WriteOf names db tenantId (.insert tenantId planId status customer link)
  | update {id : Uuid} {patch : SubscriptionPatch} (howns : Owns db tenantId id)
      (hlink : ∀ stripeId ∈ patch.stripeSubscriptionId,
        names.ofStripeSubscription stripeId = tenantId) :
      WriteOf names db tenantId (.update id patch)

/-- A row with the key of an owned one is owned. -/
theorem Owns.tenantId_eq {row : Subscription} (h : Owns db tenantId id)
    (hrow : row ∈ db.subscriptions) (hid : row.id = id) : row.tenantId = tenantId :=
  Owns.unique ⟨row, hrow, hid, rfl⟩ h

/-- **The rows of the tenant** after the write. -/
theorem WriteOf.rowsOf (h : WriteOf names db tenantId pending) (rows : List Subscription) :
    rowsOf tenantId (pending.applyTo id now rows) =
      pending.applyTo id now (rowsOf tenantId rows) := by
  cases h with
  | none => rfl
  | insert => simp [Tenancy.rowsOf, PendingWrite.applyTo]
  | update =>
    simp only [Tenancy.rowsOf, PendingWrite.applyTo, List.filter_map]
    congr 1
    refine List.filter_congr fun s _ => ?_
    simp only [Function.comp_apply]
    split_ifs <;> rfl

/-- **The rows of the others** stay. -/
theorem WriteOf.rowsOfOthers (h : WriteOf names db tenantId pending) :
    rowsOfOthers tenantId (pending.applyTo id now db.subscriptions) =
      rowsOfOthers tenantId db.subscriptions := by
  cases h with
  | none => rfl
  | insert => simp [Tenancy.rowsOfOthers, PendingWrite.applyTo]
  | @update id patch howns =>
    simp only [Tenancy.rowsOfOthers, PendingWrite.applyTo, List.filter_map]
    have hsame : db.subscriptions.filter ((fun s => !decide (s.tenantId = tenantId)) ∘
        fun s => if s.id = id then patch.apply s else s) =
        db.subscriptions.filter fun s => !decide (s.tenantId = tenantId) := by
      refine List.filter_congr fun s _ => ?_
      simp only [Function.comp_apply]
      split_ifs <;> rfl
    rw [hsame]
    refine (List.map_congr_left fun s hs => if_neg fun hid => ?_).trans (List.map_id _)
    obtain ⟨hs, hother⟩ := mem_rowsOfOthers.mp hs
    exact hother (howns.tenantId_eq hs hid)

/-- The links of the rows after the write are named. -/
theorem WriteOf.links (h : WriteOf names db tenantId pending) (hnamed : Named names db) :
    ∀ row ∈ pending.applyTo id now db.subscriptions, ∀ stripeId ∈ row.stripeSubscriptionId,
      names.ofStripeSubscription stripeId = row.tenantId := by
  intro row hrow stripeId hlinked
  cases h with
  | none => exact hnamed.links row hrow stripeId hlinked
  | insert hlink =>
    rcases List.mem_append.mp hrow with hrow | hrow
    · exact hnamed.links row hrow stripeId hlinked
    · obtain rfl := List.mem_singleton.mp hrow
      exact hlink stripeId hlinked
  | @update id patch howns hlink =>
    obtain ⟨old, hold, rfl⟩ := List.mem_map.mp hrow
    split_ifs at hlinked ⊢ with hid
    · have htenant := howns.tenantId_eq hold hid
      rw [SubscriptionPatch.apply_tenantId, htenant]
      cases hpatch : patch.stripeSubscriptionId with
      | some text =>
        simp only [SubscriptionPatch.apply, hpatch, Option.some_or, Option.mem_some_iff] at hlinked
        exact hlinked ▸ hlink text hpatch
      | none =>
        simp only [SubscriptionPatch.apply, hpatch, Option.none_or] at hlinked
        exact htenant ▸ hnamed.links old hold stripeId hlinked
    · exact hnamed.links old hold stripeId hlinked

/-- What is linked to an id is the tenant's who uses it. -/
theorem owns_of_linkedSubscription {obj : Json} {loaded : Subscription} (hnamed : Named names db)
    (hid : ∀ v stripeId, obj.get "id" = .ok v → v.truthy = true →
      driver.bindText v = .ok stripeId → names.ofStripeSubscription stripeId = tenantId)
    (h : linkedSubscription driver db obj = .ok (some loaded)) : Owns db tenantId loaded.id := by
  unfold linkedSubscription at h
  obtain ⟨v, hv, h⟩ := bind_eq_ok.mp h
  split_ifs at h with htruthy
  · obtain ⟨text, htext, h⟩ := bind_eq_ok.mp h
    obtain ⟨hmem, hlinked⟩ := getByStripeSubscriptionId_eq_some_iff.mp (Except.ok.inj h)
    refine ⟨loaded, hmem, rfl, ?_⟩
    rw [← hnamed.links loaded hmem text hlinked, hid v text hv htruthy htext]
  · cases h

/-- Only a new status and a new plan are written, so no link. -/
theorem writeOf_status {loaded object : Subscription} (howns : Owns db tenantId loaded.id)
    (hlink : object.stripeSubscriptionId = loaded.stripeSubscriptionId) :
    WriteOf names db tenantId (.update loaded.id (.diff loaded object)) := by
  refine .update howns fun stripeId h => ?_
  simp [SubscriptionPatch.diff, hlink] at h

/-- **What a webhook leaves pending.** -/
theorem writeOf_processEvent {event : StripeEvent} (hnamed : Named names db)
    (hevent : EventOf names driver event) (h : processEvent driver db event = .ok pending) :
    WriteOf names db (names.ofEvent event.id) pending := by
  unfold processEvent at h
  obtain ⟨obj, hobj, h⟩ := bind_eq_ok.mp h
  split_ifs at h with hcheckout hupdated hdeleted
  · obtain ⟨fields, hfields, rfl⟩ := syncFromCheckout_ok.mp h
    obtain ⟨htenant, hlink⟩ := hevent.checkout hcheckout hobj hfields
    cases hrow : getByTenant db fields.tenantId with
    | none =>
      rw [CheckoutFields.write, htenant]
      exact .insert hlink
    | some loaded =>
      obtain ⟨hmem, hloaded⟩ := Rows.find?_mem hrow
      refine .update ⟨loaded, hmem, rfl, hloaded.trans htenant⟩ fun stripeId hwritten => ?_
      -- a link is only written when the session has one
      cases hsub : fields.subscription with
      | some text =>
        simp only [SubscriptionPatch.diff, CheckoutFields.onto, hsub, Option.some_or] at hwritten
        split_ifs at hwritten
        · cases hwritten
        · obtain rfl := Option.some.inj hwritten
          exact hlink text hsub
      | none =>
        simp [SubscriptionPatch.diff, CheckoutFields.onto, hsub] at hwritten
  · rcases syncSubscriptionStatus_ok h with ⟨-, rfl⟩ | ⟨loaded, plan, hrow, -, rfl⟩
    · exact .none
    · exact writeOf_status (owns_of_linkedSubscription hnamed
        (fun v stripeId => hevent.subscription (.inl hupdated) hobj) hrow) rfl
  · rcases cancelSubscription_ok h with ⟨-, rfl⟩ | ⟨loaded, hrow, rfl⟩
    · exact .none
    · exact writeOf_status (owns_of_linkedSubscription hnamed
        (fun v stripeId => hevent.subscription (.inr hdeleted) hobj) hrow) rfl
  · cases h
    exact .none

end Pending

/-! ## What a tenant sees -/

/-- The tenant sees the same: the same rows, the same tenants, and of its events the
    same ones processed. -/
structure SameView (names : Names) (tenantId : Uuid) (db₁ db₂ : Database) : Prop
    extends Agree tenantId db₁ db₂ where
  tenants : db₁.tenants = db₂.tenants
  processed : ∀ eventId, names.ofEvent eventId = tenantId →
    (eventId ∈ db₁.webhookEvents.map WebhookEvent.eventId ↔
      eventId ∈ db₂.webhookEvents.map WebhookEvent.eventId)

section View

variable {names : Names} {driver : Driver} {tenantId : Uuid} {db₁ db₂ : Database}

theorem WriteOf.congr {pending : PendingWrite} (h : WriteOf names db₁ tenantId pending)
    (hview : SameView names tenantId db₁ db₂) : WriteOf names db₂ tenantId pending := by
  cases h with
  | none => exact .none
  | insert hlink => exact .insert hlink
  | update howns hlink => exact .update (hview.owns.mp howns) hlink

theorem SameView.rowsOf_eq (h : SameView names tenantId db₁ db₂) :
    rowsOf tenantId db₁.subscriptions = rowsOf tenantId db₂.subscriptions := h.subscriptions

theorem SameView.getByTenant (h : SameView names tenantId db₁ db₂) :
    getByTenant db₁ tenantId = getByTenant db₂ tenantId := by
  have hown : ∀ db : Database, (rowsOf tenantId db.subscriptions).find?
      (fun s => decide (s.tenantId = tenantId)) = SubscriptionRepository.getByTenant db tenantId :=
    fun db => Rows.find?_filter_of_imp fun _ _ hs => hs
  rw [← hown, ← hown, h.rowsOf_eq]

/-- A link that the tenant uses is found among its rows. -/
theorem SameView.getByStripeSubscriptionId (h : SameView names tenantId db₁ db₂)
    (hnamed₁ : Named names db₁) (hnamed₂ : Named names db₂) {stripeId : String}
    (hstripe : names.ofStripeSubscription stripeId = tenantId) :
    getByStripeSubscriptionId db₁ stripeId = getByStripeSubscriptionId db₂ stripeId := by
  have hown : ∀ db, Named names db → (rowsOf tenantId db.subscriptions).find?
      (fun s => decide (s.stripeSubscriptionId = some stripeId)) =
        SubscriptionRepository.getByStripeSubscriptionId db stripeId :=
    fun db hnamed => Rows.find?_filter_of_imp fun s hs hlinked => by
      rw [decide_eq_true_eq] at hlinked ⊢
      exact (hnamed.links s hs stripeId hlinked).symm.trans hstripe
  rw [← hown _ hnamed₁, ← hown _ hnamed₂, h.rowsOf_eq]

theorem SameView.linkedSubscription (h : SameView names tenantId db₁ db₂)
    (hnamed₁ : Named names db₁) (hnamed₂ : Named names db₂) {obj : Json}
    (hid : ∀ v stripeId, obj.get "id" = .ok v → v.truthy = true →
      driver.bindText v = .ok stripeId → names.ofStripeSubscription stripeId = tenantId) :
    linkedSubscription driver db₁ obj = linkedSubscription driver db₂ obj := by
  unfold StripeService.linkedSubscription
  cases hv : obj.get "id" with
  | error exn => rfl
  | ok v =>
    simp only [bind, Except.bind]
    split_ifs with htruthy
    · cases htext : driver.bindText v with
      | error exn => rfl
      | ok text =>
        simp only [h.getByStripeSubscriptionId hnamed₁ hnamed₂ (hid v text hv htruthy htext)]
    · rfl

/-- **The handlers read only what the tenant sees.** -/
theorem SameView.processEvent (h : SameView names tenantId db₁ db₂) (hnamed₁ : Named names db₁)
    (hnamed₂ : Named names db₂) {event : StripeEvent} (hevent : EventOf names driver event)
    (htenant : names.ofEvent event.id = tenantId) :
    processEvent driver db₁ event = processEvent driver db₂ event := by
  subst htenant
  unfold StripeService.processEvent
  cases hobj : event.data.getItem "object" with
  | error exn => rfl
  | ok obj =>
    simp only [bind, Except.bind]
    split_ifs with hcheckout hupdated hdeleted
    · rw [syncFromCheckout_eq, syncFromCheckout_eq]
      cases hfields : checkoutFields driver obj with
      | error exn => rfl
      | ok fields =>
        rw [Except.map_ok, Except.map_ok, (hevent.checkout hcheckout hobj hfields).1, h.getByTenant]
    · have hlinked : StripeService.linkedSubscription driver db₁ obj =
          StripeService.linkedSubscription driver db₂ obj :=
        h.linkedSubscription hnamed₁ hnamed₂ fun v stripeId =>
          hevent.subscription (.inl hupdated) hobj
      simp only [syncSubscriptionStatus, hlinked, PlanRepository.getByStripePriceId, h.plans]
    · have hlinked : StripeService.linkedSubscription driver db₁ obj =
          StripeService.linkedSubscription driver db₂ obj :=
        h.linkedSubscription hnamed₁ hnamed₂ fun v stripeId =>
          hevent.subscription (.inr hdeleted) hobj
      simp only [cancelSubscription, hlinked]
    · rfl

end View

/-! ## Writes -/

/-- What one call for a tenant writes. -/
inductive Write where
  | nothing
  | event (row : UsageEvent)
  | invoice (row : Invoice)
  | subscription (pending : PendingWrite) (id : Uuid) (now : DateTime)
      (markers : List WebhookEvent)

/-- The tables after the write. -/
def Write.applyTo (db : Database) : Write → Tables
  | nothing => db.toTables
  | event row => { db.toTables with usageEvents := db.usageEvents ++ [row] }
  | invoice row => { db.toTables with invoices := db.invoices ++ [row] }
  | subscription pending id now markers => { db.toTables with
      webhookEvents := db.webhookEvents ++ markers
      subscriptions := pending.applyTo id now db.subscriptions }

/-- The write is for the tenant, and its new keys are among the drawn ones. -/
inductive Write.Of (names : Names) (tenantId : Uuid) (drawn : List Uuid) (db : Database) :
    Write → Prop
  | nothing : Of names tenantId drawn db .nothing
  | event {row : UsageEvent} (hid : row.id ∈ drawn) (howns : Owns db tenantId row.subscriptionId)
      (hkey : names.ofKey row.idempotencyKey = tenantId) : Of names tenantId drawn db (.event row)
  | invoice {row : Invoice} (hid : row.id ∈ drawn) (howns : Owns db tenantId row.subscriptionId) :
      Of names tenantId drawn db (.invoice row)
  | subscription {pending : PendingWrite} {id : Uuid} {now : DateTime}
      {markers : List WebhookEvent} (hid : id ∈ drawn)
      (hpending : WriteOf names db tenantId pending)
      (hmarkers : ∀ m ∈ markers, m.id ∈ drawn ∧ names.ofEvent m.eventId = tenantId) :
      Of names tenantId drawn db (.subscription pending id now markers)

section Writes

variable {names : Names} {tenantId other : Uuid} {drawn : List Uuid} {db db' db₁ db₂ : Database}
  {write : Write}

/-- An owner is seen by the others in the same rows. -/
theorem owns_iff_rowsOf {sid : Uuid} : Owns db tenantId sid ↔
    sid ∈ (rowsOf tenantId db.subscriptions).map Subscription.id := owns_iff_ownSubscriptions

/-- Rows that a tenant does not own are not in its view. -/
theorem filter_owns_concat {ρ : Type} {fkey : ρ → Uuid} {rows : List ρ} {row : ρ}
    (howns : Owns db other (fkey row)) (hne : tenantId ≠ other) :
    (rows ++ [row]).filter (fun r => decide (Owns db tenantId (fkey r))) =
      rows.filter fun r => decide (Owns db tenantId (fkey r)) := by
  have hnot : ¬ Owns db tenantId (fkey row) := fun h => hne (h.unique howns)
  simp [List.filter_append, hnot]

/-- With the same rows of `subscriptions`, a tenant owns the same. -/
theorem agree_of_rowsOf (hplans : db'.plans = db.plans)
    (hrows : rowsOf tenantId db'.subscriptions = rowsOf tenantId db.subscriptions)
    (hevents : db'.usageEvents = db.usageEvents) (hinvoices : db'.invoices = db.invoices) :
    Agree tenantId db db' := by
  have howns : ∀ sid, Owns db' tenantId sid ↔ Owns db tenantId sid := fun sid => by
    rw [owns_iff_rowsOf, owns_iff_rowsOf, hrows]
  refine ⟨hplans.symm, hrows.symm, ?_, ?_⟩
  · simp only [ownEvents, hevents, howns]
  · simp only [ownInvoices, hinvoices, howns]

/-- **A write for another tenant is not seen.** -/
theorem Write.Of.others (h : write.Of names other drawn db) (ht : db'.toTables = write.applyTo db)
    (hne : tenantId ≠ other) : SameView names tenantId db db' := by
  cases h with
  | nothing =>
    obtain rfl := Database.ext ht
    exact ⟨⟨rfl, rfl, rfl, rfl⟩, rfl, fun _ _ => Iff.rfl⟩
  | @event row _ howns =>
    have hs : db'.subscriptions = db.subscriptions := by rw [ht]; rfl
    have he : db'.usageEvents = db.usageEvents ++ [row] := by rw [ht]; rfl
    have hi : db'.invoices = db.invoices := by rw [ht]; rfl
    refine ⟨⟨by rw [ht]; rfl, (ownSubscriptions_congr hs).symm, ?_, (ownInvoices_congr hs hi).symm⟩,
      by rw [ht]; rfl, fun _ _ => by rw [ht]; rfl⟩
    simp only [ownEvents, he, owns_congr hs]
    exact (filter_owns_concat howns hne).symm
  | @invoice row _ howns =>
    have hs : db'.subscriptions = db.subscriptions := by rw [ht]; rfl
    have he : db'.usageEvents = db.usageEvents := by rw [ht]; rfl
    have hi : db'.invoices = db.invoices ++ [row] := by rw [ht]; rfl
    refine ⟨⟨by rw [ht]; rfl, (ownSubscriptions_congr hs).symm, (ownEvents_congr hs he).symm, ?_⟩,
      by rw [ht]; rfl, fun _ _ => by rw [ht]; rfl⟩
    simp only [ownInvoices, hi, owns_congr hs]
    exact (filter_owns_concat howns hne).symm
  | @subscription pending id now markers _ hpending hmarkers =>
    have hs : db'.subscriptions = pending.applyTo id now db.subscriptions := by rw [ht]; rfl
    have hrows : rowsOf tenantId db'.subscriptions = rowsOf tenantId db.subscriptions := by
      rw [hs, ← rowsOf_rowsOfOthers hne, hpending.rowsOfOthers, rowsOf_rowsOfOthers hne]
    refine ⟨agree_of_rowsOf (by rw [ht]; rfl) hrows (by rw [ht]; rfl) (by rw [ht]; rfl),
      by rw [ht]; rfl, fun eventId hevent => ?_⟩
    have hw : db'.webhookEvents = db.webhookEvents ++ markers := by rw [ht]; rfl
    rw [hw, List.map_append, List.mem_append, or_iff_left]
    intro hmem
    obtain ⟨m, hm, rfl⟩ := List.mem_map.mp hmem
    exact hne (hevent.symm.trans (hmarkers m hm).2)

/-- What a tenant owns stays its own when keys and tenants of rows stay. -/
theorem WriteOf.owners {pending : PendingWrite} {id : Uuid} {now : DateTime}
    (hpending : WriteOf names db tenantId pending)
    (hs : db'.subscriptions = pending.applyTo id now db.subscriptions) :
    db.owners <+: db'.owners := by
  simp only [Database.owners, hs]
  cases hpending with
  | none => exact List.prefix_rfl
  | insert => simp [PendingWrite.applyTo]
  | update =>
    rw [PendingWrite.applyTo, Rows.map_map_of_eq]
    intro row
    split_ifs <;> rfl

/-- The owner of a subscription that exists stays. -/
theorem owns_iff_of_owners {sid : Uuid} (howners : db.owners <+: db'.owners)
    (hsid : sid ∈ db.subscriptions.map Subscription.id) :
    Owns db' tenantId sid ↔ Owns db tenantId sid := by
  constructor
  · intro h
    obtain ⟨tenant, -, howns⟩ := exists_owner hsid
    rwa [h.unique (howns.mono howners)]
  · exact Owns.mono howners

theorem ownEvents_of_owners (howners : db.owners <+: db'.owners)
    (he : db'.usageEvents = db.usageEvents) : ownEvents db' tenantId = ownEvents db tenantId := by
  rw [ownEvents, ownEvents, he]
  exact List.filter_congr fun e hmem => decide_eq_decide.mpr
    (owns_iff_of_owners howners (db.constraints.usage_subscription_fkey e hmem))

theorem ownInvoices_of_owners (howners : db.owners <+: db'.owners)
    (hi : db'.invoices = db.invoices) : ownInvoices db' tenantId = ownInvoices db tenantId := by
  rw [ownInvoices, ownInvoices, hi]
  exact List.filter_congr fun i hmem => decide_eq_decide.mpr
    (owns_iff_of_owners howners (db.constraints.invoices_subscription_fkey i hmem))

/-- **The names stay apart.** -/
theorem Write.Of.named (h : write.Of names tenantId drawn db)
    (ht : db'.toTables = write.applyTo db) (hnamed : Named names db) : Named names db' := by
  cases h with
  | nothing =>
    obtain rfl := Database.ext ht
    exact hnamed
  | @event row _ howns hkey =>
    have hs : db'.subscriptions = db.subscriptions := by rw [ht]; rfl
    have he : db'.usageEvents = db.usageEvents ++ [row] := by rw [ht]; rfl
    refine ⟨fun e hmem => ?_, hs ▸ hnamed.links⟩
    rw [owns_congr hs]
    rw [he, List.mem_append, List.mem_singleton] at hmem
    rcases hmem with hmem | rfl
    · exact hnamed.keys e hmem
    · rw [hkey]
      exact howns
  | invoice =>
    have hs : db'.subscriptions = db.subscriptions := by rw [ht]; rfl
    have he : db'.usageEvents = db.usageEvents := by rw [ht]; rfl
    refine ⟨fun e hmem => ?_, hs ▸ hnamed.links⟩
    rw [owns_congr hs]
    exact hnamed.keys e (he ▸ hmem)
  | subscription _ hpending =>
    have hs := congrArg Tables.subscriptions ht
    have he : db'.usageEvents = db.usageEvents := by rw [ht]; rfl
    refine ⟨fun e hmem => ?_, ?_⟩
    · exact (hnamed.keys e (he ▸ hmem)).mono (hpending.owners hs)
    · rw [hs]
      exact hpending.links hnamed

/-- **New keys are drawn ones.** -/
theorem Write.Of.ids (h : write.Of names tenantId drawn db) (ht : db'.toTables = write.applyTo db) :
    db'.ids ⊆ drawn ++ db.ids := by
  intro key hkey
  rw [List.mem_append, or_iff_not_imp_left]
  intro hnew
  cases h with
  | nothing =>
    obtain rfl := Database.ext ht
    exact hkey
  | event hid =>
    simp only [Database.ids, ht, Write.applyTo, List.map_append, List.mem_append,
      List.map_singleton, List.mem_singleton] at hkey ⊢
    have : key ≠ _ := fun heq => hnew (heq ▸ hid)
    tauto
  | invoice hid =>
    simp only [Database.ids, ht, Write.applyTo, List.map_append, List.mem_append,
      List.map_singleton, List.mem_singleton] at hkey ⊢
    have : key ≠ _ := fun heq => hnew (heq ▸ hid)
    tauto
  | @subscription pending id now markers hid hpending hmarkers =>
    have hrows : key ∈ (pending.applyTo id now db.subscriptions).map Subscription.id →
        key ∈ db.subscriptions.map Subscription.id := by
      cases hpending with
      | none => exact fun hmem => hmem
      | insert =>
        intro hmem
        rw [PendingWrite.applyTo, List.map_append, List.mem_append, List.map_singleton,
          List.mem_singleton] at hmem
        exact hmem.resolve_right fun heq => hnew (heq ▸ hid)
      | update =>
        rw [PendingWrite.applyTo, Rows.map_map_of_eq]
        · exact fun hmem => hmem
        · intro row
          split_ifs <;> rfl
    have hmarks : key ∉ markers.map WebhookEvent.id := fun hmem => by
      obtain ⟨m, hm, rfl⟩ := List.mem_map.mp hmem
      exact hnew (hmarkers m hm).1
    simp only [Database.ids, ht, Write.applyTo, List.map_append, List.mem_append] at hkey ⊢
    tauto

theorem Write.Of.congr (h : write.Of names tenantId drawn db₁)
    (hview : SameView names tenantId db₁ db₂) : write.Of names tenantId drawn db₂ := by
  cases h with
  | nothing => exact .nothing
  | event hid howns hkey => exact .event hid (hview.owns.mp howns) hkey
  | invoice hid howns => exact .invoice hid (hview.owns.mp howns)
  | subscription hid hpending hmarkers => exact .subscription hid (hpending.congr hview) hmarkers

/-- **The same write** in two databases in which the tenant sees the same. -/
theorem Write.Of.own {db₁' db₂' : Database} (h : write.Of names tenantId drawn db₁)
    (hview : SameView names tenantId db₁ db₂) (ht₁ : db₁'.toTables = write.applyTo db₁)
    (ht₂ : db₂'.toTables = write.applyTo db₂) : SameView names tenantId db₁' db₂' := by
  cases h with
  | nothing =>
    obtain rfl := Database.ext ht₁
    obtain rfl := Database.ext ht₂
    exact hview
  | @event row _ howns =>
    have hs₁ : db₁'.subscriptions = db₁.subscriptions := by rw [ht₁]; rfl
    have hs₂ : db₂'.subscriptions = db₂.subscriptions := by rw [ht₂]; rfl
    refine ⟨⟨by rw [ht₁, ht₂]; exact hview.plans, ?_, ?_, ?_⟩,
      by rw [ht₁, ht₂]; exact hview.tenants, by rw [ht₁, ht₂]; exact hview.processed⟩
    · rw [ownSubscriptions_congr hs₁, ownSubscriptions_congr hs₂, hview.subscriptions]
    · rw [ownEvents_concat hs₁ (by rw [ht₁]; rfl) howns,
        ownEvents_concat hs₂ (by rw [ht₂]; rfl) (hview.owns.mp howns), hview.usageEvents]
    · rw [ownInvoices_congr hs₁ (by rw [ht₁]; rfl), ownInvoices_congr hs₂ (by rw [ht₂]; rfl),
        hview.invoices]
  | @invoice row _ howns =>
    have hs₁ : db₁'.subscriptions = db₁.subscriptions := by rw [ht₁]; rfl
    have hs₂ : db₂'.subscriptions = db₂.subscriptions := by rw [ht₂]; rfl
    refine ⟨⟨by rw [ht₁, ht₂]; exact hview.plans, ?_, ?_, ?_⟩,
      by rw [ht₁, ht₂]; exact hview.tenants, by rw [ht₁, ht₂]; exact hview.processed⟩
    · rw [ownSubscriptions_congr hs₁, ownSubscriptions_congr hs₂, hview.subscriptions]
    · rw [ownEvents_congr hs₁ (by rw [ht₁]; rfl), ownEvents_congr hs₂ (by rw [ht₂]; rfl),
        hview.usageEvents]
    · rw [ownInvoices_concat hs₁ (by rw [ht₁]; rfl) howns,
        ownInvoices_concat hs₂ (by rw [ht₂]; rfl) (hview.owns.mp howns), hview.invoices]
  | @subscription pending id now markers _ hpending =>
    have hpending₂ := hpending.congr hview
    have hs₁ := congrArg Tables.subscriptions ht₁
    have hs₂ := congrArg Tables.subscriptions ht₂
    have howners₁ := hpending.owners hs₁
    have howners₂ := hpending₂.owners hs₂
    refine ⟨⟨by rw [ht₁, ht₂]; exact hview.plans, ?_, ?_, ?_⟩,
      by rw [ht₁, ht₂]; exact hview.tenants, fun eventId hevent => ?_⟩
    · change rowsOf tenantId db₁'.subscriptions = rowsOf tenantId db₂'.subscriptions
      rw [hs₁, hs₂]
      exact (hpending.rowsOf _).trans (hview.rowsOf_eq ▸ (hpending₂.rowsOf _).symm)
    · rw [ownEvents_of_owners howners₁ (by rw [ht₁]; rfl),
        ownEvents_of_owners howners₂ (by rw [ht₂]; rfl), hview.usageEvents]
    · rw [ownInvoices_of_owners howners₁ (by rw [ht₁]; rfl),
        ownInvoices_of_owners howners₂ (by rw [ht₂]; rfl), hview.invoices]
    · have hw₁ : db₁'.webhookEvents = db₁.webhookEvents ++ markers := by rw [ht₁]; rfl
      have hw₂ : db₂'.webhookEvents = db₂.webhookEvents ++ markers := by rw [ht₂]; rfl
      rw [hw₁, hw₂, List.map_append, List.map_append, List.mem_append, List.mem_append,
        hview.processed eventId hevent]

/-! ### Accepted or not -/

/-- What the database asks of the rows of `subscriptions` beyond new keys. -/
structure Acceptable (t : Tables) (rows : List Subscription) : Prop where
  tenants : ∀ row ∈ rows, row.tenantId ∈ t.tenants.map Tenant.id
  plans : ∀ row ∈ rows, row.planId ∈ t.plans.map Plan.id
  links : (rows.filterMap Subscription.stripeSubscriptionId).Nodup

variable {pending : PendingWrite} {id : Uuid} {now : DateTime} {markers : List WebhookEvent}

theorem WriteOf.nodup_ids (h : WriteOf names db tenantId pending)
    (hid : id ∉ db.subscriptions.map Subscription.id) (now : DateTime) :
    ((pending.applyTo id now db.subscriptions).map Subscription.id).Nodup := by
  have hu := db.constraints.subscriptions_pkey
  cases h with
  | none => exact hu
  | insert => exact nodup_map_concat.mpr ⟨hu, hid⟩
  | update =>
    rw [PendingWrite.applyTo, Rows.map_map_of_eq]
    · exact hu
    · intro row
      split_ifs <;> rfl

theorem constraints_subscription_iff (h : WriteOf names db tenantId pending)
    (hid : id ∉ db.subscriptions.map Subscription.id)
    (hmarker : ((db.webhookEvents ++ markers).map WebhookEvent.id).Nodup)
    (hevent : ((db.webhookEvents ++ markers).map WebhookEvent.eventId).Nodup) :
    ((Write.subscription pending id now markers).applyTo db).Constraints ↔
      Acceptable db.toTables (pending.applyTo id now db.subscriptions) := by
  constructor
  · intro hc
    exact ⟨hc.subscriptions_tenant_fkey, hc.subscriptions_plan_fkey, hc.subscriptions_stripe_id⟩
  · intro hc
    have hrows := db.constraints.setSubscriptions (h.nodup_ids hid now)
      (pending.map_id_grows id now db.subscriptions).subset hc.tenants hc.plans hc.links
    exact { hrows with webhook_pkey := hmarker, webhook_event_id := hevent }

/-- **Only the rows of the tenant decide**: the others are as they were, and no link of
    the tenant is one of theirs. -/
theorem acceptable_iff_rowsOf (h : WriteOf names db tenantId pending) (hnamed : Named names db) :
    Acceptable db.toTables (pending.applyTo id now db.subscriptions) ↔
      Acceptable db.toTables (rowsOf tenantId (pending.applyTo id now db.subscriptions)) := by
  have hothers : ∀ {row}, row ∈ pending.applyTo id now db.subscriptions →
      row.tenantId ≠ tenantId → row ∈ db.subscriptions := fun {row} hrow hne => by
    have hmem := mem_rowsOfOthers.mpr ⟨hrow, hne⟩
    rw [h.rowsOfOthers] at hmem
    exact (mem_rowsOfOthers.mp hmem).1
  constructor
  · rintro ⟨htenants, hplans, hlinks⟩
    refine ⟨fun row hrow => htenants row (mem_rowsOf.mp hrow).1,
      fun row hrow => hplans row (mem_rowsOf.mp hrow).1, ?_⟩
    exact hlinks.sublist (List.filter_sublist.filterMap _)
  · rintro ⟨htenants, hplans, hlinks⟩
    refine ⟨fun row hrow => ?_, fun row hrow => ?_, ?_⟩
    · by_cases howner : row.tenantId = tenantId
      · exact htenants row (mem_rowsOf.mpr ⟨hrow, howner⟩)
      · exact db.constraints.subscriptions_tenant_fkey row (hothers hrow howner)
    · by_cases howner : row.tenantId = tenantId
      · exact hplans row (mem_rowsOf.mpr ⟨hrow, howner⟩)
      · exact db.constraints.subscriptions_plan_fkey row (hothers hrow howner)
    · -- the links of the tenant, and apart from them those of the others
      have hperm := (List.filter_append_perm (fun s => decide (s.tenantId = tenantId))
        (pending.applyTo id now db.subscriptions)).filterMap Subscription.stripeSubscriptionId
      rw [← hperm.nodup_iff, List.filterMap_append, List.nodup_append']
      refine ⟨hlinks, ?_, ?_⟩
      · change ((rowsOfOthers tenantId _).filterMap _).Nodup
        rw [h.rowsOfOthers]
        exact db.constraints.subscriptions_stripe_id.sublist (List.filter_sublist.filterMap _)
      · intro stripeId hown hother
        obtain ⟨row, hrow, hlinked⟩ := List.mem_filterMap.mp hown
        obtain ⟨row', hrow', hlinked'⟩ := List.mem_filterMap.mp hother
        obtain ⟨hrow, htenant⟩ := mem_rowsOf.mp hrow
        obtain ⟨hrow', hne⟩ := mem_rowsOfOthers.mp hrow'
        have hname := h.links hnamed row hrow stripeId hlinked
        have hname' := h.links hnamed row' hrow' stripeId hlinked'
        exact hne (hname'.symm.trans (hname.trans htenant))

/-- **Both databases accept the write, or neither does.** -/
theorem commit_agree (h : WriteOf names db₁ tenantId pending)
    (hview : SameView names tenantId db₁ db₂) (hnamed₁ : Named names db₁)
    (hnamed₂ : Named names db₂)
    (hid₁ : id ∉ db₁.subscriptions.map Subscription.id)
    (hid₂ : id ∉ db₂.subscriptions.map Subscription.id)
    (hmarker₁ : ((db₁.webhookEvents ++ markers).map WebhookEvent.id).Nodup)
    (hmarker₂ : ((db₂.webhookEvents ++ markers).map WebhookEvent.id).Nodup)
    (hevent₁ : ((db₁.webhookEvents ++ markers).map WebhookEvent.eventId).Nodup)
    (hevent₂ : ((db₂.webhookEvents ++ markers).map WebhookEvent.eventId).Nodup) :
    (∃ db₁' db₂',
      commit ((Write.subscription pending id now markers).applyTo db₁) = .ok db₁' ∧
      commit ((Write.subscription pending id now markers).applyTo db₂) = .ok db₂') ∨
    ∃ exn, commit ((Write.subscription pending id now markers).applyTo db₁) = .error exn ∧
      commit ((Write.subscription pending id now markers).applyTo db₂) = .error exn := by
  have h₂ := h.congr hview
  have hfits : ∀ db : Database,
      ((Write.subscription pending id now markers).applyTo db).Fits := fun db =>
    ⟨db.fits.tenants, db.fits.plans, db.fits.usageEvents, db.fits.invoices⟩
  have hrows : rowsOf tenantId (pending.applyTo id now db₁.subscriptions) =
      rowsOf tenantId (pending.applyTo id now db₂.subscriptions) := by
    rw [h.rowsOf, h.rowsOf, hview.rowsOf_eq]
  refine commit_agree_of_iff (iff_of_true (hfits db₁) (hfits db₂)) ?_
  rw [constraints_subscription_iff h hid₁ hmarker₁ hevent₁,
    constraints_subscription_iff h₂ hid₂ hmarker₂ hevent₂, acceptable_iff_rowsOf h hnamed₁,
    acceptable_iff_rowsOf h₂ hnamed₂, hrows]
  constructor
  · rintro ⟨htenants, hplans, hlinks⟩
    exact ⟨hview.tenants ▸ htenants, hview.plans ▸ hplans, hlinks⟩
  · rintro ⟨htenants, hplans, hlinks⟩
    exact ⟨hview.tenants ▸ htenants, hview.plans ▸ hplans, hlinks⟩

end Writes

end Tenancy

end BillingEngine
