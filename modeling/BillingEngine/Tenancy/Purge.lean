import BillingEngine.Tenancy.Footprint

/-!
# Tenants do not notice each other

A run of the whole service, with any number of tenants, and the same run without the
calls that are made for other tenants than one: their requests, the subscriptions that
are created for them, and the webhooks about them. What is common to all stays: the
plans, the accounts, and the reconciliation job. If no two tenants use the same
idempotency key, event id or Stripe subscription, the tenant gets the same answer to
each of its calls, and ends with the same rows.

A request about somebody else's subscription is answered with 403, and with 404 once
that subscription is not there; so the tenant asks about its own ones only. The others
may ask about any.

Results:
* `serve_agree`: a call for the tenant does the same in two databases in which the
  tenant sees the same.
* `unwinds`: the obligations of the unwinding.
* `tenant_isolated`: the runs.
-/

namespace BillingEngine

open Api StripeService SubscriptionRepository Unwinding

namespace Tenancy

/-- The tenant for whom the call is made, if it is one for a tenant. -/
def tenantOf (names : Names) : Call → Option Uuid
  | .createSubscription subscription _ _ => some subscription.tenantId
  | .tenantRequest xTenantId _ _ _ _ => (getCurrentTenantId xTenantId).toOption
  | .checkout xTenantId _ _ _ => (getCurrentTenantId xTenantId).toOption
  | .stripeWebhook (.ok event) _ _ => some (names.ofEvent event.id)
  | _ => none

/-- The call is made for the tenant. -/
def isFor (names : Names) (tenantId : Uuid) (call : Call) : Bool :=
  decide (tenantOf names call = some tenantId)

/-- The call is not made for somebody else. -/
def isNotForOthers (names : Names) (tenantId : Uuid) (call : Call) : Bool :=
  (tenantOf names call).all fun other => decide (other = tenantId)

/-- The call uses names of its tenant only. -/
def KeepsNames (names : Names) (driver : Driver) : Call → Prop
  | .tenantRequest xTenantId request _ _ _ => ∀ tenantId,
      getCurrentTenantId xTenantId = .ok tenantId →
        ∀ key ∈ request.idempotencyKey, names.ofKey key = tenantId
  | .stripeWebhook (.ok event) _ _ => EventOf names driver event
  | _ => True

theorem keepsNames_of_key {names : Names} {driver : Driver} {xTenantId : String}
    (tenantId : Uuid) {id : Uuid} {request : TenantRequest} {nowBounds nowInsert : DateTime}
    (hheader : getCurrentTenantId xTenantId = .ok tenantId)
    (hkey : ∀ key ∈ request.idempotencyKey, names.ofKey key = tenantId) :
    KeepsNames names driver (.tenantRequest xTenantId request nowBounds nowInsert id) := by
  intro other hother
  rw [hheader] at hother
  cases hother
  exact hkey

/-- If the tenant asks about a subscription, it is one of its own. -/
def AsksOwn (tenantId : Uuid) (db : Database) : Call → Prop
  | .tenantRequest xTenantId request _ _ _ => getCurrentTenantId xTenantId = .ok tenantId →
      ∀ sid ∈ request.subscriptionId, Owns db tenantId sid
  | _ => True

instance (tenantId : Uuid) (db : Database) : ∀ call, Decidable (AsksOwn tenantId db call)
  | .tenantRequest xTenantId request _ _ _ =>
    inferInstanceAs (Decidable (getCurrentTenantId xTenantId = .ok tenantId →
      ∀ sid ∈ request.subscriptionId, Owns db tenantId sid))
  | .createTenant .. | .listTenants | .createPlan .. | .listPlans | .createSubscription ..
  | .listSubscriptions | .checkout .. | .stripeWebhook .. | .reconcile .. =>
    inferInstanceAs (Decidable True)

/-- `uuid4()` does not repeat a key, and the tenant asks about its own. -/
def Proper (tenantId : Uuid) (s : Service) (call : Call) : Prop :=
  (∀ id ∈ call.drawn, id ∉ s.drawn) ∧ AsksOwn tenantId s.db call

instance (tenantId : Uuid) (s : Service) (call : Call) : Decidable (Proper tenantId s call) :=
  inferInstanceAs (Decidable (_ ∧ _))

/-! ## A call for the tenant -/

/-- Two outcomes that the tenant cannot tell apart: the same write and the same answer. -/
structure SameOutcome {α : Type} (names : Names) (tenantId : Uuid) (drawn : List Uuid)
    (db₁ db₂ : Database) (r₁ r₂ : Database × Except Exn α) : Prop where
  write : ∃ write : Write, write.Of names tenantId drawn db₁ ∧ r₁.1.toTables = write.applyTo db₁ ∧
    r₂.1.toTables = write.applyTo db₂
  answer : r₁.2 = r₂.2

section Serve

variable {names : Names} {driver : Driver} {settings : Settings} {tenantId sid id : Uuid}
  {drawn : List Uuid} {db db₁ db₂ : Database} {nowBounds nowInsert : DateTime}

theorem SameOutcome.map {α β : Type} {r₁ r₂ : Database × Except Exn α}
    (h : SameOutcome names tenantId drawn db₁ db₂ r₁ r₂) (f : α → β) :
    SameOutcome names tenantId drawn db₁ db₂ (r₁.1, r₁.2.map f) (r₂.1, r₂.2.map f) :=
  ⟨h.write, by rw [h.answer]⟩

/-- Nothing is written. -/
theorem SameOutcome.of_unchanged {α : Type} (r : Except Exn α) :
    SameOutcome names tenantId drawn db₁ db₂ (db₁, r) (db₂, r) :=
  ⟨⟨.nothing, .nothing, rfl, rfl⟩, rfl⟩

theorem SameView.refl (names : Names) (tenantId : Uuid) (db : Database) :
    SameView names tenantId db db :=
  ⟨⟨rfl, rfl, rfl, rfl⟩, rfl, fun _ _ => Iff.rfl⟩

/-- The stored events under a name of the tenant are its own. -/
theorem Named.keyIsOwn {key : String} (h : Named names db) (hkey : names.ofKey key = tenantId) :
    KeyIsOwn db tenantId key := by
  rintro e he rfl
  rw [← hkey]
  exact h.keys e he

theorem not_mem_subscriptions_of_fresh (h : id ∉ db.ids) :
    id ∉ db.subscriptions.map Subscription.id := by
  simp only [Database.ids, List.mem_append, not_or] at h
  exact h.1.1.1.2

theorem not_mem_webhookEvents_of_fresh (h : id ∉ db.ids) :
    id ∉ db.webhookEvents.map WebhookEvent.id := by
  simp only [Database.ids, List.mem_append, not_or] at h
  exact h.2

/-- **Metering.** -/
theorem sameOutcome_recordUsage (hview : SameView names tenantId db₁ db₂)
    (hnamed₁ : Named names db₁) (hnamed₂ : Named names db₂) (usage : UsageRequest)
    (hkey : names.ofKey usage.idempotencyKey = tenantId)
    (howns : Owns db₁ tenantId usage.subscriptionId) (hf₁ : id ∉ db₁.ids) (hf₂ : id ∉ db₂.ids)
    (respond : UsageEvent → Response) (exn : Exn) :
    SameOutcome names tenantId [id] db₁ db₂
      (answerWith respond exn (UsageService.recordUsage db₁ usage nowBounds nowInsert id))
      (answerWith respond exn (UsageService.recordUsage db₂ usage nowBounds nowInsert id)) := by
  rcases recordUsage_agree hview.toAgree howns (hnamed₁.keyIsOwn hkey) (hnamed₂.keyIsOwn hkey)
    (not_mem_of_fresh hf₁).1 (not_mem_of_fresh hf₂).1 with
    ⟨r, hr₁, hr₂, -⟩ | ⟨db₁', db₂', hr₁, hr₂, ht₁, ht₂⟩
  · rw [hr₁, hr₂]
    rcases r with exn' | _ | event <;> exact .of_unchanged _
  · rw [hr₁, hr₂]
    exact ⟨⟨.event (UsageRepository.newEvent usage id nowInsert),
      .event (List.mem_singleton_self id) howns hkey, ht₁, ht₂⟩, rfl⟩

/-- **Every request.** -/
theorem sameOutcome_handle (hview : SameView names tenantId db₁ db₂)
    (hnamed₁ : Named names db₁) (hnamed₂ : Named names db₂) (request : TenantRequest)
    (hkey : ∀ key ∈ request.idempotencyKey, names.ofKey key = tenantId)
    (howns : ∀ sid ∈ request.subscriptionId, Owns db₁ tenantId sid)
    (hf₁ : id ∉ db₁.ids) (hf₂ : id ∉ db₂.ids) :
    SameOutcome names tenantId [id] db₁ db₂
      (request.handle db₁ tenantId nowBounds nowInsert id)
      (request.handle db₂ tenantId nowBounds nowInsert id) := by
  have hagree := hview.toAgree
  cases request with
  | recordUsage usage =>
    have ho := howns usage.subscriptionId rfl
    rw [handle_recordUsage_eq ho, handle_recordUsage_eq (hagree.owns.mp ho)]
    exact sameOutcome_recordUsage hview hnamed₁ hnamed₂ (.usage usage)
      (hkey usage.idempotencyKey rfl) ho hf₁ hf₂ _ _
  | generate body =>
    have ho := howns body.subscriptionId rfl
    rw [handle_generate_eq ho, handle_generate_eq (hagree.owns.mp ho)]
    exact sameOutcome_recordUsage hview hnamed₁ hnamed₂ (.tokens body)
      (hkey body.idempotencyKey rfl) ho hf₁ hf₂ _ _
  | listUsage =>
    simp only [TenantRequest.handle, Endpoints.listUsage, getAllByTenant_eq, hagree.usageEvents]
    exact .of_unchanged _
  | listInvoices =>
    simp only [TenantRequest.handle, Endpoints.listInvoices, getAllByTenant_invoices_eq,
      hagree.invoices]
    exact .of_unchanged _
  | usageRollup sid =>
    have ho := howns sid rfl
    simp only [TenantRequest.handle, Endpoints.usageRollup, ho.withOwned,
      (hagree.owns.mp ho).withOwned]
    cases monthBounds nowBounds with
    | error exn => exact .of_unchanged _
    | ok bounds =>
      obtain ⟨periodStart, periodEnd⟩ := bounds
      simp only [rollup_agree hagree ho]
      rcases CostService.rollup db₂ sid periodStart periodEnd with exn | _ | rollup <;>
        exact .of_unchanged _
  | calculateBill sid =>
    have ho := howns sid rfl
    simp only [TenantRequest.handle, Endpoints.calculateBill, ho.withOwned,
      (hagree.owns.mp ho).withOwned]
    rcases calculateBill_agree nowBounds nowInsert hagree ho (not_mem_of_fresh hf₁).2
      (not_mem_of_fresh hf₂).2 with
      ⟨r, hr₁, hr₂⟩ | ⟨db₁', db₂', s, plan, totalUsage, start, stop, r, hr₁, hr₂, rfl, ht₁, ht₂⟩
    · rw [hr₁, hr₂]
      exact .of_unchanged _
    · rw [hr₁, hr₂]
      exact ⟨⟨.invoice _, .invoice (List.mem_singleton_self id) ho, ht₁, ht₂⟩, rfl⟩

/-- **A subscription that is created for the tenant.** -/
theorem sameOutcome_createSubscription (hview : SameView names tenantId db₁ db₂)
    (hnamed₁ : Named names db₁) (hnamed₂ : Named names db₂) (subscription : SubscriptionCreate)
    (htenant : subscription.tenantId = tenantId) (now : DateTime) (hf₁ : id ∉ db₁.ids)
    (hf₂ : id ∉ db₂.ids) :
    SameOutcome names tenantId [id] db₁ db₂
      (Endpoints.createSubscription db₁ subscription now id)
      (Endpoints.createSubscription db₂ subscription now id) := by
  subst htenant
  have hpending : WriteOf names db₁ subscription.tenantId
      (.insert subscription.tenantId subscription.planId .active none none) :=
    .insert fun _ h => by cases h
  have hcreate : ∀ db : Database,
      SubscriptionService.createSubscription db subscription id now = commit ((Write.subscription
        (.insert subscription.tenantId subscription.planId .active none none) id now []).applyTo
          db) := fun db => by
    rw [Write.applyTo, List.append_nil]
    rfl
  simp only [Endpoints.createSubscription, hcreate]
  have hmarker : ∀ db : Database, ((db.webhookEvents ++ []).map WebhookEvent.id).Nodup :=
    fun db => by
      rw [List.append_nil]
      exact db.constraints.webhook_pkey
  have hevent : ∀ db : Database, ((db.webhookEvents ++ []).map WebhookEvent.eventId).Nodup :=
    fun db => by
      rw [List.append_nil]
      exact db.constraints.webhook_event_id
  rcases commit_agree hpending hview hnamed₁ hnamed₂ (not_mem_subscriptions_of_fresh hf₁)
    (not_mem_subscriptions_of_fresh hf₂) (hmarker db₁) (hmarker db₂) (hevent db₁) (hevent db₂) with
    ⟨db₁', db₂', hok₁, hok₂⟩ | ⟨exn, herr₁, herr₂⟩
  · rw [hok₁, hok₂]
    exact ⟨⟨_, .subscription (List.mem_singleton_self id) hpending (by simp),
      commit_eq_ok.mp hok₁, commit_eq_ok.mp hok₂⟩, rfl⟩
  · rw [herr₁, herr₂]
    exact .of_unchanged _

/-- **A webhook about the tenant.** -/
theorem sameOutcome_handleWebhook (hview : SameView names tenantId db₁ db₂)
    (hnamed₁ : Named names db₁) (hnamed₂ : Named names db₂) {event : StripeEvent}
    (hevent : EventOf names driver event) (htenant : names.ofEvent event.id = tenantId)
    (ids : NewIds) (now : DateTime) (hm₁ : ids.marker ∉ db₁.ids) (hm₂ : ids.marker ∉ db₂.ids)
    (hf₁ : ids.subscription ∉ db₁.ids) (hf₂ : ids.subscription ∉ db₂.ids) :
    SameOutcome names tenantId [ids.marker, ids.subscription] db₁ db₂
      (handleWebhook driver db₁ event ids now) (handleWebhook driver db₂ event ids now) := by
  have hprocess := hview.processEvent hnamed₁ hnamed₂ hevent htenant
  have hseen := hview.processed event.id htenant
  unfold handleWebhook
  cases hfound₁ : WebhookEventRepository.getByEventId db₁ event.id with
  | some marker₁ =>
    cases hfound₂ : WebhookEventRepository.getByEventId db₂ event.id with
    | some marker₂ => exact .of_unchanged _
    | none =>
      obtain ⟨hmem, hid⟩ := Rows.find?_mem hfound₁
      rw [WebhookEventRepository.getByEventId_eq_none_iff, ← hseen] at hfound₂
      exact absurd (List.mem_map.mpr ⟨marker₁, hmem, hid⟩) hfound₂
  | none =>
    have hnew₁ := WebhookEventRepository.getByEventId_eq_none_iff.mp hfound₁
    have hnew₂ := hnew₁
    rw [hseen] at hnew₂
    rw [WebhookEventRepository.getByEventId_eq_none_iff.mpr hnew₂, ← hprocess]
    cases hpending : processEvent driver db₁ event with
    | error exn => exact .of_unchanged _
    | ok pending =>
      have hwrite := htenant ▸ writeOf_processEvent hnamed₁ hevent hpending
      have hids : ∀ db : Database, ids.marker ∉ db.ids →
          ((db.webhookEvents ++ [newMarker event ids.marker now]).map WebhookEvent.id).Nodup :=
        fun db hm => nodup_map_concat.mpr
          ⟨db.constraints.webhook_pkey, not_mem_webhookEvents_of_fresh hm⟩
      have heventIds : ∀ db : Database, event.id ∉ db.webhookEvents.map WebhookEvent.eventId →
          ((db.webhookEvents ++ [newMarker event ids.marker now]).map
            WebhookEvent.eventId).Nodup :=
        fun db hnew => nodup_map_concat.mpr ⟨db.constraints.webhook_event_id, hnew⟩
      have hcommit : ∀ db : Database, commitWebhook db event pending ids now = commit
          ((Write.subscription pending ids.subscription now
            [newMarker event ids.marker now]).applyTo db) := fun db => rfl
      simp only [hcommit]
      rcases commit_agree hwrite hview hnamed₁ hnamed₂ (not_mem_subscriptions_of_fresh hf₁)
        (not_mem_subscriptions_of_fresh hf₂) (hids db₁ hm₁) (hids db₂ hm₂) (heventIds db₁ hnew₁)
        (heventIds db₂ hnew₂) with ⟨db₁', db₂', hok₁, hok₂⟩ | ⟨exn, herr₁, herr₂⟩
      · rw [hok₁, hok₂]
        exact ⟨⟨_, .subscription (by simp) hwrite (by simpa [newMarker] using htenant),
          commit_eq_ok.mp hok₁, commit_eq_ok.mp hok₂⟩, rfl⟩
      · rw [herr₁, herr₂]
        exact .of_unchanged _

/-- **A call for the tenant** does the same in two databases in which it sees the same. -/
theorem serve_agree {call : Call} (hcall : tenantOf names call = some tenantId)
    (hnames : KeepsNames names driver call) (hown : AsksOwn tenantId db₁ call)
    (hview : SameView names tenantId db₁ db₂) (hnamed₁ : Named names db₁)
    (hnamed₂ : Named names db₂) (hf₁ : ∀ id ∈ call.drawn, id ∉ db₁.ids)
    (hf₂ : ∀ id ∈ call.drawn, id ∉ db₂.ids) :
    SameOutcome names tenantId call.drawn db₁ db₂ (call.serve driver settings db₁)
      (call.serve driver settings db₂) := by
  cases call with
  | createSubscription subscription now id =>
    exact (sameOutcome_createSubscription hview hnamed₁ hnamed₂ subscription
      (Option.some.inj hcall) now (hf₁ id (List.mem_singleton_self id))
      (hf₂ id (List.mem_singleton_self id))).map _
  | tenantRequest xTenantId request nowBounds nowInsert id =>
    have hheader := toOption_eq_some.mp hcall
    simp only [Call.serve, TenantRequest.serve, hheader]
    exact (sameOutcome_handle hview hnamed₁ hnamed₂ request (hnames tenantId hheader)
      (hown hheader) (hf₁ id (List.mem_singleton_self id))
      (hf₂ id (List.mem_singleton_self id))).map _
  | checkout xTenantId named planId create =>
    have hheader := toOption_eq_some.mp hcall
    simp only [Call.serve, hheader]
    have hsame : Endpoints.checkout db₁ settings tenantId named planId create =
        Endpoints.checkout db₂ settings tenantId named planId create := by
      unfold Endpoints.checkout
      split_ifs with hne
      · rfl
      · obtain rfl := not_not.mp hne
        simp only [createCheckoutSession, PlanRepository.getById, hview.plans, hview.getByTenant]
    rw [hsame]
    exact .of_unchanged _
  | stripeWebhook verified now ids =>
    cases verified with
    | error exn => cases hcall
    | ok event =>
      have hmarker : ids.marker ∈ (Call.stripeWebhook (.ok event) now ids).drawn := by
        simp [Call.drawn]
      have hsubscription : ids.subscription ∈ (Call.stripeWebhook (.ok event) now ids).drawn := by
        simp [Call.drawn]
      have hsame := sameOutcome_handleWebhook hview hnamed₁ hnamed₂ hnames (Option.some.inj hcall)
        ids now (hf₁ _ hmarker) (hf₂ _ hmarker) (hf₁ _ hsubscription) (hf₂ _ hsubscription)
      simp only [Call.serve, Endpoints.stripeWebhook]
      cases requireStripeClient settings with
      | error exn => exact .of_unchanged _
      | ok client =>
        cases truthyText settings.stripeWebhookSecret with
        | none => exact .of_unchanged _
        | some secret => exact hsame.map _
  | _ => cases hcall

/-! ## A call for another tenant -/

theorem withOwned_of_not_owns {α : Type} {body : Database × Except Exn α}
    (h : ¬ Owns db tenantId sid) : (withOwned db sid tenantId body).1 = db := by
  unfold withOwned
  cases hfound : getOwnedSubscription db sid tenantId with
  | error exn => rfl
  | ok s => exact absurd ⟨s, getOwnedSubscription_eq_ok.mp hfound⟩ h

/-- A request about a subscription of somebody else changes nothing. -/
theorem handle_of_not_owns (request : TenantRequest) (hsid : sid ∈ request.subscriptionId)
    (h : ¬ Owns db tenantId sid) :
    (request.handle db tenantId nowBounds nowInsert id).1 = db := by
  cases request with
  | listUsage | listInvoices => cases hsid
  | recordUsage | generate | usageRollup | calculateBill =>
    obtain rfl := Option.some.inj hsid
    simp only [TenantRequest.handle, Endpoints.recordUsage, Endpoints.generate,
      Endpoints.usageRollup, Endpoints.calculateBill, withOwned_of_not_owns h]

/-- **What a call for a tenant writes.** -/
theorem exists_write {call : Call} (hcall : tenantOf names call = some tenantId)
    (hnames : KeepsNames names driver call) (hnamed : Named names db)
    (hf : ∀ id ∈ call.drawn, id ∉ db.ids) :
    ∃ write : Write, write.Of names tenantId call.drawn db ∧
      (call.serve driver settings db).1.toTables = write.applyTo db := by
  by_cases hown : AsksOwn tenantId db call
  · have hsame : SameOutcome names tenantId call.drawn db db (call.serve driver settings db)
        (call.serve driver settings db) :=
      serve_agree hcall hnames hown (.refl names tenantId db) hnamed hnamed hf hf
    obtain ⟨write, hwrite, ht, -⟩ := hsame.write
    exact ⟨write, hwrite, ht⟩
  · cases call with
    | tenantRequest xTenantId request nowBounds nowInsert id =>
      have hheader := toOption_eq_some.mp hcall
      simp only [AsksOwn, hheader, forall_const, not_forall] at hown
      obtain ⟨sid, hsid, hnot⟩ := hown
      refine ⟨.nothing, .nothing, ?_⟩
      simp only [Call.serve, TenantRequest.serve, hheader, handle_of_not_owns request hsid hnot,
        Write.applyTo]
    | _ => exact absurd trivial hown

/-! ## A call that is for no tenant -/

/-- The row with a new status. -/
def withStatus (status : Subscription → SubscriptionStatus) (row : Subscription) : Subscription :=
  { row with status := status row }

/-- What a call that is for no tenant does to two databases. -/
inductive Common (drawn : List Uuid) (db₁ db₂ : Database) : Database → Database → Prop
  | unchanged : Common drawn db₁ db₂ db₁ db₂
  | tenant {db₁' db₂' : Database} (row : Tenant) (hid : row.id ∈ drawn)
      (ht₁ : db₁'.toTables = { db₁.toTables with tenants := db₁.tenants ++ [row] })
      (ht₂ : db₂'.toTables = { db₂.toTables with tenants := db₂.tenants ++ [row] }) :
      Common drawn db₁ db₂ db₁' db₂'
  | plan {db₁' db₂' : Database} (row : Plan) (hid : row.id ∈ drawn)
      (ht₁ : db₁'.toTables = { db₁.toTables with plans := db₁.plans ++ [row] })
      (ht₂ : db₂'.toTables = { db₂.toTables with plans := db₂.plans ++ [row] }) :
      Common drawn db₁ db₂ db₁' db₂'
  | synced {db₁' db₂' : Database} (status : Subscription → SubscriptionStatus)
      (ht₁ : db₁'.toTables = { db₁.toTables with
        subscriptions := db₁.subscriptions.map (withStatus status) })
      (ht₂ : db₂'.toTables = { db₂.toTables with
        subscriptions := db₂.subscriptions.map (withStatus status) }) :
      Common drawn db₁ db₂ db₁' db₂'

variable {db' db₁' db₂' : Database}

theorem Common.symm (h : Common drawn db₁ db₂ db₁' db₂') : Common drawn db₂ db₁ db₂' db₁' := by
  cases h with
  | unchanged => exact .unchanged
  | tenant row hid ht₁ ht₂ => exact .tenant row hid ht₂ ht₁
  | plan row hid ht₁ ht₂ => exact .plan row hid ht₂ ht₁
  | synced status ht₁ ht₂ => exact .synced status ht₂ ht₁

/-- Statuses are neither keys nor tenants. -/
theorem owners_of_synced {status : Subscription → SubscriptionStatus}
    (ht : db'.toTables = { db.toTables with
      subscriptions := db.subscriptions.map (withStatus status) }) : db.owners <+: db'.owners := by
  have hs : db'.subscriptions = _ := congrArg Tables.subscriptions ht
  rw [Database.owners, Database.owners, hs, Rows.map_map_of_eq]
  exact fun _ => rfl

theorem Common.named (h : Common drawn db₁ db₂ db₁' db₂') (hnamed : Named names db₁) :
    Named names db₁' := by
  cases h with
  | unchanged => exact hnamed
  | tenant _ _ ht₁ | plan _ _ ht₁ =>
    have hs : db₁'.subscriptions = db₁.subscriptions := by rw [ht₁]
    have he : db₁'.usageEvents = db₁.usageEvents := by rw [ht₁]
    refine ⟨fun e hmem => ?_, hs ▸ hnamed.links⟩
    rw [owns_congr hs]
    exact hnamed.keys e (he ▸ hmem)
  | synced status ht₁ =>
    have hs : db₁'.subscriptions = _ := congrArg Tables.subscriptions ht₁
    have he : db₁'.usageEvents = db₁.usageEvents := by rw [ht₁]
    refine ⟨fun e hmem => (hnamed.keys e (he ▸ hmem)).mono (owners_of_synced ht₁), ?_⟩
    intro row hrow
    rw [hs] at hrow
    obtain ⟨old, hold, rfl⟩ := List.mem_map.mp hrow
    exact hnamed.links old hold

theorem Common.ids (h : Common drawn db₁ db₂ db₁' db₂') : db₁'.ids ⊆ drawn ++ db₁.ids := by
  intro key hkey
  rw [List.mem_append, or_iff_not_imp_left]
  intro hnew
  cases h with
  | unchanged => exact hkey
  | tenant row hid ht₁ | plan row hid ht₁ =>
    have hne : key ≠ row.id := fun heq => hnew (heq ▸ hid)
    simp only [Database.ids, ht₁, List.map_append, List.mem_append, List.map_singleton,
      List.mem_singleton] at hkey ⊢
    tauto
  | synced status ht₁ =>
    have hids : (db₁.subscriptions.map (withStatus status)).map Subscription.id =
        db₁.subscriptions.map Subscription.id := by
      rw [Rows.map_map_of_eq]
      exact fun _ => rfl
    simpa only [Database.ids, ht₁, hids] using hkey

/-- New accounts and plans, and none of the rows that a tenant owns. -/
theorem SameView.of_accounts (hview : SameView names tenantId db₁ db₂)
    (hplans : db₁'.plans = db₂'.plans) (htenants : db₁'.tenants = db₂'.tenants)
    (h₁ : db₁'.toTables = { db₁.toTables with tenants := db₁'.tenants, plans := db₁'.plans })
    (h₂ : db₂'.toTables = { db₂.toTables with tenants := db₂'.tenants, plans := db₂'.plans }) :
    SameView names tenantId db₁' db₂' := by
  have hs₁ : db₁'.subscriptions = db₁.subscriptions := by rw [h₁]
  have hs₂ : db₂'.subscriptions = db₂.subscriptions := by rw [h₂]
  refine ⟨⟨hplans, ?_, ?_, ?_⟩, htenants, by rw [h₁, h₂]; exact hview.processed⟩
  · rw [ownSubscriptions_congr hs₁, ownSubscriptions_congr hs₂, hview.subscriptions]
  · rw [ownEvents_congr hs₁ (by rw [h₁]), ownEvents_congr hs₂ (by rw [h₂]), hview.usageEvents]
  · rw [ownInvoices_congr hs₁ (by rw [h₁]), ownInvoices_congr hs₂ (by rw [h₂]), hview.invoices]

/-- A new status is given to the rows of the tenant as to all others. -/
theorem rowsOf_map_withStatus (status : Subscription → SubscriptionStatus)
    (rows : List Subscription) :
    rowsOf tenantId (rows.map (withStatus status)) =
      (rowsOf tenantId rows).map (withStatus status) := by
  rw [rowsOf, rowsOf, List.filter_map]
  rfl

theorem Common.view (h : Common drawn db₁ db₂ db₁' db₂') (hview : SameView names tenantId db₁ db₂) :
    SameView names tenantId db₁' db₂' := by
  cases h with
  | unchanged => exact hview
  | tenant row _ ht₁ ht₂ =>
    exact hview.of_accounts (by rw [ht₁, ht₂]; exact hview.plans)
      (by rw [ht₁, ht₂]; exact congrArg (· ++ [row]) hview.tenants) (by rw [ht₁]) (by rw [ht₂])
  | plan row _ ht₁ ht₂ =>
    exact hview.of_accounts (by rw [ht₁, ht₂]; exact congrArg (· ++ [row]) hview.plans)
      (by rw [ht₁, ht₂]; exact hview.tenants) (by rw [ht₁]) (by rw [ht₂])
  | synced status ht₁ ht₂ =>
    have howners₁ := owners_of_synced ht₁
    have howners₂ := owners_of_synced ht₂
    have hs₁ : db₁'.subscriptions = _ := congrArg Tables.subscriptions ht₁
    have hs₂ : db₂'.subscriptions = _ := congrArg Tables.subscriptions ht₂
    refine ⟨⟨by rw [ht₁, ht₂]; exact hview.plans, ?_, ?_, ?_⟩,
      by rw [ht₁, ht₂]; exact hview.tenants, by rw [ht₁, ht₂]; exact hview.processed⟩
    · change rowsOf tenantId db₁'.subscriptions = rowsOf tenantId db₂'.subscriptions
      rw [hs₁, hs₂, rowsOf_map_withStatus, rowsOf_map_withStatus, hview.rowsOf_eq]
    · rw [ownEvents_of_owners howners₁ (by rw [ht₁]), ownEvents_of_owners howners₂ (by rw [ht₂]),
        hview.usageEvents]
    · rw [ownInvoices_of_owners howners₁ (by rw [ht₁]),
        ownInvoices_of_owners howners₂ (by rw [ht₂]), hview.invoices]

/-- **A call that is for no tenant** does the same to both. -/
theorem serve_common {call : Call} (hcall : tenantOf names call = none)
    (htenants : db₁.tenants = db₂.tenants) (hplans : db₁.plans = db₂.plans) :
    Common call.drawn db₁ db₂ (call.serve driver settings db₁).1
      (call.serve driver settings db₂).1 := by
  cases call with
  | listTenants | listPlans | listSubscriptions => exact .unchanged
  | createSubscription => cases hcall
  | createTenant tenant id =>
    have hlookup : TenantRepository.getByEmail db₁ tenant.email =
        TenantRepository.getByEmail db₂ tenant.email := by
      rw [TenantRepository.getByEmail, TenantRepository.getByEmail, htenants]
    simp only [Call.serve, Endpoints.createTenant, TenantService.createTenant,
      TenantRepository.lookupEmail, hlookup, TenantRepository.create]
    cases TenantRepository.getByEmail db₂ tenant.email with
    | some existing => exact .unchanged
    | none =>
      by_cases hemail : Storable tenant.email
      swap
      · rw [lookupText_none_of_not_storable hemail]
        exact .unchanged
      rw [lookupText_none hemail]
      by_cases htexts : ∀ s ∈ TenantRepository.texts tenant, Storable s
      swap
      · simp only [execute_of_not_storable htexts]
        exact .unchanged
      simp only [execute_of_storable htexts]
      let row := TenantRepository.newTenant tenant id
      have hfits := (fits_insertTenant_iff db₁ row).trans (fits_insertTenant_iff db₂ row).symm
      have hcons : { db₁.toTables with tenants := db₁.tenants ++ [row] }.Constraints ↔
          { db₂.toTables with tenants := db₂.tenants ++ [row] }.Constraints := by
        rw [constraints_insertTenant_iff, constraints_insertTenant_iff, htenants]
      rcases commit_agree_of_iff hfits hcons with ⟨db₁', db₂', hok₁, hok₂⟩ | ⟨exn, herr₁, herr₂⟩
      · simp only [row] at hok₁ hok₂
        rw [hok₁, hok₂]
        exact .tenant row (List.mem_singleton_self id) (commit_eq_ok.mp hok₁)
          (commit_eq_ok.mp hok₂)
      · simp only [row] at herr₁ herr₂
        rw [herr₁, herr₂]
        exact .unchanged
  | createPlan plan id =>
    have hlookup : PlanRepository.getByName db₁ plan.name =
        PlanRepository.getByName db₂ plan.name := by
      rw [PlanRepository.getByName, PlanRepository.getByName, hplans]
    simp only [Call.serve, Endpoints.createPlan, PlanService.createPlan, PlanRepository.lookupName,
      hlookup, PlanRepository.create]
    cases PlanRepository.getByName db₂ plan.name with
    | some existing => exact .unchanged
    | none =>
      by_cases hname : Storable plan.name
      swap
      · rw [lookupText_none_of_not_storable hname]
        exact .unchanged
      rw [lookupText_none hname]
      by_cases htexts : ∀ s ∈ PlanRepository.texts plan, Storable s
      swap
      · simp only [execute_of_not_storable htexts]
        exact .unchanged
      simp only [execute_of_storable htexts]
      let row := PlanRepository.newPlan plan id
      have hfits := (fits_insertPlan_iff db₁ row).trans (fits_insertPlan_iff db₂ row).symm
      have hcons : { db₁.toTables with plans := db₁.plans ++ [row] }.Constraints ↔
          { db₂.toTables with plans := db₂.plans ++ [row] }.Constraints := by
        rw [constraints_insertPlan_iff, constraints_insertPlan_iff, hplans]
      rcases commit_agree_of_iff hfits hcons with ⟨db₁', db₂', hok₁, hok₂⟩ | ⟨exn, herr₁, herr₂⟩
      · simp only [row] at hok₁ hok₂
        rw [hok₁, hok₂]
        exact .plan row (List.mem_singleton_self id) (commit_eq_ok.mp hok₁)
          (commit_eq_ok.mp hok₂)
      · simp only [row] at herr₁ herr₂
        rw [herr₁, herr₂]
        exact .unchanged
  | tenantRequest xTenantId request nowBounds nowInsert id =>
    obtain ⟨exn, hexn⟩ := toOption_eq_none.mp hcall
    simp only [Call.serve, TenantRequest.serve, hexn]
    exact .unchanged
  | checkout xTenantId named planId create =>
    obtain ⟨exn, hexn⟩ := toOption_eq_none.mp hcall
    simp only [Call.serve, hexn]
    exact .unchanged
  | stripeWebhook verified now ids =>
    cases verified with
    | ok event => cases hcall
    | error exn =>
      simp only [Call.serve, Endpoints.stripeWebhook]
      cases requireStripeClient settings with
      | error exn => exact .unchanged
      | ok client =>
        cases truthyText settings.stripeWebhookSecret with
        | none => exact .unchanged
        | some secret => exact .unchanged
  | reconcile retrieve =>
    simp only [Call.serve, BillingEngine.reconcile]
    cases truthyText settings.stripeApiKey with
    | none => exact .unchanged
    | some key =>
      exact .synced (ReconciliationService.syncedStatus retrieve 3 1)
        (ReconciliationService.runOnce_rows db₁) (ReconciliationService.runOnce_rows db₂)

end Serve

/-! ## Runs -/

/-- Two states of the service in which the tenant sees the same. -/
structure Alike (names : Names) (tenantId : Uuid) (s t : Service) : Prop where
  view : SameView names tenantId s.db t.db
  named₁ : Named names s.db
  named₂ : Named names t.db
  ids₁ : s.db.ids ⊆ s.drawn
  ids₂ : t.db.ids ⊆ t.drawn
  drawn : t.drawn ⊆ s.drawn

section Runs

variable {names : Names} {driver : Driver} {settings : Settings} {tenantId : Uuid}

theorem SameView.symm {db₁ db₂ : Database} (h : SameView names tenantId db₁ db₂) :
    SameView names tenantId db₂ db₁ :=
  ⟨⟨h.plans.symm, h.subscriptions.symm, h.usageEvents.symm, h.invoices.symm⟩, h.tenants.symm,
    fun eventId hevent => (h.processed eventId hevent).symm⟩

theorem SameView.trans {db₁ db₂ db₃ : Database} (h : SameView names tenantId db₁ db₂)
    (h' : SameView names tenantId db₂ db₃) : SameView names tenantId db₁ db₃ :=
  ⟨⟨h.plans.trans h'.plans, h.subscriptions.trans h'.subscriptions,
    h.usageEvents.trans h'.usageEvents, h.invoices.trans h'.invoices⟩, h.tenants.trans h'.tenants,
    fun eventId hevent => (h.processed eventId hevent).trans (h'.processed eventId hevent)⟩

/-- The keys in use stay among those that were drawn. -/
theorem subset_append_of_subset {l l' new old : List Uuid} (h : l' ⊆ new ++ l) (h' : l ⊆ old) :
    l' ⊆ new ++ old := by
  intro id hid
  rcases List.mem_append.mp (h hid) with hid | hid
  · exact List.mem_append_left _ hid
  · exact List.mem_append_right _ (h' hid)

/-- **The obligations of the unwinding.** -/
theorem unwinds (names : Names) (driver : Driver) (settings : Settings) (tenantId : Uuid) :
    Unwinds (Service.step driver settings)
      (fun s call => Proper tenantId s call ∧ KeepsNames names driver call)
      (isNotForOthers names tenantId) (isFor names tenantId) (Alike names tenantId) where
  local_respect {s call t} h hok hothers := by
    obtain ⟨⟨hnew, -⟩, hnames⟩ := hok
    obtain ⟨other, hcall, hne⟩ : ∃ other, tenantOf names call = some other ∧ tenantId ≠ other := by
      unfold isNotForOthers at hothers
      cases hcall : tenantOf names call with
      | none => simp [hcall] at hothers
      | some other => exact ⟨other, rfl, by simpa [hcall, eq_comm] using hothers⟩
    have hfresh : ∀ id ∈ call.drawn, id ∉ s.db.ids := fun id hid hmem =>
      hnew id hid (h.ids₁ hmem)
    obtain ⟨write, hwrite, ht⟩ : ∃ write : Write, write.Of names other call.drawn s.db ∧
        (call.serve driver settings s.db).1.toTables = write.applyTo s.db :=
      exists_write hcall hnames h.named₁ hfresh
    refine ⟨(hwrite.others ht hne).symm.trans h.view, hwrite.named ht h.named₁, h.named₂, ?_,
      h.ids₂, fun id hid => List.mem_append_right _ (h.drawn hid)⟩
    exact subset_append_of_subset (hwrite.ids ht) h.ids₁
  step_consistent {s call t} h hok hkept := by
    obtain ⟨⟨hnew, hown⟩, hnames⟩ := hok
    have hfresh₁ : ∀ id ∈ call.drawn, id ∉ s.db.ids := fun id hid hmem =>
      hnew id hid (h.ids₁ hmem)
    have hfresh₂ : ∀ id ∈ call.drawn, id ∉ t.db.ids := fun id hid hmem =>
      hnew id hid (h.drawn (h.ids₂ hmem))
    have hdrawn : call.drawn ++ t.drawn ⊆ call.drawn ++ s.drawn :=
      subset_append_of_subset (List.Subset.refl _) h.drawn
    cases hcall : tenantOf names call with
    | none =>
      have hcommon : Common call.drawn s.db t.db (call.serve driver settings s.db).1
          (call.serve driver settings t.db).1 := serve_common hcall h.view.tenants h.view.plans
      refine ⟨⟨hcommon.view h.view, hcommon.named h.named₁, hcommon.symm.named h.named₂,
        subset_append_of_subset hcommon.ids h.ids₁,
        subset_append_of_subset hcommon.symm.ids h.ids₂, hdrawn⟩, fun hseen => ?_⟩
      simp [isFor, hcall] at hseen
    | some other =>
      obtain rfl : other = tenantId := by simpa [isNotForOthers, hcall] using hkept
      have hsame : SameOutcome names other call.drawn s.db t.db (call.serve driver settings s.db)
          (call.serve driver settings t.db) :=
        serve_agree hcall hnames hown h.view h.named₁ h.named₂ hfresh₁ hfresh₂
      obtain ⟨write, hwrite, ht₁, ht₂⟩ := hsame.write
      have hwrite₂ := hwrite.congr h.view
      exact ⟨⟨hwrite.own h.view ht₁ ht₂, hwrite.named ht₁ h.named₁, hwrite₂.named ht₂ h.named₂,
        subset_append_of_subset (hwrite.ids ht₁) h.ids₁,
        subset_append_of_subset (hwrite₂.ids ht₂) h.ids₂, hdrawn⟩, fun _ => hsame.answer⟩
  kept_of_observed {call} hseen := by
    rw [isFor, decide_eq_true_eq] at hseen
    simp [isNotForOthers, hseen]

/-- **Tenants do not notice each other.** A run of the service, and what is left of it
    without the calls for other tenants: the tenant is answered in the same way, and has
    the same rows at the end. -/
theorem tenant_isolated {calls : List Call}
    (hproper : Guarded (Service.step driver settings) (Proper tenantId) .initial calls)
    (hnames : ∀ call ∈ calls, KeepsNames names driver call) :
    answers (Service.step driver settings) (isFor names tenantId) .initial calls =
        answers (Service.step driver settings) (isFor names tenantId) .initial
          (calls.filter (isNotForOthers names tenantId)) ∧
      Agree tenantId (after (Service.step driver settings) .initial calls).db
        (after (Service.step driver settings) .initial
          (calls.filter (isNotForOthers names tenantId))).db := by
  have hnamed : Named names Service.initial.db :=
    ⟨fun _ he => (List.not_mem_nil he).elim, fun _ hrow => (List.not_mem_nil hrow).elim⟩
  have hstart : Alike names tenantId .initial .initial :=
    ⟨.refl names tenantId _, hnamed, hnamed, List.Subset.refl _, List.Subset.refl _,
      List.Subset.refl _⟩
  obtain ⟨hend, hanswers⟩ :=
    (unwinds names driver settings tenantId).purge calls hstart (hproper.and hnames)
  exact ⟨hanswers, hend.view.toAgree⟩

end Runs

/-! ## Two tenants -/

/-- `"acme-1"` is a key of the first tenant, and every other name one of the second. -/
def twoNames : Names where
  ofKey key := if key = "acme-1" then ⟨1⟩ else ⟨11⟩
  ofEvent _ := ⟨11⟩
  ofStripeSubscription _ := ⟨11⟩

def testMode : Settings where
  stripeApiKey := some "sk_test"
  stripeWebhookSecret := some "whsec_test"

def globex : String := "00000000-0000-0000-0000-00000000000b"

/-- Eight calls of the second tenant. -/
def eightCalls : TenantRequest :=
  .recordUsage { subscriptionId := ⟨13⟩, quantity := 8, idempotencyKey := "globex-1",
                 quantity_pos := by decide }

/-- The second tenant has paid. -/
def globexPaid : StripeEvent where
  id := "evt_1"
  type := "checkout.session.completed"
  data := .obj [("object", .obj
    [("metadata", .obj [("tenant_id", .str globex),
      ("plan_id", .str "00000000-0000-0000-0000-000000000002")]),
      ("subscription", .str "sub_11")])]

/-- Both sign up, use the service in turn, and the first one asks for a rollup and a bill. -/
def twoTenants : List Call :=
  [.createPlan { name := "Pro", price := 4900, usageLimit := 10, apiCallLimit := 10 } ⟨2⟩,
    .createTenant { name := "Acme", email := "billing@acme.test" } ⟨1⟩,
    .createTenant { name := "Globex", email := "billing@globex.test" } ⟨11⟩,
    .createSubscription { tenantId := ⟨1⟩, planId := ⟨2⟩ } Sample.firstOfJuly ⟨3⟩,
    .stripeWebhook (.ok globexPaid) Sample.firstOfJuly ⟨⟨12⟩, ⟨13⟩⟩,
    .tenantRequest acme (fiveCalls "acme-1") Sample.july Sample.july ⟨20⟩,
    .tenantRequest globex eightCalls Sample.july Sample.july ⟨21⟩,
    .tenantRequest acme (.usageRollup ⟨3⟩) Sample.july Sample.july ⟨22⟩,
    .tenantRequest acme (.calculateBill ⟨3⟩) Sample.july Sample.july ⟨23⟩]

theorem tenant_isolated_twoTenants :
    (answers (Service.step .stringsOnly testMode) (isFor twoNames ⟨1⟩) .initial
      twoTenants).length = 4 ∧ (twoTenants.filter (isNotForOthers twoNames ⟨1⟩)).length = 7 ∧
    answers (Service.step .stringsOnly testMode) (isFor twoNames ⟨1⟩) .initial twoTenants =
      answers (Service.step .stringsOnly testMode) (isFor twoNames ⟨1⟩) .initial
        (twoTenants.filter (isNotForOthers twoNames ⟨1⟩)) := by
  refine ⟨by decide, by decide, (tenant_isolated (by decide) ?_).1⟩
  have hpaid : EventOf twoNames .stringsOnly globexPaid := by
    refine ⟨fun _ hobj hfields => ?_, fun _ _ _ _ _ => rfl⟩
    cases hobj
    cases hfields
    exact ⟨rfl, fun _ _ => rfl⟩
  simp only [twoTenants, List.forall_mem_cons]
  exact ⟨trivial, trivial, trivial, trivial, hpaid,
    keepsNames_of_key ⟨1⟩ (by decide) (by decide), keepsNames_of_key ⟨11⟩ (by decide) (by decide),
    keepsNames_of_key ⟨1⟩ (by decide) (by decide), keepsNames_of_key ⟨1⟩ (by decide) (by decide),
    List.forall_mem_nil _⟩

end Tenancy

end BillingEngine
