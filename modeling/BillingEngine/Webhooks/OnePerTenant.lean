import BillingEngine.System.Concurrent

/-!
# One subscription per tenant

The checkout handler reads the subscription of the tenant and, when there is none,
adds one that is inserted by the commit at the end. No constraint on `tenant_id`
backs the read up, and the unique event id only keeps deliveries of one event apart.
So two checkouts of one tenant who has no subscription yet can both insert one.

Results:
* `insert_of_processStep`: an insert is only pending when the read found no row.
* `one_per_tenant_of_alone`: every tenant has at most one subscription at every point
  of a run in which no delivery commits an insert for a tenant while another one is
  about to insert for the same tenant.
* `second_insert_duplicates`: an insert for a tenant who has got a subscription in the
  meantime gives a second one.
* `two_checkouts_one_tenant`: two checkouts of one tenant do that.
-/

namespace BillingEngine

open Runs Interleaving SubscriptionRepository StripeService

namespace OnePerTenant

/-- The tenants of the subscriptions. -/
def tenants (db : Database) : List Uuid := db.subscriptions.map Subscription.tenantId

/-- Each tenant has at most one subscription. -/
def Unique (db : Database) : Prop := (tenants db).Nodup

instance (db : Database) : Decidable (Unique db) := inferInstanceAs (Decidable (List.Nodup _))

/-- The tenant for whom a delivery has found no subscription and is about to insert one. -/
def aboutToInsert : Session → Option Uuid
  | .handleWebhook _ (.commit (.insert tenantId _ _ _ _)) => some tenantId
  | _ => none

theorem aboutToInsert_of_isStart {s : Session} (h : s.IsStart) : aboutToInsert s = none := by
  cases s with
  | handleWebhook event pc => obtain rfl : pc = .lookupMarker := h; rfl
  | _ => rfl

section Step

variable {driver : Driver} {event : StripeEvent} {ids : NewIds} {now : DateTime}
  {db db' : Database} {pc pc' : WebhookPc}

theorem getByTenant_eq_none_iff {tenantId : Uuid} :
    getByTenant db tenantId = none ↔ tenantId ∉ tenants db := by
  rw [getByTenant, Rows.find?_eq_none, tenants]
  simp

/-- **What `_process_event` leaves pending.** An insert is only pending for a tenant
    who had no subscription. -/
theorem insert_of_processStep {tenantId planId : Uuid} {status : SubscriptionStatus}
    {customer stripeSub : Option String}
    (h : processStep driver db event =
      .ok (.commit (.insert tenantId planId status customer stripeSub))) :
    tenantId ∉ tenants db := by
  unfold processStep at h
  obtain ⟨data, -, h⟩ := bind_eq_ok.mp h
  split_ifs at h
  · obtain ⟨pending, hpending, h⟩ := bind_eq_ok.mp h
    cases h
    obtain ⟨fields, -, hwrite⟩ := syncFromCheckout_ok.mp hpending
    unfold CheckoutFields.write at hwrite
    split at hwrite
    · rename_i hnone
      cases hwrite
      exact getByTenant_eq_none_iff.mp hnone
    · cases hwrite
  · rcases statusStep_ok h with ⟨-, hpc⟩ | ⟨loaded, -, ⟨priceId, hpc⟩ | hpc⟩ <;> cases hpc
  · obtain ⟨pending, hpending, h⟩ := bind_eq_ok.mp h
    cases h
    rcases cancelSubscription_ok hpending with ⟨-, heq⟩ | ⟨loaded, -, heq⟩ <;> cases heq
  · cases h

/-- A write of a webhook transaction gives no row another tenant, and inserts one for
    the tenant who is pending. -/
theorem tenants_applyTo (event : StripeEvent) (pending : PendingWrite) (newId : Uuid)
    (now : DateTime) (subscriptions : List Subscription) :
    (pending.applyTo newId now subscriptions).map Subscription.tenantId =
      subscriptions.map Subscription.tenantId ++
        (aboutToInsert (.handleWebhook event (.commit pending))).toList := by
  cases pending with
  | none => simp [PendingWrite.applyTo, aboutToInsert]
  | insert => simp [PendingWrite.applyTo, aboutToInsert]
  | update id patch =>
    have hkeep : ∀ s : Subscription,
        (if s.id = id then patch.apply s else s).tenantId = s.tenantId := by
      intro s; split_ifs <;> rfl
    rw [PendingWrite.applyTo, Rows.map_map_of_eq hkeep]
    simp [aboutToInsert]

/-- **One step of a delivery** finds that the tenant has no subscription, or inserts for
    the tenant for whom it was about to insert. -/
theorem looksThenInserts_webhookStep
    (h : webhookStep driver event ids now db pc = some (db', pc')) :
    LooksThenInserts tenants aboutToInsert db (.handleWebhook event pc) db'
      (.handleWebhook event pc') := by
  cases pc with
  | lookupMarker =>
    simp only [webhookStep] at h
    split at h <;> cases h <;> exact .of_idle rfl rfl
  | process =>
    simp only [webhookStep] at h
    split at h <;> cases h
    · rename_i hp
      refine .inl ⟨rfl, fun tenantId ht => .inr ?_⟩
      cases pc' with
      | commit pending =>
        cases pending with
        | insert => cases ht; exact insert_of_processStep hp
        | _ => cases ht
      | _ => cases ht
    · exact .of_idle rfl rfl
  | readPlan loaded status priceId =>
    simp only [webhookStep] at h
    cases h
    exact .of_idle rfl rfl
  | commit pending =>
    have hdone : aboutToInsert (.handleWebhook event pc') = none := by
      simp only [webhookStep] at h
      split at h <;> cases h <;> rfl
    rcases webhookStep_effect h with ⟨rfl, -⟩ | ⟨pending', heq, -, ht⟩
    · exact .of_idle rfl hdone
    · cases heq
      have htenants : tenants db' = tenants db ++
          (aboutToInsert (.handleWebhook event (.commit pending))).toList := by
        rw [tenants, ht]
        exact tenants_applyTo event pending ids.subscription now db.subscriptions
      cases hp : aboutToInsert (.handleWebhook event (.commit pending)) with
      | none =>
        rw [hp, Option.toList_none, List.append_nil] at htenants
        exact .of_idle htenants hdone
      | some tenantId =>
        rw [hp, Option.toList_some] at htenants
        exact .inr ⟨hdone, tenantId, hp, htenants⟩
  | rollback exn => simp only [webhookStep] at h; cases h; exact .of_idle rfl rfl
  | done result => simp [webhookStep] at h

end Step

/-- The same for a step of any call. -/
theorem looksThenInserts_step {driver : Driver} {input : Input} {db db' : Database}
    {s s' : Session} (h : Session.step driver input db s = some (db', s')) :
    LooksThenInserts tenants aboutToInsert db s db' s' := by
  cases s with
  | handleWebhook event pc =>
    obtain ⟨pc', hstep, rfl⟩ := Session.step_handleWebhook.mp h
    exact looksThenInserts_webhookStep hstep
  | recordUsage usage pc =>
    obtain ⟨pc', hstep, rfl⟩ := Session.step_recordUsage.mp h
    exact .of_idle (by rw [tenants, recordStep_other hstep]; rfl) rfl
  | calculateBill bill pc =>
    obtain ⟨pc', hstep, rfl⟩ := Session.step_calculateBill.mp h
    exact .of_idle (by rw [tenants, billStep_other hstep]; rfl) rfl
  | runOnce attempts pc =>
    obtain ⟨pc', hstep, rfl⟩ := Session.step_runOnce.mp h
    refine .of_idle ?_ rfl
    rcases jobStep_effect hstep with ⟨rfl, -⟩ | ⟨changed, -, -, ht⟩
    · rfl
    · rw [tenants, ht, ReconciliationService.applyStatuses_eq_map, List.map_map]
      rfl

variable {ι : Type*} [DecidableEq ι] {driver : Driver} {c₀ c : System ι}

/-- **One subscription per tenant, as long as no two deliveries are about to insert
    one for the same tenant** when one of them commits. -/
theorem one_per_tenant_of_alone (hstart : ∀ i, (c₀.locals i).IsStart) (hinit : Unique c₀.shared)
    (hrun : Run (System.next driver) (Alone aboutToInsert) c₀ c) : Unique c.shared :=
  Interleaving.Run.nodup_of_alone (L := fun _ => True)
    (fun _ _ _ _ _ _ h => ⟨looksThenInserts_step h, trivial⟩) hrun (fun _ => trivial)
    (fun j => aboutToInsert_of_isStart (hstart j)) hinit

/-- A delivery that is about to insert for a tenant who has got a subscription in the
    meantime inserts a second one, unless the database refuses the row. -/
theorem second_insert_duplicates {i : ι} {input : Input} {c' : System ι} {tenantId : Uuid}
    (ht : aboutToInsert (c.locals i) = some tenantId) (hmem : tenantId ∈ tenants c.shared)
    (h : System.next driver c (i, input) = some c') :
    c'.shared = c.shared ∨ ¬ Unique c'.shared := by
  obtain ⟨db', s', hstep, rfl⟩ := next_eq_some.mp h
  generalize hs : c.locals i = s at ht hstep
  cases s with
  | handleWebhook event pc =>
    obtain ⟨pc', hwebhook, rfl⟩ := Session.step_handleWebhook.mp hstep
    rcases webhookStep_effect hwebhook with ⟨heq, -⟩ | ⟨pending, rfl, -, htables⟩
    · exact .inl heq
    · refine .inr fun hu => ?_
      rw [Unique, tenants, htables] at hu
      dsimp only at hu
      rw [tenants_applyTo event, ht, Option.toList_some] at hu
      exact (List.disjoint_of_nodup_append hu) hmem (List.mem_singleton_self _)
  | _ => cases ht

/-! ## Two checkouts -/

/-- A tenant without a subscription. -/
def newcomer : Database where
  tenants := Sample.db.tenants
  plans := Sample.db.plans
  subscriptions := []
  usageEvents := []
  invoices := []
  webhookEvents := []
  fits := by decide
  constraints := by decide

/-- A checkout of the tenant, paid for with the given Stripe subscription. -/
def checkout (eventId stripeSub : String) : StripeEvent where
  id := eventId
  type := "checkout.session.completed"
  data := .obj [("object", .obj
    [("metadata", .obj [("tenant_id", .str "00000000-0000-0000-0000-000000000001"),
      ("plan_id", .str "00000000-0000-0000-0000-000000000002")]),
      ("subscription", .str stripeSub)])]

def race : System Bool where
  shared := newcomer
  locals := fun i =>
    if i then .handleWebhook (checkout "evt_2" "sub_2") .lookupMarker
    else .handleWebhook (checkout "evt_1" "sub_1") .lookupMarker

theorem race_isStart : ∀ i, (race.locals i).IsStart := by intro i; cases i <;> rfl

/-- The second delivery reads the tenant's subscription after the first has inserted it. -/
theorem one_per_tenant_of_alone_in_turn :
    ∃ c, Run (System.next .stringsOnly) (Alone aboutToInsert) race c ∧
      c.shared.webhookEvents.length = 2 ∧ Unique c.shared := by
  have hrun := Run.of_execGuarded_isSome (show (execGuarded (System.next .stringsOnly)
    (Alone aboutToInsert) race (Sample.schedule [false, true, false, false, true, true])).isSome
      by decide)
  exact ⟨_, hrun, by decide, one_per_tenant_of_alone race_isStart (by decide) hrun⟩

/-- Both deliveries read before either of them commits. -/
theorem two_checkouts_one_tenant : (∀ i, (race.locals i).IsStart) ∧ Unique race.shared ∧
    ∃ c, Run (System.next .stringsOnly) FreshIds race c ∧ ¬ Unique c.shared := by
  have hrun := Run.of_execGuarded_isSome (show (execGuarded (System.next .stringsOnly) FreshIds
    race (Sample.schedule [false, true, false, true, false, true])).isSome by decide)
  exact ⟨race_isStart, by decide, _, hrun, by decide⟩

end OnePerTenant

end BillingEngine
