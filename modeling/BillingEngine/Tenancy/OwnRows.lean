import BillingEngine.Api.Endpoints

/-!
# What a tenant owns, and what is read of it

The rows of a tenant are its subscriptions and the usage events and invoices of
these. Two databases agree for a tenant when they have the same plans and the
same rows of the tenant, in the same order. Every query of the tenant-scoped
endpoints, asked about an owned subscription, is answered from these rows, with
one exception: `get_by_idempotency_key` looks at every event there is.

Results:
* `Agree.getById`, `Agree.getTotalByType`, …: the queries that own rows answer.
* `Agree.getByIdempotencyKey`: so does the exception, if nobody else has used
  the key.
* `recordUsage_agree`, `calculateBill_agree`, `rollup_agree`: the services.
-/

namespace BillingEngine

open Ledger SubscriptionRepository UsageRepository

namespace Tenancy

section Definitions

variable (db : Database) (tenantId : Uuid)

/-- The subscription is one of the tenant. -/
def Owns (subscriptionId : Uuid) : Prop :=
  ∃ s ∈ db.subscriptions, s.id = subscriptionId ∧ s.tenantId = tenantId

instance : DecidablePred (Owns db tenantId) := fun subscriptionId =>
  inferInstanceAs <| Decidable <|
    ∃ s ∈ db.subscriptions, s.id = subscriptionId ∧ s.tenantId = tenantId

def ownSubscriptions : List Subscription :=
  db.subscriptions.filter fun s => decide (s.tenantId = tenantId)

def ownEvents : List UsageEvent :=
  db.usageEvents.filter fun e => decide (Owns db tenantId e.subscriptionId)

def ownInvoices : List Invoice :=
  db.invoices.filter fun i => decide (Owns db tenantId i.subscriptionId)

/-- Every event with the key is one of the tenant. -/
def KeyIsOwn (key : String) : Prop :=
  ∀ e ∈ db.usageEvents, e.idempotencyKey = key → Owns db tenantId e.subscriptionId

instance (key : String) : Decidable (KeyIsOwn db tenantId key) :=
  inferInstanceAs (Decidable (∀ e ∈ db.usageEvents, _ → _))

end Definitions

/-- The same plans and the same rows of the tenant. -/
structure Agree (tenantId : Uuid) (db₁ db₂ : Database) : Prop where
  plans : db₁.plans = db₂.plans
  subscriptions : ownSubscriptions db₁ tenantId = ownSubscriptions db₂ tenantId
  usageEvents : ownEvents db₁ tenantId = ownEvents db₂ tenantId
  invoices : ownInvoices db₁ tenantId = ownInvoices db₂ tenantId

/-! ## Queries -/

section Queries

variable {tenantId sid : Uuid} {db db₁ db₂ : Database} {key : String}

theorem owns_iff_ownSubscriptions :
    Owns db tenantId sid ↔ sid ∈ (ownSubscriptions db tenantId).map Subscription.id := by
  simp only [Owns, ownSubscriptions, List.mem_map, List.mem_filter, decide_eq_true_eq]
  constructor
  · rintro ⟨s, hs, hid, ht⟩; exact ⟨s, ⟨hs, ht⟩, hid⟩
  · rintro ⟨s, ⟨hs, ht⟩, hid⟩; exact ⟨s, hs, hid, ht⟩

theorem Agree.owns (h : Agree tenantId db₁ db₂) :
    Owns db₁ tenantId sid ↔ Owns db₂ tenantId sid := by
  rw [owns_iff_ownSubscriptions, owns_iff_ownSubscriptions, h.subscriptions]

theorem Agree.getById (h : Agree tenantId db₁ db₂) (ho : Owns db₁ tenantId sid) :
    getById db₁ sid = getById db₂ sid := by
  obtain ⟨s, hs, hid, ht⟩ := ho
  have hown : s ∈ ownSubscriptions db₂ tenantId := by
    rw [← h.subscriptions]
    exact List.mem_filter.mpr ⟨hs, by simpa using ht⟩
  rw [getById_eq_some_iff.mpr ⟨hs, hid⟩,
    getById_eq_some_iff.mpr ⟨(List.mem_filter.mp hown).1, hid⟩]

theorem Agree.planOf (h : Agree tenantId db₁ db₂) (s : Subscription) :
    planOf db₁ s = planOf db₂ s := by
  rw [SubscriptionRepository.planOf, SubscriptionRepository.planOf, PlanRepository.getById,
    PlanRepository.getById, h.plans]

/-- A condition that only events of owned subscriptions meet. -/
theorem Agree.filter_usageEvents (h : Agree tenantId db₁ db₂) (ho : Owns db₁ tenantId sid)
    {p : UsageEvent → Bool} (hp : ∀ e, p e → e.subscriptionId = sid) :
    db₁.usageEvents.filter p = db₂.usageEvents.filter p := by
  have h₁ : (ownEvents db₁ tenantId).filter p = db₁.usageEvents.filter p :=
    Rows.filter_filter_of_imp fun e _ hpe => decide_eq_true (hp e hpe ▸ ho)
  have h₂ : (ownEvents db₂ tenantId).filter p = db₂.usageEvents.filter p :=
    Rows.filter_filter_of_imp fun e _ hpe => decide_eq_true (hp e hpe ▸ h.owns.mp ho)
  rw [← h₁, ← h₂, h.usageEvents]

theorem subscriptionId_of_countsTowards {start stop : Option DateTime} {e : UsageEvent}
    (h : countsTowards sid start stop e) : e.subscriptionId = sid := by
  simp only [countsTowards, Bool.and_eq_true, decide_eq_true_eq] at h
  exact h.1

theorem subscriptionId_of_countsTowardsType {usageType : UsageType} {start stop : Option DateTime}
    {e : UsageEvent} (h : countsTowardsType sid usageType start stop e) :
    e.subscriptionId = sid := by
  simp only [countsTowardsType, Bool.and_eq_true] at h
  exact subscriptionId_of_countsTowards h.2

theorem Agree.getTotalUsage (h : Agree tenantId db₁ db₂) (ho : Owns db₁ tenantId sid)
    (start stop : Option DateTime) :
    getTotalUsage db₁ sid start stop = getTotalUsage db₂ sid start stop :=
  sumWhere_congr_filter (h.filter_usageEvents ho fun _ => subscriptionId_of_countsTowards)

theorem Agree.getTotalByType (h : Agree tenantId db₁ db₂) (ho : Owns db₁ tenantId sid)
    (usageType : UsageType) (start stop : Option DateTime) :
    getTotalByType db₁ sid usageType start stop = getTotalByType db₂ sid usageType start stop :=
  sumWhere_congr_filter (h.filter_usageEvents ho fun _ => subscriptionId_of_countsTowardsType)

theorem Agree.getTokenTotals (h : Agree tenantId db₁ db₂) (ho : Owns db₁ tenantId sid)
    (start stop : Option DateTime) :
    getTokenTotals db₁ sid start stop = getTokenTotals db₂ sid start stop := by
  have hrows := h.filter_usageEvents ho
    (p := countsTowardsType sid .tokens start stop) fun _ => subscriptionId_of_countsTowardsType
  simp only [UsageRepository.getTokenTotals, sumWhere_congr_filter hrows]

theorem Agree.getBySubscriptionAndPeriod (h : Agree tenantId db₁ db₂)
    (ho : Owns db₁ tenantId sid) (start stop : DateTime) :
    InvoiceRepository.getBySubscriptionAndPeriod db₁ sid start stop =
      InvoiceRepository.getBySubscriptionAndPeriod db₂ sid start stop := by
  have hsid : ∀ i, InvoiceRepository.isForPeriod sid start stop i → i.subscriptionId = sid :=
    fun i hi => (InvoiceRepository.isForPeriod_iff.mp hi).1
  have h₁ : (ownInvoices db₁ tenantId).find? (InvoiceRepository.isForPeriod sid start stop) =
      InvoiceRepository.getBySubscriptionAndPeriod db₁ sid start stop :=
    Rows.find?_filter_of_imp fun i _ hi => decide_eq_true (hsid i hi ▸ ho)
  have h₂ : (ownInvoices db₂ tenantId).find? (InvoiceRepository.isForPeriod sid start stop) =
      InvoiceRepository.getBySubscriptionAndPeriod db₂ sid start stop :=
    Rows.find?_filter_of_imp fun i _ hi => decide_eq_true (hsid i hi ▸ h.owns.mp ho)
  rw [← h₁, ← h₂, h.invoices]

theorem find?_ownEvents (hk : KeyIsOwn db tenantId key) :
    (ownEvents db tenantId).find? (fun e => decide (e.idempotencyKey = key)) =
      getByIdempotencyKey db key :=
  Rows.find?_filter_of_imp fun e he hkey =>
    decide_eq_true (hk e he (by simpa using hkey))

/-- The key lookup, when nobody else has used the key. -/
theorem Agree.getByIdempotencyKey (h : Agree tenantId db₁ db₂) (hk₁ : KeyIsOwn db₁ tenantId key)
    (hk₂ : KeyIsOwn db₂ tenantId key) :
    getByIdempotencyKey db₁ key = getByIdempotencyKey db₂ key := by
  rw [← find?_ownEvents hk₁, ← find?_ownEvents hk₂, h.usageEvents]

/-- The join with the subscriptions of a tenant keeps the rows that belong to them. -/
theorem join_eq_filter {ρ : Type} (db : Database) (tenantId : Uuid) (fkey : ρ → Uuid)
    (rows : List ρ) :
    (rows.flatMap fun r => (db.subscriptions.filter fun s =>
      decide (s.id = fkey r) && decide (s.tenantId = tenantId)).map fun _ => r) =
      rows.filter fun r => decide (Owns db tenantId (fkey r)) := by
  rw [Rows.flatMap_join_of_unique fkey (fun s => decide (s.tenantId = tenantId))
    db.constraints.subscriptions_pkey]
  refine List.filter_congr fun r _ => decide_eq_decide.mpr ?_
  simp only [Owns, decide_eq_true_eq]

/-- `GET /usage` lists the own events. -/
theorem getAllByTenant_eq : getAllByTenant db tenantId =
    (ownEvents db tenantId).insertionSort fun a b => b.createdAt ≤ a.createdAt := by
  rw [getAllByTenant, join_eq_filter db tenantId UsageEvent.subscriptionId]
  rfl

/-- `GET /invoices` lists the own invoices. -/
theorem getAllByTenant_invoices_eq : InvoiceRepository.getAllByTenant db tenantId =
    (ownInvoices db tenantId).insertionSort fun a b => b.createdAt ≤ a.createdAt := by
  rw [InvoiceRepository.getAllByTenant, join_eq_filter db tenantId Invoice.subscriptionId]
  rfl

end Queries

/-! ## Services -/

section Services

variable {tenantId sid id id₁ id₂ : Uuid} {db db₁ db₂ : Database} {usage : UsageRequest}
  {nowBounds nowInsert : DateTime}

/-- With fresh keys and a subscription that exists, an insert is accepted iff the
    row fits its columns. -/
theorem insert_of_fresh (event : UsageEvent) (hid : event.id ∉ db.usageEvents.map UsageEvent.id)
    (hkey : event.idempotencyKey ∉ db.usageEvents.map UsageEvent.idempotencyKey)
    (hsub : event.subscriptionId ∈ db.subscriptions.map Subscription.id) :
    (event.Fits ∧ ∃ db', insert db event = .ok db' ∧
      db'.toTables = { db.toTables with usageEvents := db.usageEvents ++ [event] }) ∨
      (¬ event.Fits ∧ insert db event = .error .dataError) := by
  rcases insert_cases db event with ⟨db', hok, ht, hfits, -⟩ | ⟨-, -, hdup⟩ | ⟨herr, hfits⟩
  · exact .inl ⟨hfits, db', hok, ht⟩
  · rcases hdup with hdup | hdup | hdup
    · exact absurd hdup hid
    · exact absurd hdup hkey
    · exact absurd hsub hdup
  · exact .inr ⟨hfits, herr⟩

/-- The same for an invoice. -/
theorem createInvoice_of_fresh (invoice : Invoice)
    (hid : invoice.id ∉ db.invoices.map Invoice.id)
    (hsub : invoice.subscriptionId ∈ db.subscriptions.map Subscription.id) :
    (invoice.Fits ∧ ∃ db', InvoiceRepository.create db invoice = .ok db' ∧
      db'.toTables = { db.toTables with invoices := db.invoices ++ [invoice] }) ∨
      (¬ invoice.Fits ∧ InvoiceRepository.create db invoice = .error .dataError) := by
  rcases commit_cases { db.toTables with invoices := db.invoices ++ [invoice] } with
    ⟨db', hok, ht⟩ | ⟨-, -, hcons⟩ | ⟨herr, hfits⟩
  · have hfits := db'.fits
    rw [ht, fits_insertInvoice_iff] at hfits
    exact .inl ⟨hfits, db', hok, ht⟩
  · exact absurd ((constraints_insertInvoice_iff db invoice).mpr ⟨hid, hsub⟩) hcons
  · rw [fits_insertInvoice_iff] at hfits
    exact .inr ⟨hfits, herr⟩

theorem Owns.mem (h : Owns db tenantId sid) : sid ∈ db.subscriptions.map Subscription.id := by
  obtain ⟨s, hs, rfl, -⟩ := h
  exact List.mem_map_of_mem hs

/-- The ownership check passes. -/
theorem Owns.withOwned {α : Type} {body : Database × Except Exn α} (h : Owns db tenantId sid) :
    withOwned db sid tenantId body = body := by
  obtain ⟨s, hs, hid, ht⟩ := h
  exact withOwned_of_owned hs hid ht

/-- **`record_usage` for two databases that agree.** Either nothing is stored and
    the outcome is the same, an own event with the key if it is a success; or
    both store the event of the request. -/
theorem recordUsage_agree (h : Agree tenantId db₁ db₂) (ho : Owns db₁ tenantId usage.subscriptionId)
    (hk₁ : KeyIsOwn db₁ tenantId usage.idempotencyKey)
    (hk₂ : KeyIsOwn db₂ tenantId usage.idempotencyKey)
    (hf₁ : id₁ ∉ db₁.usageEvents.map UsageEvent.id)
    (hf₂ : id₂ ∉ db₂.usageEvents.map UsageEvent.id) :
    (∃ r, UsageService.recordUsage db₁ usage nowBounds nowInsert id₁ = (db₁, r) ∧
        UsageService.recordUsage db₂ usage nowBounds nowInsert id₂ = (db₂, r) ∧
        ∀ found, r = .ok found → ∃ e ∈ ownEvents db₁ tenantId,
          found = some e ∧ e.idempotencyKey = usage.idempotencyKey) ∨
      ∃ db₁' db₂',
        UsageService.recordUsage db₁ usage nowBounds nowInsert id₁ =
          (db₁', .ok (some (newEvent usage id₁ nowInsert))) ∧
        UsageService.recordUsage db₂ usage nowBounds nowInsert id₂ =
          (db₂', .ok (some (newEvent usage id₂ nowInsert))) ∧
        db₁'.toTables = { db₁.toTables with
          usageEvents := db₁.usageEvents ++ [newEvent usage id₁ nowInsert] } ∧
        db₂'.toTables = { db₂.toTables with
          usageEvents := db₂.usageEvents ++ [newEvent usage id₂ nowInsert] } := by
  have hkey := h.getByIdempotencyKey hk₁ hk₂
  have hsub := h.getById ho
  simp only [UsageService.recordUsage, lookupIdempotencyKey, ← hkey, ← hsub, ← h.planOf,
    ← h.getTotalByType ho]
  cases hlookup : getByIdempotencyKey db₁ usage.idempotencyKey with
  | some existing =>
    obtain ⟨hmem, hexisting⟩ := getByIdempotencyKey_eq_some_iff.mp hlookup
    refine .inl ⟨_, rfl, rfl, fun found hfound => ?_⟩
    cases hfound
    exact ⟨existing, List.mem_filter.mpr ⟨hmem, decide_eq_true (hk₁ existing hmem hexisting)⟩, rfl,
      hexisting⟩
  | none =>
    have hkey₁ := getByIdempotencyKey_eq_none_iff.mp hlookup
    have hkey₂ := getByIdempotencyKey_eq_none_iff.mp (hkey ▸ hlookup)
    by_cases hstorable : Storable usage.idempotencyKey
    swap
    · rw [lookupText_none_of_not_storable hstorable]
      exact .inl ⟨_, rfl, rfl, by simp⟩
    rw [lookupText_none hstorable]
    cases getById db₁ usage.subscriptionId with
    | none => exact .inl ⟨_, rfl, rfl, by simp⟩
    | some subscription =>
      by_cases hact : subscription.status = .active
      · cases monthBounds nowBounds with
        | error exn => exact .inl ⟨.error exn, by simp [hact]⟩
        | ok bounds =>
          cases hplan : planOf db₁ subscription with
          | none => exact .inl ⟨.error .attributeError, by simp [hact, hplan]⟩
          | some plan =>
            simp only [hact, hplan, ne_eq, not_true_eq_false, if_false]
            split_ifs with hq
            · exact .inl ⟨_, rfl, rfl, by simp⟩
            · simp only [UsageRepository.create]
              rcases insert_of_fresh (newEvent usage id₁ nowInsert) hf₁ hkey₁ ho.mem with
                ⟨hfits, db₁', hok₁, ht₁⟩ | ⟨hfits, herr₁⟩ <;>
              rcases insert_of_fresh (newEvent usage id₂ nowInsert) hf₂ hkey₂
                (h.owns.mp ho).mem with ⟨hfits', db₂', hok₂, ht₂⟩ | ⟨hfits', herr₂⟩
              · exact .inr ⟨db₁', db₂', by simp only [hok₁], by simp only [hok₂], ht₁, ht₂⟩
              · exact absurd hfits hfits'
              · exact absurd hfits' hfits
              · exact .inl ⟨.error .dataError, by simp only [herr₁], by simp only [herr₂], by simp⟩
      · exact .inl ⟨.error (UsageService.notActive usage subscription.status), by simp [hact]⟩

/-- **`calculate_bill` for two databases that agree.** -/
theorem calculateBill_agree (nowBounds nowInsert : DateTime) (h : Agree tenantId db₁ db₂)
    (ho : Owns db₁ tenantId sid)
    (hf₁ : id₁ ∉ db₁.invoices.map Invoice.id) (hf₂ : id₂ ∉ db₂.invoices.map Invoice.id) :
    (∃ r, BillingService.calculateBill db₁ sid none none nowBounds nowInsert id₁ = (db₁, r) ∧
        BillingService.calculateBill db₂ sid none none nowBounds nowInsert id₂ = (db₂, r)) ∨
      ∃ db₁' db₂' subscription plan totalUsage start stop r,
        BillingService.calculateBill db₁ sid none none nowBounds nowInsert id₁ = (db₁', r) ∧
        BillingService.calculateBill db₂ sid none none nowBounds nowInsert id₂ = (db₂', r) ∧
        subscription.id = sid ∧
        db₁'.toTables = { db₁.toTables with invoices := db₁.invoices ++
          [BillingService.newInvoice subscription plan totalUsage start stop id₁ nowInsert] } ∧
        db₂'.toTables = { db₂.toTables with invoices := db₂.invoices ++
          [BillingService.newInvoice subscription plan totalUsage start stop id₂ nowInsert] } := by
  have hsub := h.getById ho
  simp only [BillingService.calculateBill, ← hsub, ← h.planOf, ← h.getTotalUsage ho,
    ← h.getBySubscriptionAndPeriod ho]
  cases hfound : getById db₁ sid with
  | none => exact .inl ⟨_, rfl, rfl⟩
  | some subscription =>
    obtain ⟨hmem₁, rfl⟩ := getById_eq_some_iff.mp hfound
    have hmem₂ := (getById_eq_some_iff.mp (hsub ▸ hfound)).1
    cases hplan : planOf db₁ subscription with
    | none => exact .inl ⟨.error .attributeError, by simp [hplan]⟩
    | some plan =>
      cases BillingService.billedPeriod none none nowBounds with
      | error exn => exact .inl ⟨.error exn, by simp [hplan]⟩
      | ok period =>
        obtain ⟨start, stop⟩ := period
        simp only [hplan]
        cases InvoiceRepository.getBySubscriptionAndPeriod db₁ subscription.id start stop with
        | some existing => exact .inl ⟨_, rfl, rfl⟩
        | none =>
          generalize getTotalUsage db₁ subscription.id (some start) (some stop) = totalUsage
          rcases createInvoice_of_fresh (BillingService.newInvoice subscription plan
              totalUsage start stop id₁ nowInsert) hf₁ (List.mem_map_of_mem hmem₁) with
            ⟨hfits, db₁', hok₁, ht₁⟩ | ⟨hfits, herr₁⟩ <;>
          rcases createInvoice_of_fresh (BillingService.newInvoice subscription plan
              totalUsage start stop id₂ nowInsert) hf₂ (List.mem_map_of_mem hmem₂) with
            ⟨hfits', db₂', hok₂, ht₂⟩ | ⟨hfits', herr₂⟩
          · exact .inr ⟨db₁', db₂', subscription, plan, totalUsage, start, stop, _,
              by simp only [hok₁]; rfl, by simp only [hok₂]; rfl, rfl, ht₁, ht₂⟩
          · exact absurd hfits hfits'
          · exact absurd hfits' hfits
          · exact .inl ⟨.error .dataError, by simp only [herr₁], by simp only [herr₂]⟩

/-- **`rollup` for two databases that agree.** -/
theorem rollup_agree (h : Agree tenantId db₁ db₂) (ho : Owns db₁ tenantId sid)
    (periodStart periodEnd : DateTime) :
    CostService.rollup db₁ sid periodStart periodEnd =
      CostService.rollup db₂ sid periodStart periodEnd := by
  simp only [CostService.rollup, h.getById ho, h.planOf, h.getTotalByType ho, h.getTokenTotals ho]

end Services

end Tenancy

end BillingEngine
