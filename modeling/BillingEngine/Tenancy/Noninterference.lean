import BillingEngine.System.Serial
import BillingEngine.Tenancy.OwnRows

/-!
# Tenant noninterference

Two runs of one request of a tenant, on databases that differ in the rows of
other tenants only. A drawn key may differ between the runs, so responses and
rows are compared after renaming it. The request is isolated when the tenant can
tell neither from the response nor from its rows which run it was, every event it
is told about is one of its own, and a metering request that is answered has its
event recorded.

The idempotency keys of all tenants share one namespace, and that is the only way
in which the tenants meet.

Results:
* `isolated_iff`: a request is isolated iff nobody else has used its key.
* `foreign_event_returned`: two reachable databases that agree, and a request that
  is answered with another tenant's event.
-/

namespace BillingEngine

open Runs SubscriptionRepository UsageRepository

namespace Tenancy

/-! ## Isolation -/

/-- The event with its drawn key renamed. -/
def renameEvent (old new : Uuid) (e : UsageEvent) : UsageEvent :=
  { e with id := if e.id = old then new else e.id }

/-- The invoice with its drawn key renamed. -/
def renameInvoice (old new : Uuid) (i : Invoice) : Invoice :=
  { i with id := if i.id = old then new else i.id }

/-- The key of the event in the response to a metering request. -/
def renameResponse (old new : Uuid) : Response → Response
  | .usage event => .usage { event with id := if event.id = old then new else event.id }
  | .generate answer => .generate { answer with
      usageEvent := { answer.usageEvent with
        id := if answer.usageEvent.id = old then new else answer.usageEvent.id } }
  | response => response

/-- The events that a response tells about. -/
def eventsOf : Response → List UsageResponse
  | .usage event => [event]
  | .generate answer => [answer.usageEvent]
  | .usageList events => events
  | _ => []

section Definitions

variable (tenantId : Uuid)

/-- The tenant cannot tell the two outcomes apart. -/
structure SameUpToIds (id₁ id₂ : Uuid) (r₁ r₂ : Database × Except Exn Response) : Prop where
  response : r₁.2.map (renameResponse id₁ id₂) = r₂.2
  subscriptions : ownSubscriptions r₁.1 tenantId = ownSubscriptions r₂.1 tenantId
  usageEvents : (ownEvents r₁.1 tenantId).map (renameEvent id₁ id₂) = ownEvents r₂.1 tenantId
  invoices : (ownInvoices r₁.1 tenantId).map (renameInvoice id₁ id₂) = ownInvoices r₂.1 tenantId

/-- What a successful response is about belongs to the tenant. -/
structure Attributed (request : TenantRequest) (r : Database × Except Exn Response) : Prop where
  returned : ∀ response, r.2 = .ok response → ∀ event ∈ eventsOf response,
    ∃ e ∈ ownEvents r.1 tenantId, event = .ofEvent e
  recorded : ∀ response, r.2 = .ok response → ∀ key ∈ request.idempotencyKey,
    ∃ e ∈ ownEvents r.1 tenantId, e.idempotencyKey = key

/-- The two runs are isolated from the rows of others. -/
structure Isolated (request : TenantRequest) (id₁ id₂ : Uuid)
    (r₁ r₂ : Database × Except Exn Response) : Prop where
  same : SameUpToIds tenantId id₁ id₂ r₁ r₂
  attributed₁ : Attributed tenantId request r₁
  attributed₂ : Attributed tenantId request r₂

end Definitions

/-! ## Own rows after a call -/

section OwnRows

variable {tenantId sid id id₁ id₂ : Uuid} {db db' db₁ db₂ db₁' db₂' : Database}

theorem renameEvent_of_ne {e : UsageEvent} (h : e.id ≠ id₁) : renameEvent id₁ id₂ e = e := by
  simp [renameEvent, h]

theorem renameInvoice_of_ne {i : Invoice} (h : i.id ≠ id₁) : renameInvoice id₁ id₂ i = i := by
  simp [renameInvoice, h]

theorem map_renameEvent (hf : id₁ ∉ db.usageEvents.map UsageEvent.id) :
    (ownEvents db tenantId).map (renameEvent id₁ id₂) = ownEvents db tenantId := by
  refine List.map_congr_left (fun e he => renameEvent_of_ne ?_) |>.trans (List.map_id _)
  rintro rfl
  exact hf (List.mem_map_of_mem (List.mem_filter.mp he).1)

theorem map_renameInvoice (hf : id₁ ∉ db.invoices.map Invoice.id) :
    (ownInvoices db tenantId).map (renameInvoice id₁ id₂) = ownInvoices db tenantId := by
  refine List.map_congr_left (fun i hi => renameInvoice_of_ne ?_) |>.trans (List.map_id _)
  rintro rfl
  exact hf (List.mem_map_of_mem (List.mem_filter.mp hi).1)

theorem owns_congr (h : db'.subscriptions = db.subscriptions) :
    Owns db' tenantId sid ↔ Owns db tenantId sid := by
  rw [Owns, Owns, h]

theorem ownSubscriptions_congr (h : db'.subscriptions = db.subscriptions) :
    ownSubscriptions db' tenantId = ownSubscriptions db tenantId := by
  rw [ownSubscriptions, ownSubscriptions, h]

theorem ownEvents_congr (hs : db'.subscriptions = db.subscriptions)
    (he : db'.usageEvents = db.usageEvents) : ownEvents db' tenantId = ownEvents db tenantId := by
  simp only [ownEvents, he, owns_congr hs]

theorem ownInvoices_congr (hs : db'.subscriptions = db.subscriptions)
    (hi : db'.invoices = db.invoices) : ownInvoices db' tenantId = ownInvoices db tenantId := by
  simp only [ownInvoices, hi, owns_congr hs]

theorem ownEvents_concat {e : UsageEvent} (hs : db'.subscriptions = db.subscriptions)
    (he : db'.usageEvents = db.usageEvents ++ [e]) (ho : Owns db tenantId e.subscriptionId) :
    ownEvents db' tenantId = ownEvents db tenantId ++ [e] := by
  simp only [ownEvents, he, owns_congr hs, List.filter_append]
  simp [ho]

theorem ownInvoices_concat {i : Invoice} (hs : db'.subscriptions = db.subscriptions)
    (hi : db'.invoices = db.invoices ++ [i]) (ho : Owns db tenantId i.subscriptionId) :
    ownInvoices db' tenantId = ownInvoices db tenantId ++ [i] := by
  simp only [ownInvoices, hi, owns_congr hs, List.filter_append]
  simp [ho]

/-! ### The outcomes that look the same -/

variable {response₁ response₂ : Except Exn Response}

/-- Nothing is stored. -/
theorem same_of_unchanged (h : Agree tenantId db₁ db₂)
    (hf : id₁ ∉ db₁.usageEvents.map UsageEvent.id) (hf' : id₁ ∉ db₁.invoices.map Invoice.id)
    (hr : response₁.map (renameResponse id₁ id₂) = response₂) :
    SameUpToIds tenantId id₁ id₂ (db₁, response₁) (db₂, response₂) where
  response := hr
  subscriptions := h.subscriptions
  usageEvents := by rw [map_renameEvent hf, h.usageEvents]
  invoices := by rw [map_renameInvoice hf', h.invoices]

/-- Both store the event of the request. -/
theorem same_of_event (h : Agree tenantId db₁ db₂) {usage : UsageRequest} {now : DateTime}
    (ho : Owns db₁ tenantId usage.subscriptionId)
    (hf : id₁ ∉ db₁.usageEvents.map UsageEvent.id) (hf' : id₁ ∉ db₁.invoices.map Invoice.id)
    (ht₁ : db₁'.toTables = { db₁.toTables with
      usageEvents := db₁.usageEvents ++ [newEvent usage id₁ now] })
    (ht₂ : db₂'.toTables = { db₂.toTables with
      usageEvents := db₂.usageEvents ++ [newEvent usage id₂ now] })
    (hr : response₁.map (renameResponse id₁ id₂) = response₂) :
    SameUpToIds tenantId id₁ id₂ (db₁', response₁) (db₂', response₂) := by
  have hs₁ : db₁'.subscriptions = db₁.subscriptions := by rw [ht₁]
  have hs₂ : db₂'.subscriptions = db₂.subscriptions := by rw [ht₂]
  have hi₁ : db₁'.invoices = db₁.invoices := by rw [ht₁]
  have hi₂ : db₂'.invoices = db₂.invoices := by rw [ht₂]
  have he₁ : db₁'.usageEvents = db₁.usageEvents ++ [newEvent usage id₁ now] := by rw [ht₁]
  have he₂ : db₂'.usageEvents = db₂.usageEvents ++ [newEvent usage id₂ now] := by rw [ht₂]
  refine ⟨hr, ?_, ?_, ?_⟩
  · rw [ownSubscriptions_congr hs₁, ownSubscriptions_congr hs₂, h.subscriptions]
  · rw [ownEvents_concat hs₁ he₁ ho, ownEvents_concat hs₂ he₂ (h.owns.mp ho), List.map_append,
      map_renameEvent hf, h.usageEvents]
    simp [renameEvent, newEvent]
  · rw [ownInvoices_congr hs₁ hi₁, ownInvoices_congr hs₂ hi₂, map_renameInvoice hf', h.invoices]

/-- Both store the same invoice. -/
theorem same_of_invoice (h : Agree tenantId db₁ db₂) (invoice : Uuid → Invoice)
    (hid : ∀ a b, renameInvoice a b (invoice a) = invoice b)
    (ho : Owns db₁ tenantId (invoice id₁).subscriptionId)
    (ho' : Owns db₁ tenantId (invoice id₂).subscriptionId)
    (hf : id₁ ∉ db₁.usageEvents.map UsageEvent.id) (hf' : id₁ ∉ db₁.invoices.map Invoice.id)
    (ht₁ : db₁'.toTables = { db₁.toTables with invoices := db₁.invoices ++ [invoice id₁] })
    (ht₂ : db₂'.toTables = { db₂.toTables with invoices := db₂.invoices ++ [invoice id₂] })
    (hr : response₁.map (renameResponse id₁ id₂) = response₂) :
    SameUpToIds tenantId id₁ id₂ (db₁', response₁) (db₂', response₂) := by
  have hs₁ : db₁'.subscriptions = db₁.subscriptions := by rw [ht₁]
  have hs₂ : db₂'.subscriptions = db₂.subscriptions := by rw [ht₂]
  have he₁ : db₁'.usageEvents = db₁.usageEvents := by rw [ht₁]
  have he₂ : db₂'.usageEvents = db₂.usageEvents := by rw [ht₂]
  have hi₁ : db₁'.invoices = db₁.invoices ++ [invoice id₁] := by rw [ht₁]
  have hi₂ : db₂'.invoices = db₂.invoices ++ [invoice id₂] := by rw [ht₂]
  refine ⟨hr, ?_, ?_, ?_⟩
  · rw [ownSubscriptions_congr hs₁, ownSubscriptions_congr hs₂, h.subscriptions]
  · rw [ownEvents_congr hs₁ he₁, ownEvents_congr hs₂ he₂, map_renameEvent hf, h.usageEvents]
  · rw [ownInvoices_concat hs₁ hi₁ ho, ownInvoices_concat hs₂ hi₂ (h.owns.mp ho'), List.map_append,
      map_renameInvoice hf', h.invoices, List.map_singleton, hid]

end OwnRows

/-! ## Metering requests -/

/-- The response of an endpoint that meters: `respond` makes it from the event. -/
def answerWith (respond : UsageEvent → Response) (exn : Exn) :
    Database × Except Exn (Option UsageEvent) → Database × Except Exn Response
  | (db, .ok (some event)) => (db, .ok (respond event))
  | (db, .ok none) => (db, .error exn)
  | (db, .error exn) => (db, .error exn)

section Metering

variable {tenantId id id₁ id₂ : Uuid} {db db₁ db₂ : Database} {usage : UsageRequest}
  {nowBounds nowInsert : DateTime} {request : TenantRequest} {respond : UsageEvent → Response}
  {exn : Exn}

theorem handle_recordUsage_eq {body : UsageCreate} (ho : Owns db tenantId body.subscriptionId) :
    (TenantRequest.recordUsage body).handle db tenantId nowBounds nowInsert id =
      answerWith (fun e => .usage (.ofEvent e)) .responseValidation
        (UsageService.recordUsage db (.usage body) nowBounds nowInsert id) := by
  simp only [TenantRequest.handle, Endpoints.recordUsage, ho.withOwned]
  rcases UsageService.recordUsage db (.usage body) nowBounds nowInsert id with
    ⟨db', exn | _ | event⟩ <;> rfl

theorem handle_generate_eq {body : TokenUsageCreate} (ho : Owns db tenantId body.subscriptionId) :
    (TenantRequest.generate body).handle db tenantId nowBounds nowInsert id =
      answerWith (fun e => .generate (GenerateService.respond e)) .attributeError
        (UsageService.recordUsage db (.tokens body) nowBounds nowInsert id) := by
  simp only [TenantRequest.handle, Endpoints.generate, ho.withOwned, GenerateService.generate]
  rcases UsageService.recordUsage db (.tokens body) nowBounds nowInsert id with
    ⟨db', exn | _ | event⟩ <;> rfl

/-- **A metering request whose key nobody else has used is isolated.** -/
theorem isolated_of_keyIsOwn (h : Agree tenantId db₁ db₂)
    (hevents : ∀ e, eventsOf (respond e) = [.ofEvent e])
    (hrename : ∀ e, renameResponse id₁ id₂ (respond e) = respond (renameEvent id₁ id₂ e))
    (hrequest : request.idempotencyKey = some usage.idempotencyKey)
    (ho : Owns db₁ tenantId usage.subscriptionId)
    (hk₁ : KeyIsOwn db₁ tenantId usage.idempotencyKey)
    (hk₂ : KeyIsOwn db₂ tenantId usage.idempotencyKey)
    (hf₁ : id₁ ∉ db₁.usageEvents.map UsageEvent.id) (hf₁' : id₁ ∉ db₁.invoices.map Invoice.id)
    (hf₂ : id₂ ∉ db₂.usageEvents.map UsageEvent.id) :
    Isolated tenantId request id₁ id₂
      (answerWith respond exn (UsageService.recordUsage db₁ usage nowBounds nowInsert id₁))
      (answerWith respond exn (UsageService.recordUsage db₂ usage nowBounds nowInsert id₂)) := by
  rcases recordUsage_agree h ho hk₁ hk₂ hf₁ hf₂ with
    ⟨r, hr₁, hr₂, hfound⟩ | ⟨db₁', db₂', hr₁, hr₂, ht₁, ht₂⟩
  · rw [hr₁, hr₂]
    cases r with
    | error exn' => exact ⟨same_of_unchanged h hf₁ hf₁' rfl, ⟨by simp [answerWith], by simp
        [answerWith]⟩, ⟨by simp [answerWith], by simp [answerWith]⟩⟩
    | ok found =>
      obtain ⟨e, he, rfl, hkey⟩ := hfound found rfl
      have hattr : ∀ db, e ∈ ownEvents db tenantId →
          Attributed tenantId request (db, .ok (respond e)) := by
        intro db hdb
        refine ⟨fun response hok event hevent => ?_, fun response hok key hk => ?_⟩
        · cases hok
          rw [hevents, List.mem_singleton] at hevent
          exact ⟨e, hdb, hevent⟩
        · rw [hrequest] at hk
          cases hk
          exact ⟨e, hdb, hkey⟩
      refine ⟨same_of_unchanged h hf₁ hf₁' ?_, hattr db₁ he, hattr db₂ (h.usageEvents ▸ he)⟩
      -- the event was stored before, so its key is not the drawn one
      have hne : e.id ≠ id₁ := by
        rintro rfl
        exact hf₁ (List.mem_map_of_mem (List.mem_filter.mp he).1)
      rw [Except.map, hrename, renameEvent_of_ne hne]
  · rw [hr₁, hr₂]
    have hattr : ∀ (db db' : Database) (id : Uuid), Owns db tenantId usage.subscriptionId →
        db'.toTables = { db.toTables with
          usageEvents := db.usageEvents ++ [newEvent usage id nowInsert] } →
        Attributed tenantId request (db', .ok (respond (newEvent usage id nowInsert))) := by
      intro db db' id hdb ht
      have hown : newEvent usage id nowInsert ∈ ownEvents db' tenantId := by
        have hs : db'.subscriptions = db.subscriptions := by rw [ht]
        rw [ownEvents_concat hs (by rw [ht]) hdb]
        simp
      refine ⟨fun response hok event hevent => ?_, fun response hok key hk => ?_⟩
      · cases hok
        rw [hevents, List.mem_singleton] at hevent
        exact ⟨_, hown, hevent⟩
      · rw [hrequest] at hk
        cases hk
        exact ⟨_, hown, rfl⟩
    refine ⟨same_of_event h ho hf₁ hf₁' ht₁ ht₂ ?_, hattr db₁ db₁' id₁ ho ht₁,
      hattr db₂ db₂' id₂ (h.owns.mp ho) ht₂⟩
    rw [Except.map, hrename]
    simp [renameEvent, newEvent]

/-- The event under the key is returned, whoever it belongs to. -/
theorem keyIsOwn_of_attributed (hevents : ∀ e, eventsOf (respond e) = [.ofEvent e])
    (h : Attributed tenantId request
      (answerWith respond exn (UsageService.recordUsage db usage nowBounds nowInsert id))) :
    KeyIsOwn db tenantId usage.idempotencyKey := by
  intro e he hkey
  have hlookup := getByIdempotencyKey_eq_some_iff.mpr ⟨he, hkey⟩
  simp only [UsageService.recordUsage, lookupIdempotencyKey_of_some hlookup, answerWith] at h
  obtain ⟨e', he', heq⟩ := h.returned _ rfl (.ofEvent e) (by simp [hevents])
  have hsub : e.subscriptionId = e'.subscriptionId := congrArg UsageResponse.subscriptionId heq
  rw [hsub]
  simpa using (List.mem_filter.mp he').2

end Metering

/-! ## All requests -/

section Requests

variable {tenantId sid id id₁ id₂ : Uuid} {db db₁ db₂ : Database} {nowBounds nowInsert : DateTime}
  {request : TenantRequest} {r : Database × Except Exn Response}

/-- A response that tells about no event. -/
theorem attributed_of_no_event (hkey : request.idempotencyKey = none)
    (h : ∀ response, r.2 = .ok response → eventsOf response = []) :
    Attributed tenantId request r where
  returned response hok event hevent := by rw [h response hok] at hevent; cases hevent
  recorded _ _ key hk := by rw [hkey] at hk; cases hk

theorem attributed_listUsage :
    Attributed tenantId .listUsage
      (TenantRequest.listUsage.handle db tenantId nowBounds nowInsert id) where
  returned response hok event hevent := by
    cases hok
    obtain ⟨e, he, rfl⟩ := List.mem_map.mp hevent
    rw [getAllByTenant_eq, List.mem_insertionSort] at he
    exact ⟨e, he, rfl⟩
  recorded _ _ _ hk := by cases hk

theorem isolated_listUsage (h : Agree tenantId db₁ db₂)
    (hf : id₁ ∉ db₁.usageEvents.map UsageEvent.id) (hf' : id₁ ∉ db₁.invoices.map Invoice.id) :
    Isolated tenantId .listUsage id₁ id₂
      (TenantRequest.listUsage.handle db₁ tenantId nowBounds nowInsert id₁)
      (TenantRequest.listUsage.handle db₂ tenantId nowBounds nowInsert id₂) := by
  refine ⟨same_of_unchanged h hf hf' ?_, attributed_listUsage, attributed_listUsage⟩
  simp only [Except.map, renameResponse, Endpoints.listUsage, getAllByTenant_eq, h.usageEvents]

theorem isolated_listInvoices (h : Agree tenantId db₁ db₂)
    (hf : id₁ ∉ db₁.usageEvents.map UsageEvent.id) (hf' : id₁ ∉ db₁.invoices.map Invoice.id) :
    Isolated tenantId .listInvoices id₁ id₂
      (TenantRequest.listInvoices.handle db₁ tenantId nowBounds nowInsert id₁)
      (TenantRequest.listInvoices.handle db₂ tenantId nowBounds nowInsert id₂) := by
  refine ⟨same_of_unchanged h hf hf' ?_, attributed_of_no_event rfl ?_,
    attributed_of_no_event rfl ?_⟩
  · simp only [Except.map, renameResponse, Endpoints.listInvoices, getAllByTenant_invoices_eq,
      h.invoices]
  all_goals intro response hok; cases hok; rfl

theorem isolated_usageRollup (h : Agree tenantId db₁ db₂) (ho : Owns db₁ tenantId sid)
    (hf : id₁ ∉ db₁.usageEvents.map UsageEvent.id) (hf' : id₁ ∉ db₁.invoices.map Invoice.id) :
    Isolated tenantId (.usageRollup sid) id₁ id₂
      ((TenantRequest.usageRollup sid).handle db₁ tenantId nowBounds nowInsert id₁)
      ((TenantRequest.usageRollup sid).handle db₂ tenantId nowBounds nowInsert id₂) := by
  have hresult : ∃ r : Except Exn UsageRollupResponse,
      Endpoints.usageRollup db₁ tenantId sid nowBounds = (db₁, r) ∧
        Endpoints.usageRollup db₂ tenantId sid nowBounds = (db₂, r) := by
    simp only [Endpoints.usageRollup, ho.withOwned, (h.owns.mp ho).withOwned]
    cases monthBounds nowBounds with
    | error exn => exact ⟨_, rfl, rfl⟩
    | ok bounds =>
      obtain ⟨periodStart, periodEnd⟩ := bounds
      simp only [rollup_agree h ho]
      rcases CostService.rollup db₂ sid periodStart periodEnd with exn | _ | rollup <;>
        exact ⟨_, rfl, rfl⟩
  obtain ⟨r, hr₁, hr₂⟩ := hresult
  simp only [TenantRequest.handle, hr₁, hr₂]
  refine ⟨same_of_unchanged h hf hf' ?_, attributed_of_no_event rfl ?_,
    attributed_of_no_event rfl ?_⟩
  · cases r <;> rfl
  all_goals intro response hok; cases r <;> cases hok; rfl

theorem isolated_calculateBill (h : Agree tenantId db₁ db₂) (ho : Owns db₁ tenantId sid)
    (hf : id₁ ∉ db₁.usageEvents.map UsageEvent.id) (hf₁ : id₁ ∉ db₁.invoices.map Invoice.id)
    (hf₂ : id₂ ∉ db₂.invoices.map Invoice.id) :
    Isolated tenantId (.calculateBill sid) id₁ id₂
      ((TenantRequest.calculateBill sid).handle db₁ tenantId nowBounds nowInsert id₁)
      ((TenantRequest.calculateBill sid).handle db₂ tenantId nowBounds nowInsert id₂) := by
  have hbill : ∀ (r : Except Exn BillingResponse),
      (r.map Response.bill).map (renameResponse id₁ id₂) = r.map Response.bill := by
    intro r; cases r <;> rfl
  have hattr : ∀ (db : Database) (r : Except Exn BillingResponse),
      Attributed tenantId (.calculateBill sid) (db, r.map Response.bill) := by
    intro db r
    refine attributed_of_no_event rfl fun response hok => ?_
    cases r <;> cases hok
    rfl
  simp only [TenantRequest.handle, Endpoints.calculateBill, ho.withOwned,
    (h.owns.mp ho).withOwned]
  rcases calculateBill_agree nowBounds nowInsert h ho hf₁ hf₂ with
    ⟨r, hr₁, hr₂⟩ | ⟨db₁', db₂', s, plan, totalUsage, start, stop, r, hr₁, hr₂, rfl, hdb₁, hdb₂⟩
  · rw [hr₁, hr₂]
    exact ⟨same_of_unchanged h hf hf₁ (hbill r), hattr _ r, hattr _ r⟩
  · rw [hr₁, hr₂]
    have hsame := same_of_invoice h
      (fun id => BillingService.newInvoice s plan totalUsage start stop id nowInsert)
      (by simp [renameInvoice, BillingService.newInvoice]) ho ho hf hf₁ hdb₁ hdb₂ (hbill r)
    exact ⟨hsame, hattr _ r, hattr _ r⟩

theorem not_mem_of_fresh (h : id ∉ db.ids) :
    id ∉ db.usageEvents.map UsageEvent.id ∧ id ∉ db.invoices.map Invoice.id := by
  simp only [Database.ids, List.mem_append, not_or] at h
  exact ⟨h.1.1.2, h.1.2⟩

/-- **Isolation is a matter of the key.** A request about an owned subscription,
    or about none, is isolated iff every event that has its key is one of the
    tenant. -/
theorem isolated_iff {xTenantId : String} (hheader : getCurrentTenantId xTenantId = .ok tenantId)
    (h : Agree tenantId db₁ db₂) (ho : ∀ sid ∈ request.subscriptionId, Owns db₁ tenantId sid)
    (hf₁ : id₁ ∉ db₁.ids) (hf₂ : id₂ ∉ db₂.ids) :
    Isolated tenantId request id₁ id₂
        (request.serve db₁ xTenantId nowBounds nowInsert id₁)
        (request.serve db₂ xTenantId nowBounds nowInsert id₂) ↔
      ∀ key ∈ request.idempotencyKey, KeyIsOwn db₁ tenantId key ∧ KeyIsOwn db₂ tenantId key := by
  obtain ⟨he₁, hi₁⟩ := not_mem_of_fresh hf₁
  obtain ⟨he₂, hi₂⟩ := not_mem_of_fresh hf₂
  simp only [TenantRequest.serve, hheader]
  cases request with
  | recordUsage usage =>
    have hown := ho usage.subscriptionId rfl
    rw [handle_recordUsage_eq hown, handle_recordUsage_eq (h.owns.mp hown)]
    constructor
    · rintro ⟨-, ha₁, ha₂⟩ key hkey
      cases hkey
      exact ⟨keyIsOwn_of_attributed (fun _ => rfl) ha₁, keyIsOwn_of_attributed (fun _ => rfl) ha₂⟩
    · intro hk
      obtain ⟨hk₁, hk₂⟩ := hk usage.idempotencyKey rfl
      exact isolated_of_keyIsOwn h (fun _ => rfl) (fun _ => rfl) rfl hown hk₁ hk₂ he₁ hi₁ he₂
  | generate body =>
    have hown := ho body.subscriptionId rfl
    rw [handle_generate_eq hown, handle_generate_eq (h.owns.mp hown)]
    constructor
    · rintro ⟨-, ha₁, ha₂⟩ key hkey
      cases hkey
      exact ⟨keyIsOwn_of_attributed (fun _ => rfl) ha₁, keyIsOwn_of_attributed (fun _ => rfl) ha₂⟩
    · intro hk
      obtain ⟨hk₁, hk₂⟩ := hk body.idempotencyKey rfl
      exact isolated_of_keyIsOwn h (fun _ => rfl) (fun _ => rfl) rfl hown hk₁ hk₂ he₁ hi₁ he₂
  | listUsage =>
    exact iff_of_true (isolated_listUsage h he₁ hi₁) (by simp [TenantRequest.idempotencyKey])
  | usageRollup sid =>
    exact iff_of_true (isolated_usageRollup h (ho sid rfl) he₁ hi₁)
      (by simp [TenantRequest.idempotencyKey])
  | calculateBill sid =>
    exact iff_of_true (isolated_calculateBill h (ho sid rfl) he₁ hi₁ hi₂)
      (by simp [TenantRequest.idempotencyKey])
  | listInvoices =>
    exact iff_of_true (isolated_listInvoices h he₁ hi₁) (by simp [TenantRequest.idempotencyKey])

end Requests

/-! ## Two tenants, one key -/

/-- A second tenant with a subscription of its own. -/
def neighbour : List Op :=
  [.createTenant { name := "Globex", email := "billing@globex.test" } ⟨11⟩,
    .createSubscription { tenantId := ⟨11⟩, planId := ⟨2⟩ } Sample.firstOfJuly ⟨13⟩]

/-- The second tenant records three calls under the key `"key-1"`. -/
def neighbourCalls : Op :=
  .recordUsage (.usage { subscriptionId := ⟨13⟩, quantity := 3, idempotencyKey := "key-1",
                         quantity_pos := by decide }) Sample.july Sample.july ⟨14⟩

def quiet : Serial :=
  (exec (Serial.next .stringsOnly) (Serial.initial Sample.firstOfJuly)
    (Sample.setUp ++ neighbour)).get (by decide)

def busy : Serial :=
  (exec (Serial.next .stringsOnly) (Serial.initial Sample.firstOfJuly)
    (Sample.setUp ++ neighbour ++ [neighbourCalls])).get (by decide)

theorem agree_busy_quiet : Agree ⟨1⟩ busy.db quiet.db :=
  ⟨by decide, by decide, by decide, by decide⟩

/-- Five calls of the first tenant. -/
def fiveCalls (idempotencyKey : String) : TenantRequest :=
  .recordUsage { subscriptionId := ⟨3⟩, quantity := 5, idempotencyKey, quantity_pos := by decide }

def acme : String := "00000000-0000-0000-0000-000000000001"

/-- Under a key of its own the first tenant does not notice the second one. -/
theorem isolated_iff_other_key : Isolated ⟨1⟩ (fiveCalls "key-2") ⟨20⟩ ⟨21⟩
    ((fiveCalls "key-2").serve busy.db acme Sample.july Sample.july ⟨20⟩)
    ((fiveCalls "key-2").serve quiet.db acme Sample.july Sample.july ⟨21⟩) := by
  refine (isolated_iff (by decide) agree_busy_quiet ?_ (by decide) (by decide)).mpr ?_
  · intro sid hsid; cases hsid; decide
  · intro key hkey; cases hkey; decide

/-- Under the key of the second tenant the first one is told about the event of
    the second one, and its own calls are not recorded. -/
theorem foreign_event_returned :
    Run (Serial.next .stringsOnly) Always (Serial.initial Sample.firstOfJuly) busy ∧
    Run (Serial.next .stringsOnly) Always (Serial.initial Sample.firstOfJuly) quiet ∧
    Agree ⟨1⟩ busy.db quiet.db ∧ Owns busy.db ⟨1⟩ ⟨3⟩ ∧
    ((fiveCalls "key-1").serve busy.db acme Sample.july Sample.july ⟨20⟩).2 =
      .ok (.usage { id := ⟨14⟩, subscriptionId := ⟨13⟩, usageType := .apiCall, quantity := 3 }) ∧
    ((fiveCalls "key-1").serve quiet.db acme Sample.july Sample.july ⟨20⟩).2 =
      .ok (.usage { id := ⟨20⟩, subscriptionId := ⟨3⟩, usageType := .apiCall, quantity := 5 }) ∧
    ownEvents ((fiveCalls "key-1").serve busy.db acme Sample.july Sample.july ⟨20⟩).1 ⟨1⟩ = [] ∧
    ¬ Isolated ⟨1⟩ (fiveCalls "key-1") ⟨20⟩ ⟨20⟩
      ((fiveCalls "key-1").serve busy.db acme Sample.july Sample.july ⟨20⟩)
      ((fiveCalls "key-1").serve quiet.db acme Sample.july Sample.july ⟨20⟩) := by
  have hresponse : ((fiveCalls "key-1").serve busy.db acme Sample.july Sample.july ⟨20⟩).2 =
      .ok (.usage { id := ⟨14⟩, subscriptionId := ⟨13⟩, usageType := .apiCall, quantity := 3 }) :=
    by decide
  have hevents : ownEvents ((fiveCalls "key-1").serve busy.db acme Sample.july Sample.july ⟨20⟩).1
      ⟨1⟩ = [] := by decide
  refine ⟨Run.of_exec_isSome _, Run.of_exec_isSome _, agree_busy_quiet, by decide, hresponse,
    by decide, hevents, fun h => ?_⟩
  obtain ⟨e, he, -⟩ := h.attributed₁.recorded _ hresponse "key-1" rfl
  rw [hevents] at he
  cases he

end Tenancy

end BillingEngine
