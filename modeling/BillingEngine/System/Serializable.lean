import BillingEngine.System.Calls

/-!
# Serializable and isolated calls

Nothing locks: a call reads, reads again, and commits what it has computed from
that, while other calls commit in between. The interleaving is still as good as a
serial one when no call acts on something that has changed since it read it; and
calls that are about different subscriptions never do.

Results:
* `System.serializable`: if every call, in the step in which it decides, has read what
  it would read now, then database and replies are those of the service methods, run
  one after the other in the order of the decisions; this order agrees with every
  earlier point of the run.
* `System.isolated`: so it is for calls of `record_usage` and `calculate_bill` about
  different subscriptions, with different idempotency keys, in every interleaving; and
  each of them replies what it would have replied alone, on the database at the start.
-/

namespace BillingEngine

open Runs Interleaving UsageRepository SubscriptionRepository

variable {ι : Type*} [DecidableEq ι]

/-- Running the calls `h` one after the other, as methods, explains the database and
    everything that has been decided. -/
structure System.SerialOrder (driver : Driver) (P : ι → Input → Prop) (c₀ : System ι)
    (h : List (ι × Reply)) (c : System ι) : Prop where
  serially : Serially (fun i db db' r => (c₀.locals i).Performs driver (P i) db db' r) c₀.shared h
    c.shared
  nodup : (h.map Prod.fst).Nodup
  decided : ∀ i r, (i, r) ∈ h ↔ (c.locals i).outcome = some r

/-- The call that moves, if it decides, has read what it would read now. -/
abbrev System.UpToDate (driver : Driver) (P : ι → Input → Prop) (c₀ : System ι) :
    System ι → ι × Input → Prop :=
  Validated (Session.step driver) Session.outcome P c₀.locals

theorem Session.outcome_of_isStart {s : Session} (h : s.IsStart) : s.outcome = none := by
  cases s with
  | recordUsage usage pc => obtain rfl : pc = .lookupKey := h; rfl
  | calculateBill bill pc => obtain rfl : pc = .readSubscription := h; rfl
  | handleWebhook event pc => obtain rfl : pc = .lookupMarker := h; rfl
  | runOnce attempts pc => obtain rfl : pc = .load := h; rfl

omit [DecidableEq ι] in
/-- An order of whole calls is an order of methods. -/
theorem System.serialOrder_of_explains {driver : Driver} {P : ι → Input → Prop} {c₀ c : System ι}
    {h : List (ι × Reply)} (hstart : ∀ i, (c₀.locals i).IsStart)
    (hexp : Explains (Session.step driver) Session.outcome P c₀ h c) :
    SerialOrder driver P c₀ h c where
  serially := hexp.serially.mono fun i _ _ _ hcall => Session.performs_of_call (hstart i) hcall
  nodup := hexp.nodup
  decided := hexp.decided

omit [DecidableEq ι] in
/-- At the start nothing has been decided. -/
theorem System.explains_start {driver : Driver} {P : ι → Input → Prop} {c₀ : System ι}
    (hstart : ∀ i, (c₀.locals i).IsStart) :
    Explains (Session.step driver) Session.outcome P c₀ [] c₀ :=
  .nil fun i => Session.outcome_of_isStart (hstart i)

/-- What has been decided stays explained, by an order that only grows. -/
theorem System.explains_run {driver : Driver} {P : ι → Input → Prop} {c₀ c c' : System ι}
    {h : List (ι × Reply)} (hexp : Explains (Session.step driver) Session.outcome P c₀ h c)
    (hrun : Run (System.next driver) (UpToDate driver P c₀) c c') :
    ∃ later, Explains (Session.step driver) Session.outcome P c₀ (h ++ later) c' := by
  have hkeep : ∀ a db s db' s', Session.step driver a db s = some (db', s') →
      s'.outcome = none → db' = db := fun _ _ _ _ _ => Session.undecided_keeps
  have hdone : ∀ a db s db' s' r, Session.step driver a db s = some (db', s') →
      s.outcome = some r → db' = db ∧ s'.outcome = some r :=
    fun _ _ _ _ _ _ => Session.decided_keeps
  exact Run.explains hkeep hdone hexp hrun

/-- **Serializability.** -/
theorem System.serializable (driver : Driver) (P : ι → Input → Prop) {c₀ c₁ c₂ : System ι}
    (hstart : ∀ i, (c₀.locals i).IsStart)
    (hrun₁ : Run (System.next driver) (UpToDate driver P c₀) c₀ c₁)
    (hrun₂ : Run (System.next driver) (UpToDate driver P c₀) c₁ c₂) :
    ∃ earlier later, SerialOrder driver P c₀ earlier c₁ ∧
      SerialOrder driver P c₀ (earlier ++ later) c₂ := by
  obtain ⟨earlier, hexp₁⟩ := explains_run (explains_start hstart) hrun₁
  obtain ⟨later, hexp₂⟩ := explains_run hexp₁ hrun₂
  exact ⟨earlier, later, serialOrder_of_explains hstart hexp₁,
    serialOrder_of_explains hstart hexp₂⟩

/-! ## Calls about different subscriptions -/

namespace Session

/-- The totals that a request adds to or bills. -/
def meters : Session → List (Uuid × UsageType)
  | recordUsage usage _ => [(usage.subscriptionId, usage.usageType)]
  | calculateBill bill _ => [(bill.subscriptionId, .apiCall), (bill.subscriptionId, .tokens)]
  | _ => []

/-- The idempotency key of a request. -/
def key : Session → Option String
  | recordUsage usage _ => some usage.idempotencyKey
  | _ => none

/-- The two requests are about different subscriptions, or record usage of different
    types; and they do not share an idempotency key. -/
structure Apart (s t : Session) : Prop where
  meters : s.meters.Disjoint t.meters
  key : ∀ k, s.key = some k → t.key ≠ some k

/-- The queries of the request have the same answers. -/
structure SameView (db db' : Database) (s : Session) : Prop where
  subscriptions : db'.subscriptions = db.subscriptions
  plans : db'.plans = db.plans
  total : ∀ m ∈ s.meters, ∀ start stop,
    getTotalByType db' m.1 m.2 start stop = getTotalByType db m.1 m.2 start stop
  invoice : ∀ m ∈ s.meters, ∀ start stop,
    InvoiceRepository.getBySubscriptionAndPeriod db' m.1 start stop =
      InvoiceRepository.getBySubscriptionAndPeriod db m.1 start stop
  event : ∀ k, s.key = some k → getByIdempotencyKey db' k = getByIdempotencyKey db k

variable {driver : Driver} {P : Input → Prop} {input : Input} {db db' db₁ db₂ : Database}
  {s s' t s₀ : Session} {r : Reply}

theorem SameView.refl (db : Database) (s : Session) : SameView db db s :=
  ⟨rfl, rfl, fun _ _ _ _ => rfl, fun _ _ _ _ => rfl, fun _ _ => rfl⟩

theorem SameView.symm (h : SameView db db' s) : SameView db' db s :=
  ⟨h.subscriptions.symm, h.plans.symm, fun m hm start stop => (h.total m hm start stop).symm,
    fun m hm start stop => (h.invoice m hm start stop).symm, fun k hk => (h.event k hk).symm⟩

theorem SameView.trans (h : SameView db db₁ s) (h' : SameView db₁ db₂ s) : SameView db db₂ s :=
  ⟨h'.subscriptions.trans h.subscriptions, h'.plans.trans h.plans,
    fun m hm start stop => (h'.total m hm start stop).trans (h.total m hm start stop),
    fun m hm start stop => (h'.invoice m hm start stop).trans (h.invoice m hm start stop),
    fun k hk => (h'.event k hk).trans (h.event k hk)⟩

/-- The request that a call makes stays the same. -/
theorem request_step (hs : step driver input db s = some (db', s')) :
    s'.meters = s.meters ∧ s'.key = s.key := by
  cases s with
  | recordUsage usage pc => obtain ⟨pc', -, rfl⟩ := step_recordUsage.mp hs; exact ⟨rfl, rfl⟩
  | calculateBill bill pc => obtain ⟨pc', -, rfl⟩ := step_calculateBill.mp hs; exact ⟨rfl, rfl⟩
  | handleWebhook event pc => obtain ⟨pc', -, rfl⟩ := step_handleWebhook.mp hs; exact ⟨rfl, rfl⟩
  | runOnce attempts pc => obtain ⟨pc', -, rfl⟩ := step_runOnce.mp hs; exact ⟨rfl, rfl⟩

theorem request_of_reads (h : Reads (step driver) P db s₀ s) :
    s.meters = s₀.meters ∧ s.key = s₀.key := by
  induction h with
  | refl => exact ⟨rfl, rfl⟩
  | tail _ _ hs ih =>
    obtain ⟨hm, hk⟩ := request_step hs
    exact ⟨hm.trans ih.1, hk.trans ih.2⟩

theorem SameView.congr (hm : s'.meters = s.meters) (hk : s'.key = s.key) (h : SameView db db' s) :
    SameView db db' s' :=
  ⟨h.subscriptions, h.plans, hm ▸ h.total, hm ▸ h.invoice, hk ▸ h.event⟩

/-! ### What a request does to the view of another one -/

/-- An event with another meter and another key is not seen. -/
theorem sameView_of_recorded {event : UsageEvent}
    (ht : db'.toTables = { db.toTables with usageEvents := db.usageEvents ++ [event] })
    (hmeter : (event.subscriptionId, event.usageType) ∉ t.meters)
    (hkey : t.key ≠ some event.idempotencyKey) : SameView db db' t where
  subscriptions := by rw [ht]
  plans := by rw [ht]
  total m hm start stop := by
    have hcount : countsTowardsType m.1 m.2 start stop event = false := by
      simp only [countsTowardsType, countsTowards, Bool.and_eq_false_iff, decide_eq_false_iff_not]
      by_contra hall
      push Not at hall
      exact hmeter (by rw [hall.1, hall.2.1]; exact hm)
    rw [getTotalByType, getTotalByType, ht, Ledger.sumWhere_concat, hcount]
    simp
  invoice m _ start stop := by
    rw [InvoiceRepository.getBySubscriptionAndPeriod,
      InvoiceRepository.getBySubscriptionAndPeriod, ht]
  event k hk := by
    have hne : event.idempotencyKey ≠ k := fun heq => hkey (heq ▸ hk)
    rw [getByIdempotencyKey, getByIdempotencyKey, ht, List.find?_append]
    simp [hne]

/-- An invoice of another subscription is not seen. -/
theorem sameView_of_billed {invoice : Invoice}
    (ht : db'.toTables = { db.toTables with invoices := db.invoices ++ [invoice] })
    (hmeter : ∀ m ∈ t.meters, m.1 ≠ invoice.subscriptionId) : SameView db db' t where
  subscriptions := by rw [ht]
  plans := by rw [ht]
  total m _ start stop := by rw [getTotalByType, getTotalByType, ht]
  invoice m hm start stop := by
    have hne := (hmeter m hm).symm
    rw [InvoiceRepository.getBySubscriptionAndPeriod,
      InvoiceRepository.getBySubscriptionAndPeriod, ht, List.find?_append]
    simp [InvoiceRepository.isForPeriod, hne]
  event k _ := by rw [getByIdempotencyKey, getByIdempotencyKey, ht]

/-- A step of a request is not seen by one that is apart from it. -/
theorem sameView_of_step (hrequest : s.meters ≠ []) (hread : s.HasRead driver P db₁)
    (hs : step driver input db s = some (db', s')) (hapart : Apart s t) : SameView db db' t := by
  cases s with
  | recordUsage usage pc =>
    obtain ⟨pc', hpc, -⟩ := step_recordUsage.mp hs
    rcases recordStep_effect hpc with rfl | ⟨-, -, ht, -⟩
    · exact .refl _ _
    · exact sameView_of_recorded ht (fun hm => hapart.meters List.mem_cons_self hm)
        (hapart.key _ rfl)
  | calculateBill bill pc =>
    obtain ⟨pc', hpc, -⟩ := step_calculateBill.mp hs
    rcases billStep_effect hpc with rfl | ⟨subscription, plan, start, stop, total, rfl, ht⟩
    · exact .refl _ _
    · -- the invoice is for the subscription that was asked for
      obtain ⟨hsub, -⟩ := hread
      have hid := (getById_eq_some_iff.mp hsub).2
      refine sameView_of_billed ht ?_
      rintro ⟨sid, usageType⟩ hm heq
      refine hapart.meters ?_ hm
      obtain rfl : sid = bill.subscriptionId := heq.trans hid
      cases usageType <;> simp [meters]
  | handleWebhook event pc => exact absurd rfl hrequest
  | runOnce attempts pc => exact absurd rfl hrequest

/-! ### Steps on two databases with one view -/

/-- The keys that a step may insert are new. -/
def Fresh (db : Database) (input : Input) : Prop := input.id ∉ db.ids

theorem Fresh.usageEvent (h : Fresh db input) : input.id ∉ db.usageEvents.map UsageEvent.id :=
  fun hmem => h (by simp only [Database.ids, List.mem_append]; tauto)

theorem Fresh.invoice (h : Fresh db input) : input.id ∉ db.invoices.map Invoice.id :=
  fun hmem => h (by simp only [Database.ids, List.mem_append]; tauto)

/-- Whether an insert is accepted is the same on both databases. -/
theorem commit_congr {t t' : Tables} (hfits : t'.Fits ↔ t.Fits)
    (hcons : t'.Constraints ↔ t.Constraints) :
    (∃ db db', commit t = .ok db ∧ commit t' = .ok db') ∨
      ∃ exn, commit t = .error exn ∧ commit t' = .error exn := by
  rcases commit_cases t with ⟨db, hok, -⟩ | ⟨herr, hf, hc⟩ | ⟨herr, hf⟩
  · obtain ⟨hf, hc⟩ := commit_isOk_iff.mp ⟨db, hok⟩
    obtain ⟨db', hok'⟩ := commit_isOk_iff.mpr ⟨hfits.mpr hf, hcons.mpr hc⟩
    exact .inl ⟨db, db', hok, hok'⟩
  · exact .inr ⟨_, herr, by rw [commit, dif_pos (hfits.mpr hf), dif_neg (mt hcons.mp hc)]⟩
  · exact .inr ⟨_, herr, by rw [commit, dif_neg (mt hfits.mp hf)]⟩

theorem recordStep_congr {usage : UsageRequest} {pc : RecordPc}
    (h : SameView db db' (recordUsage usage pc)) (hfresh : pc = .insert → Fresh db input)
    (hfresh' : pc = .insert → Fresh db' input) :
    (recordStep usage input.now input.id db' pc).map Prod.snd =
      (recordStep usage input.now input.id db pc).map Prod.snd := by
  have hkey := h.event _ rfl
  have hsub : ∀ sid, getById db' sid = getById db sid := fun sid => by
    rw [getById, getById, h.subscriptions]
  have hplan : ∀ subscription, planOf db' subscription = planOf db subscription := fun s => by
    rw [planOf, planOf, PlanRepository.getById, PlanRepository.getById, h.plans]
  have htotal := h.total _ List.mem_cons_self
  cases pc with
  | lookupKey => simp only [recordStep, lookupIdempotencyKey, hkey]; split <;> rfl
  | readSubscription =>
    simp only [recordStep, hsub]
    split
    · rfl
    · split_ifs <;> rfl
  | readTotal subscription => simp only [recordStep, htotal]; split <;> rfl
  | readPlan subscription currentUsage =>
    simp only [recordStep, hplan]
    split
    · rfl
    · split_ifs <;> rfl
  | insert =>
    have hnone : ∀ db : Database, usage.idempotencyKey ∉ db.usageEvents.map
        UsageEvent.idempotencyKey ↔ getByIdempotencyKey db usage.idempotencyKey = none :=
      fun db => getByIdempotencyKey_eq_none_iff.symm
    rcases commit_congr
      ((fits_insertUsageEvent_iff db' (newEvent usage input.id input.now)).trans
        (fits_insertUsageEvent_iff db (newEvent usage input.id input.now)).symm)
      (show _ ↔ _ by
        rw [constraints_insertUsageEvent_iff, constraints_insertUsageEvent_iff, h.subscriptions]
        simp only [newEvent, hnone, hkey, (hfresh rfl).usageEvent, (hfresh' rfl).usageEvent]) with
      ⟨_, _, hok, hok'⟩ | ⟨exn, herr, herr'⟩
    · simp only [recordStep, UsageRepository.insert, hok, hok']; rfl
    · simp only [recordStep, UsageRepository.insert, herr, herr']; split <;> rfl
  | reread => simp only [recordStep, hkey]; rfl
  | done result => rfl

theorem billStep_congr {bill : BillRequest} {pc : BillPc}
    (h : SameView db db' (calculateBill bill pc)) (hfresh : pc.isInsert → Fresh db input)
    (hfresh' : pc.isInsert → Fresh db' input) :
    (billStep bill input.now input.id db' pc).map Prod.snd =
      (billStep bill input.now input.id db pc).map Prod.snd := by
  have hsub : ∀ sid, getById db' sid = getById db sid := fun sid => by
    rw [getById, getById, h.subscriptions]
  have hplan : ∀ subscription, planOf db' subscription = planOf db subscription := fun s => by
    rw [planOf, planOf, PlanRepository.getById, PlanRepository.getById, h.plans]
  have htotal : ∀ start stop, getTotalUsage db' bill.subscriptionId start stop =
      getTotalUsage db bill.subscriptionId start stop := by
    intro start stop
    rw [getTotalUsage_eq_types, getTotalUsage_eq_types,
      h.total (bill.subscriptionId, .apiCall) (by simp [meters]),
      h.total (bill.subscriptionId, .tokens) (by simp [meters])]
  have hinvoice := h.invoice (bill.subscriptionId, .apiCall) (by simp [meters])
  cases pc with
  | readSubscription => simp only [billStep, hsub]; split <;> rfl
  | readPlan subscription => simp only [billStep, hplan]; split <;> rfl
  | readTotal subscription plan => simp only [billStep, htotal]; split <;> rfl
  | lookupInvoice subscription plan start stop totalUsage =>
    simp only [billStep, hinvoice]; split <;> rfl
  | insert subscription plan start stop totalUsage =>
    let invoice := BillingService.newInvoice subscription plan totalUsage start stop input.id
      input.now
    rcases commit_congr
      ((fits_insertInvoice_iff db' invoice).trans (fits_insertInvoice_iff db invoice).symm)
      (show _ ↔ _ by
        rw [constraints_insertInvoice_iff, constraints_insertInvoice_iff, h.subscriptions]
        simp only [invoice, BillingService.newInvoice, (hfresh rfl).invoice,
          (hfresh' rfl).invoice]) with
      ⟨_, _, hok, hok'⟩ | ⟨exn, herr, herr'⟩
    · simp only [billStep, InvoiceRepository.create, invoice, hok, hok'] at *; rfl
    · simp only [billStep, InvoiceRepository.create, invoice, herr, herr'] at *; rfl
  | done result => rfl

/-- The request is about to insert its row. -/
def inserts : Session → Bool
  | recordUsage _ pc => decide (pc = .insert)
  | calculateBill _ pc => pc.isInsert
  | _ => false

/-- **One view, one step.** -/
theorem step_congr (hrequest : s.meters ≠ []) (h : SameView db db' s)
    (hfresh : s.inserts → Fresh db input) (hfresh' : s.inserts → Fresh db' input)
    (hs : step driver input db s = some (db₁, s')) :
    ∃ db₂, step driver input db' s = some (db₂, s') := by
  cases s with
  | recordUsage usage pc =>
    obtain ⟨pc', hpc, rfl⟩ := step_recordUsage.mp hs
    have hcongr := recordStep_congr h (fun hpc => hfresh (decide_eq_true hpc))
      (fun hpc => hfresh' (decide_eq_true hpc))
    rw [hpc, Option.map_some, Option.map_eq_some_iff] at hcongr
    obtain ⟨⟨db₂, pc₂⟩, hpc₂, rfl⟩ := hcongr
    exact ⟨db₂, step_recordUsage.mpr ⟨_, hpc₂, rfl⟩⟩
  | calculateBill bill pc =>
    obtain ⟨pc', hpc, rfl⟩ := step_calculateBill.mp hs
    have hcongr := billStep_congr h hfresh hfresh'
    rw [hpc, Option.map_some, Option.map_eq_some_iff] at hcongr
    obtain ⟨⟨db₂, pc₂⟩, hpc₂, rfl⟩ := hcongr
    exact ⟨db₂, step_calculateBill.mpr ⟨_, hpc₂, rfl⟩⟩
  | handleWebhook event pc => exact absurd rfl hrequest
  | runOnce attempts pc => exact absurd rfl hrequest

/-- With a new key, a request that has read what is there ends with its insert. -/
theorem decides_of_inserts (hread : s.HasRead driver P db) (hfresh : Fresh db input)
    (hins : s.inserts) (hs : step driver input db s = some (db', s')) : s'.outcome ≠ none := by
  cases s with
  | recordUsage usage pc =>
    obtain rfl : pc = .insert := of_decide_eq_true hins
    obtain ⟨pc', hpc, rfl⟩ := step_recordUsage.mp hs
    obtain ⟨hlookup, subscription, plan, periodStart, periodEnd, bounds, -, hsub, -⟩ := hread
    have hkey := (lookupIdempotencyKey_eq_ok.mp hlookup).1
    obtain ⟨hmem, hid⟩ := getById_eq_some_iff.mp hsub
    rcases insert_cases db (newEvent usage input.id input.now) with
      ⟨db₁, hok, -⟩ | ⟨-, -, hclash⟩ | ⟨herr, -⟩
    · rw [recordStep_insert_ok hok] at hpc
      cases hpc
      simp [outcome]
    · rcases hclash with hclash | hclash | hclash
      · exact absurd hclash hfresh.usageEvent
      · exact absurd hclash (getByIdempotencyKey_eq_none_iff.mp hkey)
      · exact absurd (List.mem_map.mpr ⟨subscription, hmem, hid⟩) hclash
    · rw [recordStep_insert_dataError herr] at hpc
      cases hpc
      simp [outcome]
  | calculateBill bill pc =>
    obtain ⟨pc', hpc, rfl⟩ := step_calculateBill.mp hs
    cases pc with
    | insert subscription plan start stop totalUsage =>
      simp only [billStep] at hpc
      split at hpc <;> cases hpc <;> simp [outcome]
    | _ => cases hins
  | handleWebhook event pc => cases hins
  | runOnce attempts pc => cases hins

/-- What a request has read on one database it has read on another one with the same
    view. -/
theorem reads_congr (hstart : s₀.IsStart) (hrequest : s₀.meters ≠ []) (h : SameView db db' s₀)
    (hreads : Reads (step driver) (Fresh db) db s₀ s) (hopen : s.outcome = none) :
    Reads (step driver) (Fresh db) db' s₀ s := by
  induction hreads with
  | refl => exact .refl
  | @tail s s' input hreads hfresh hs ih =>
    have hopen' : s.outcome = none := by
      by_contra hout
      obtain ⟨r, hout⟩ := Option.ne_none_iff_exists'.mp hout
      rw [(decided_keeps hs hout).2] at hopen
      cases hopen
    obtain ⟨hm, hk⟩ := request_of_reads hreads
    have hins : ¬ s.inserts := fun hins =>
      decides_of_inserts (hasRead_of_reads hstart hreads) hfresh hins hs hopen
    obtain ⟨db₂, hs'⟩ := step_congr (hm ▸ hrequest) (h.congr hm hk) (fun h => absurd h hins)
      (fun h => absurd h hins) hs
    rw [undecided_keeps hs' hopen] at hs'
    exact .tail (ih hopen') hfresh hs'

end Session

/-! ## Isolation -/

theorem Database.Grows.ids_subset {db db' : Database} (h : db.Grows db') : db.ids ⊆ db'.ids := by
  intro id hid
  simp only [Database.ids, List.mem_append, h.tenants, h.plans] at hid ⊢
  have hsub := fun hid => h.subscriptions.subset (a := id) hid
  have husage := fun hid => (h.usageEvents.map UsageEvent.id).subset (a := id) hid
  have hinvoice := fun hid => (h.invoices.map Invoice.id).subset (a := id) hid
  have hmarker := fun hid => (h.webhookEvents.map WebhookEvent.id).subset (a := id) hid
  tauto

namespace System

variable {driver : Driver} {c₀ c : System ι}

/-- What is kept of a request: as long as it is open, the database looks to it as at the
    start, and it has read what it would have read there; and it decides what it would
    have decided there. -/
structure Undisturbed (driver : Driver) (c₀ : System ι) (i : ι) (db : Database) (s : Session) :
    Prop where
  grows : c₀.shared.Grows db
  meters : s.meters = (c₀.locals i).meters
  key : s.key = (c₀.locals i).key
  reads : s.outcome = none → Session.SameView c₀.shared db s ∧
    Reads (Session.step driver) (Session.Fresh c₀.shared) c₀.shared (c₀.locals i) s
  decides : ∀ r, s.outcome = some r → ∃ db', Call (Session.step driver) Session.outcome
    (Session.Fresh c₀.shared) (c₀.locals i) c₀.shared db' r

omit [DecidableEq ι] in
/-- The request's own step. -/
theorem Undisturbed.own {i : ι} {input : Input} {db db' : Database} {s s' : Session}
    (hrequest : (c₀.locals i).meters ≠ []) (h : Undisturbed driver c₀ i db s)
    (hfresh : Session.Fresh db input) (hs : Session.step driver input db s = some (db', s')) :
    Undisturbed driver c₀ i db' s' := by
  obtain ⟨hm, hk⟩ := Session.request_step hs
  have hfresh₀ : Session.Fresh c₀.shared input := fun hmem => hfresh (h.grows.ids_subset hmem)
  refine ⟨h.grows.trans (Session.step_grows hs), hm.trans h.meters, hk.trans h.key, ?_, ?_⟩
  · intro hopen
    have hopen' : s.outcome = none := by
      by_contra hout
      obtain ⟨r, hout⟩ := Option.ne_none_iff_exists'.mp hout
      rw [(Session.decided_keeps hs hout).2] at hopen
      cases hopen
    obtain ⟨hview, hreads⟩ := h.reads hopen'
    obtain ⟨db₂, hs₀⟩ := Session.step_congr (h.meters ▸ hrequest) hview.symm (fun _ => hfresh)
      (fun _ => hfresh₀) hs
    rw [Session.undecided_keeps hs₀ hopen] at hs₀
    rw [Session.undecided_keeps hs hopen]
    exact ⟨hview.congr hm hk, .tail hreads hfresh₀ hs₀⟩
  · intro r hout
    cases hopen : s.outcome with
    | some r' =>
      have hsame := (Session.decided_keeps hs hopen).2
      rw [hout] at hsame
      cases hsame
      exact h.decides _ hopen
    | none =>
      obtain ⟨hview, hreads⟩ := h.reads hopen
      obtain ⟨db₂, hs₀⟩ := Session.step_congr (h.meters ▸ hrequest) hview.symm (fun _ => hfresh)
        (fun _ => hfresh₀) hs
      exact ⟨db₂, ⟨s, input, s', hreads, hfresh₀, hs₀, hopen, hout⟩⟩

omit [DecidableEq ι] in
/-- The step of another request. -/
theorem Undisturbed.other {i j : ι} {input : Input} {db db' : Database} {s s' t : Session}
    (hstart : (c₀.locals i).IsStart) (hrequest : (c₀.locals i).meters ≠ [])
    (hapart : (c₀.locals i).Apart (c₀.locals j)) (hi : Undisturbed driver c₀ i db s)
    (hs : Session.step driver input db s = some (db', s')) (hj : Undisturbed driver c₀ j db t) :
    Undisturbed driver c₀ j db' t := by
  have hview : Session.SameView db db' t := by
    cases hopen : s.outcome with
    | some r => rw [(Session.decided_keeps hs hopen).1]; exact .refl _ _
    | none =>
      have hread := Session.hasRead_of_reads hstart (hi.reads hopen).2
      have hapart' : s.Apart t := by
        refine ⟨?_, ?_⟩
        · rw [hi.meters, hj.meters]; exact hapart.meters
        · rw [hi.key, hj.key]; exact hapart.key
      exact Session.sameView_of_step (hi.meters ▸ hrequest) hread hs hapart'
  exact { hj with
    grows := hj.grows.trans (Session.step_grows hs)
    reads := fun hopen => ⟨(hj.reads hopen).1.trans hview, (hj.reads hopen).2⟩ }

/-- Requests that are apart never act on something that has changed. -/
theorem upToDate_of_apart (hstart : ∀ i, (c₀.locals i).IsStart)
    (hrequest : ∀ i, (c₀.locals i).meters ≠ [])
    (hapart : ∀ i j, i ≠ j → (c₀.locals i).Apart (c₀.locals j))
    (hrun : Run (System.next driver) FreshIds c₀ c) :
    Run (System.next driver) (UpToDate driver (fun _ => Session.Fresh c₀.shared) c₀) c₀ c ∧
      ∀ i, Undisturbed driver c₀ i c.shared (c.locals i) := by
  refine Run.validated_of_stable ?_ ?_ hrun ?_
  · intro i db s h hopen
    obtain ⟨hview, hreads⟩ := h.reads hopen
    exact Session.reads_congr (hstart i) (hrequest i) (hview.congr h.meters.symm h.key.symm)
      hreads hopen
  · intro c i input db' s' hL hfresh hs
    have hfresh' : Session.Fresh c.shared input := hfresh.1
    refine ⟨fun hmem => hfresh' ((hL i).grows.ids_subset hmem),
      (hL i).own (hrequest i) hfresh' hs, fun j hj => ?_⟩
    exact (hL i).other (hstart i) (hrequest i) (hapart i j hj.symm) hs (hL j)
  · intro i
    have hopen := Session.outcome_of_isStart (hstart i)
    refine ⟨.refl _, rfl, rfl, fun _ => ⟨.refl _ _, .refl⟩, fun r hout => ?_⟩
    rw [hopen] at hout
    cases hout

/-- Ten tokens under the given key: the whole quota of a month. -/
def tenTokens (idempotencyKey : String) : UsageRequest :=
  .tokens { subscriptionId := ⟨3⟩, usageType := .tokens, cachedInputTokens := 1, inputTokens := 2,
            outputTokens := 3, reasoningTokens := 4, quantity := 10, idempotencyKey,
            tokens_nonneg := by decide, quantity_eq := rfl }

/-- Both requests are accepted, whatever the order of their steps. -/
def callsAndTokens : System Bool :=
  Sample.pair (.recordUsage (Sample.tenCalls "a") .lookupKey)
    (.recordUsage (tenTokens "b") .lookupKey)

/-- The two requests in turn, step by step. -/
def inTurn : List (Bool × Input) :=
  Sample.schedule [false, true, false, true, false, true, false, true, false, true]

theorem isStart_callsAndTokens : ∀ i, (callsAndTokens.locals i).IsStart := by
  intro i; cases i <;> rfl

theorem request_callsAndTokens : ∀ i, (callsAndTokens.locals i).meters ≠ [] := by
  intro i; cases i <;> simp [callsAndTokens, Sample.pair, Session.meters]

theorem apart_callsAndTokens :
    ∀ i j, i ≠ j → (callsAndTokens.locals i).Apart (callsAndTokens.locals j) := by
  intro i j hij
  refine ⟨?_, ?_⟩
  · revert hij
    cases i <;> cases j <;>
      simp [callsAndTokens, Sample.pair, Session.meters, Sample.tenCalls, tenTokens,
        UsageRequest.usageType, UsageRequest.subscriptionId]
  · rintro k hk hk'
    have hkeys : (callsAndTokens.locals i).key = (callsAndTokens.locals j).key := hk.trans hk'.symm
    revert hkeys hij
    cases i <;> cases j <;> decide

theorem exists_run_callsAndTokens : ∃ c,
    Run (System.next .stringsOnly) FreshIds callsAndTokens c ∧
      c.shared.usageEvents.length = 2 ∧
      ∀ i, ∃ result, (c.locals i).outcome = some (.recorded (.ok (some result))) := by
  have hrun := Run.of_execGuarded_isSome (show (execGuarded (System.next .stringsOnly) FreshIds
    callsAndTokens inTurn).isSome by decide)
  refine ⟨_, hrun, by decide, ?_⟩
  intro i
  cases i <;> exact ⟨_, rfl⟩

theorem serializable_in_turn : ∃ c, c.shared.usageEvents.length = 2 ∧ ∃ earlier later,
    SerialOrder .stringsOnly (fun _ => Session.Fresh callsAndTokens.shared) callsAndTokens
      (earlier ++ later) c := by
  obtain ⟨c, hrun, htwo, -⟩ := exists_run_callsAndTokens
  obtain ⟨hvalid, -⟩ := upToDate_of_apart isStart_callsAndTokens request_callsAndTokens
    apart_callsAndTokens hrun
  obtain ⟨earlier, later, -, horder⟩ :=
    serializable .stringsOnly _ isStart_callsAndTokens hvalid .refl
  exact ⟨c, htwo, earlier, later, horder⟩

end System

end BillingEngine
