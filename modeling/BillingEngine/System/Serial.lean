import BillingEngine.Common.Runs
import BillingEngine.Services.Accounts
import BillingEngine.Services.Billing
import BillingEngine.Services.Cost
import BillingEngine.Services.Reconciliation
import BillingEngine.Services.Stripe

/-!
# One operation at a time

The system as a client sees it that waits for every answer: a database, a clock
that does not go back, and the operations of the API and of the background job,
each run without interruption. An operation that reads the clock does so at
times that the caller of the model chooses, in the order of the reads, so the
clock may advance, past a month end too, in the middle of an operation.

`editPlans` is the one operation that the API does not have: it stands for an
operator who changes plan rows by hand.

Results:
* `Op.apply_effect`: what one operation can do to the tables.
* `Op.apply_cases`: the same for the two ledgers, in three cases.
* `Op.apply_grows`: events, invoices and markers are only appended.
* `Op.apply_plans`: so are plans, unless they are edited by hand.
* `Serial.run_grows`, `Serial.run_events`: the ledgers along a run.
* `Serial.exists_billed`: the call that inserted an invoice.
-/

namespace BillingEngine

open Runs

/-- An operation, with the times at which it reads the clock and the keys that
    it draws. -/
inductive Op where
  | createTenant (tenant : TenantCreate) (id : Uuid)
  | createPlan (plan : PlanCreate) (id : Uuid)
  | createSubscription (subscription : SubscriptionCreate) (now : DateTime) (id : Uuid)
  | editPlans (edit : Plan → Plan)
  | recordUsage (usage : UsageRequest) (nowBounds nowInsert : DateTime) (id : Uuid)
  | calculateBill (subscriptionId : Uuid) (nowBounds nowInsert : DateTime) (id : Uuid)
  | handleWebhook (event : StripeEvent) (now : DateTime) (ids : StripeService.NewIds)
  | runOnce (retrieve : Option (String → ℕ → Except Exn Json)) (attempts : ℕ) (baseDelay : ℚ)
  | advance (now : DateTime)

namespace Op

/-- The times at which the clock is read, in order. -/
def times : Op → List DateTime
  | createSubscription _ now _ => [now]
  | recordUsage _ nowBounds nowInsert _ => [nowBounds, nowInsert]
  | calculateBill _ nowBounds nowInsert _ => [nowBounds, nowInsert]
  | handleWebhook _ now _ => [now]
  | advance now => [now]
  | _ => []

/-- The database after a creation that may have failed. -/
def committed (db : Database) : Except Exn Database → Database
  | .ok db' => db'
  | .error _ => db

/-- The database after the operation. `POST /generate` is `recordUsage` with a
    token request, and the billing endpoint calls `calculate_bill` without a
    period. -/
def apply (driver : Driver) (db : Database) : Op → Database
  | createTenant tenant id => committed db (TenantService.createTenant db tenant id)
  | createPlan plan id => committed db (PlanService.createPlan db plan id)
  | createSubscription subscription now id =>
    committed db (SubscriptionService.createSubscription db subscription id now)
  | editPlans edit => committed db (commit { db.toTables with plans := db.plans.map edit })
  | recordUsage usage nowBounds nowInsert id =>
    (UsageService.recordUsage db usage nowBounds nowInsert id).1
  | calculateBill subscriptionId nowBounds nowInsert id =>
    (BillingService.calculateBill db subscriptionId none none nowBounds nowInsert id).1
  | handleWebhook event now ids => (StripeService.handleWebhook driver db event ids now).1
  | runOnce retrieve attempts baseDelay =>
    (ReconciliationService.runOnce retrieve attempts baseDelay db).1
  | advance _ => db

end Op

/-- The database and the time of the latest clock read. -/
structure Serial where
  db : Database
  clock : DateTime
deriving DecidableEq

namespace Serial

/-- The system right after the migrations. -/
def initial (clock : DateTime) : Serial where
  db := .empty
  clock := clock

/-- The clock after reading it at the given times, if it did not go back. -/
def readClock (clock : DateTime) : List DateTime → Option DateTime
  | [] => some clock
  | t :: ts => if clock ≤ t then readClock t ts else none

/-- One operation; there is no step when the clock would go back. -/
def next (driver : Driver) (s : Serial) (op : Op) : Option Serial :=
  (readClock s.clock op.times).map fun clock => { db := op.apply driver s.db, clock := clock }

theorem next_eq_some {driver : Driver} {s s' : Serial} {op : Op} :
    next driver s op = some s' ↔
      readClock s.clock op.times = some s'.clock ∧ s'.db = op.apply driver s.db := by
  simp only [next, Option.map_eq_some_iff]
  constructor
  · rintro ⟨clock, h, rfl⟩; exact ⟨h, rfl⟩
  · rintro ⟨h, hdb⟩; exact ⟨s'.clock, h, by cases s'; simp_all⟩

theorem clock_le_of_readClock {ts : List DateTime} :
    ∀ {clock clock' : DateTime}, readClock clock ts = some clock' → clock ≤ clock' := by
  induction ts with
  | nil => intro clock clock' h; cases h; exact le_rfl
  | cons t ts ih =>
    intro clock clock' h
    rw [readClock] at h
    split_ifs at h with hle
    exact le_trans hle (ih h)

/-- The two clock reads of a call lie between the clocks before and after it. -/
theorem readClock_pair {clock clock' t₁ t₂ : DateTime}
    (h : readClock clock [t₁, t₂] = some clock') :
    clock ≤ t₁ ∧ t₁ ≤ t₂ ∧ clock' = t₂ := by
  simp only [readClock] at h
  split_ifs at h with h₁ h₂
  cases h
  exact ⟨h₁, h₂, rfl⟩

end Serial

/-! ## What one operation can do -/

namespace Op

variable {driver : Driver} {db : Database}

theorem committed_cases {P : Database → Prop} {r : Except Exn Database} (hsame : P db)
    (hok : ∀ db', r = .ok db' → P db') : P (committed db r) := by
  cases r with
  | ok db' => exact hok db' rfl
  | error exn => exact hsame

/-- The tables after an operation, with what the operation has checked. -/
inductive Effect (driver : Driver) (db : Database) : Op → Tables → Prop
  | unchanged {op : Op} : Effect driver db op db.toTables
  | tenantCreated {tenant : TenantCreate} {id : Uuid} (row : Tenant) :
      Effect driver db (createTenant tenant id)
        { db.toTables with tenants := db.tenants ++ [row] }
  | planCreated {plan : PlanCreate} {id : Uuid} (row : Plan) :
      Effect driver db (createPlan plan id) { db.toTables with plans := db.plans ++ [row] }
  | subscriptionCreated {subscription : SubscriptionCreate} {now : DateTime} {id : Uuid}
      (row : Subscription) :
      Effect driver db (createSubscription subscription now id)
        { db.toTables with subscriptions := db.subscriptions ++ [row] }
  | plansEdited {edit : Plan → Plan} :
      Effect driver db (editPlans edit) { db.toTables with plans := db.plans.map edit }
  | recorded {usage : UsageRequest} {nowBounds nowInsert : DateTime} {id : Uuid}
      (hrec : UsageService.Recorded db usage nowBounds nowInsert id
        ((recordUsage usage nowBounds nowInsert id).apply driver db)) :
      Effect driver db (recordUsage usage nowBounds nowInsert id)
        { db.toTables with
          usageEvents := db.usageEvents ++ [UsageRepository.newEvent usage id nowInsert] }
  | billed {subscriptionId : Uuid} {nowBounds nowInsert : DateTime} {id : Uuid} (invoice : Invoice)
      (hbilled : BillingService.Billed db subscriptionId none none nowBounds nowInsert id
        ((calculateBill subscriptionId nowBounds nowInsert id).apply driver db) invoice) :
      Effect driver db (calculateBill subscriptionId nowBounds nowInsert id)
        { db.toTables with invoices := db.invoices ++ [invoice] }
  | delivered {event : StripeEvent} {now : DateTime} {ids : StripeService.NewIds}
      (pending : PendingWrite)
      (hpending : StripeService.processEvent driver db event = .ok pending) :
      Effect driver db (handleWebhook event now ids)
        { db.toTables with
          webhookEvents := db.webhookEvents ++ [StripeService.newMarker event ids.marker now]
          subscriptions := pending.applyTo ids.subscription now db.subscriptions }
  | reconciled {retrieve : Option (String → ℕ → Except Exn Json)} {attempts : ℕ} {baseDelay : ℚ}
      (changed : List (Uuid × SubscriptionStatus)) :
      Effect driver db (runOnce retrieve attempts baseDelay)
        { db.toTables with
          subscriptions := ReconciliationService.applyStatuses changed db.subscriptions }

/-- **Every operation has one of the effects.** -/
theorem apply_effect (driver : Driver) (db : Database) (op : Op) :
    Effect driver db op (op.apply driver db).toTables := by
  cases op with
  | recordUsage usage nowBounds nowInsert id =>
    rcases UsageService.recordUsage_effect db usage nowBounds nowInsert id with heq | ⟨hrec, -⟩
    · rw [apply, heq]; exact .unchanged
    · rw [apply, hrec.tables]; exact .recorded hrec
  | calculateBill subscriptionId nowBounds nowInsert id =>
    rcases BillingService.calculateBill_effect db subscriptionId none none nowBounds nowInsert
      id with heq | ⟨invoice, hbilled, -⟩
    · rw [apply, heq]; exact .unchanged
    · rw [apply, hbilled.tables]; exact .billed invoice hbilled
  | createTenant tenant id =>
    refine committed_cases (P := fun db' => Effect driver db _ db'.toTables) .unchanged
      fun db' h => ?_
    obtain ⟨row, ht⟩ := TenantService.createTenant_effect h
    rw [ht]; exact .tenantCreated row
  | createPlan plan id =>
    refine committed_cases (P := fun db' => Effect driver db _ db'.toTables) .unchanged
      fun db' h => ?_
    obtain ⟨row, ht⟩ := PlanService.createPlan_effect h
    rw [ht]; exact .planCreated row
  | createSubscription subscription now id =>
    refine committed_cases (P := fun db' => Effect driver db _ db'.toTables) .unchanged
      fun db' h => ?_
    obtain ⟨row, ht⟩ := SubscriptionService.createSubscription_effect h
    rw [ht]; exact .subscriptionCreated row
  | editPlans edit =>
    refine committed_cases (P := fun db' => Effect driver db _ db'.toTables) .unchanged
      fun db' h => ?_
    rw [commit_eq_ok.mp h]; exact .plansEdited
  | handleWebhook event now ids =>
    rcases StripeService.handleWebhook_effect driver db event ids now with heq | ⟨pending, hp, ht⟩
    · rw [apply, heq]; exact .unchanged
    · rw [apply, ht]; exact .delivered pending hp
  | runOnce retrieve attempts baseDelay =>
    obtain ⟨changed, ht⟩ := ReconciliationService.runOnce_effect retrieve attempts baseDelay db
    rw [apply, ht]; exact .reconciled changed
  | advance now => exact .unchanged

/-- The operation changes neither events nor invoices. -/
structure KeepsLedgers (db db' : Database) : Prop where
  usageEvents : db'.usageEvents = db.usageEvents
  invoices : db'.invoices = db.invoices
  webhookEvents : db.webhookEvents <+: db'.webhookEvents

/-- **The three cases.** An operation records a usage event, inserts an invoice,
    or keeps both ledgers. -/
theorem apply_cases (driver : Driver) (db : Database) (op : Op) :
    (∃ usage nowBounds nowInsert id, op = recordUsage usage nowBounds nowInsert id ∧
      UsageService.Recorded db usage nowBounds nowInsert id (op.apply driver db)) ∨
    (∃ subscriptionId nowBounds nowInsert id invoice,
      op = calculateBill subscriptionId nowBounds nowInsert id ∧
      BillingService.Billed db subscriptionId none none nowBounds nowInsert id
        (op.apply driver db) invoice) ∨
    KeepsLedgers db (op.apply driver db) := by
  have heffect := apply_effect driver db op
  generalize ht : (op.apply driver db).toTables = t at heffect
  cases heffect with
  | recorded hrec => exact .inl ⟨_, _, _, _, rfl, hrec⟩
  | billed invoice hbilled => exact .inr (.inl ⟨_, _, _, _, invoice, rfl, hbilled⟩)
  | delivered =>
    exact .inr (.inr ⟨by rw [ht], by rw [ht], by rw [ht]; exact List.prefix_append _ _⟩)
  | unchanged | tenantCreated | planCreated | subscriptionCreated | plansEdited | reconciled =>
    exact .inr (.inr ⟨by rw [ht], by rw [ht], by rw [ht]⟩)

/-- Events and invoices are only appended. -/
theorem apply_grows (driver : Driver) (db : Database) (op : Op) :
    db.usageEvents <+: (op.apply driver db).usageEvents ∧
      db.invoices <+: (op.apply driver db).invoices := by
  rcases apply_cases driver db op with ⟨_, _, _, _, -, hrec⟩ | ⟨_, _, _, _, _, -, hbilled⟩ | hkeep
  · rw [hrec.tables]; exact ⟨List.prefix_append _ _, List.prefix_rfl⟩
  · rw [hbilled.tables]; exact ⟨List.prefix_rfl, List.prefix_append _ _⟩
  · rw [hkeep.usageEvents, hkeep.invoices]; exact ⟨List.prefix_rfl, List.prefix_rfl⟩

/-- An operator edits plan rows by hand. -/
def editsPlans : Op → Bool
  | editPlans _ => true
  | _ => false

/-- Every other operation leaves the plans there are as they are. -/
theorem apply_plans (driver : Driver) (db : Database) {op : Op} (hop : op.editsPlans = false) :
    db.plans <+: (op.apply driver db).plans := by
  have heffect := apply_effect driver db op
  generalize (op.apply driver db).toTables = t at heffect
  cases heffect with
  | planCreated row => exact List.prefix_append _ _
  | plansEdited => cases hop
  | _ => exact List.prefix_rfl

end Op

/-! ## Runs -/

/-- What every operation of a run leaves or appends to, the run does. -/
theorem Serial.run_appends {β : Type} {driver : Driver} {ok : Serial → Op → Prop} {s s' : Serial}
    (col : Database → List β) (hop : ∀ s op, ok s op → col s.db <+: col (op.apply driver s.db))
    (h : Run (Serial.next driver) ok s s') : col s.db <+: col s'.db := by
  refine h.appends (fun s => col s.db) fun s op s' hok hnext => ?_
  rw [(Serial.next_eq_some.mp hnext).2]
  exact hop s op hok

theorem Serial.run_grows {driver : Driver} {ok : Serial → Op → Prop} {s s' : Serial}
    (h : Run (Serial.next driver) ok s s') :
    s.db.usageEvents <+: s'.db.usageEvents ∧ s.db.invoices <+: s'.db.invoices := by
  constructor
  · exact run_appends (fun db => db.usageEvents) (fun s op _ => (Op.apply_grows driver s.db op).1) h
  · exact run_appends (fun db => db.invoices) (fun s op _ => (Op.apply_grows driver s.db op).2) h

/-- What is true of the stored events at the start and of every event that a
    request records is true of all of them at the end. -/
theorem Serial.run_events {driver : Driver} {ok : Serial → Op → Prop} {P : UsageEvent → Prop}
    {s s' : Serial}
    (hrecord : ∀ s usage nowBounds nowInsert id db',
      ok s (.recordUsage usage nowBounds nowInsert id) →
      UsageService.Recorded s.db usage nowBounds nowInsert id db' →
      P (UsageRepository.newEvent usage id nowInsert))
    (h : Run (Serial.next driver) ok s s') (h₀ : ∀ e ∈ s.db.usageEvents, P e) :
    ∀ e ∈ s'.db.usageEvents, P e := by
  refine h.invariant (P := fun s => ∀ e ∈ s.db.usageEvents, P e) ?_ h₀
  intro s op s' hs hok hnext
  rw [(Serial.next_eq_some.mp hnext).2]
  rcases Op.apply_cases driver s.db op with
    ⟨usage, t₁, t₂, id, rfl, hrec⟩ | ⟨_, _, _, _, _, -, hbilled⟩ | hkeep
  · have hnew := hrecord _ _ _ _ _ _ hok hrec
    rw [hrec.tables]
    exact List.forall_mem_append.mpr ⟨hs, List.forall_mem_singleton.mpr hnew⟩
  · rw [hbilled.tables]; exact hs
  · rw [hkeep.usageEvents]; exact hs

/-- An invoice that is new in a run was inserted by one of its calls of
    `calculate_bill`. -/
theorem Serial.exists_billed {driver : Driver} {ok : Serial → Op → Prop} {s s' : Serial}
    {invoice : Invoice} (h : Run (Serial.next driver) ok s s') (hold : invoice ∉ s.db.invoices)
    (hmem : invoice ∈ s'.db.invoices) :
    ∃ s₁ s₂ subscriptionId nowBounds nowInsert id,
      Run (Serial.next driver) ok s s₁ ∧
      ok s₁ (.calculateBill subscriptionId nowBounds nowInsert id) ∧
      Serial.next driver s₁ (.calculateBill subscriptionId nowBounds nowInsert id) = some s₂ ∧
      Run (Serial.next driver) ok s₂ s' ∧ invoice ∉ s₁.db.invoices ∧
      BillingService.Billed s₁.db subscriptionId none none nowBounds nowInsert id s₂.db
        invoice := by
  obtain ⟨s₁, op, s₂, hbefore, hok, hnext, hafter, hnew, hin⟩ :=
    h.exists_change (P := fun s => invoice ∈ s.db.invoices) hold hmem
  have hdb := (Serial.next_eq_some.mp hnext).2
  rw [hdb] at hin
  rcases Op.apply_cases driver s₁.db op with
    ⟨_, _, _, _, -, hrec⟩ | ⟨sid, t₁, t₂, id, invoice', rfl, hbilled⟩ | hkeep
  · rw [hrec.tables] at hin
    exact absurd hin hnew
  · have htables := hbilled.tables
    rw [htables, List.mem_append, List.mem_singleton] at hin
    obtain rfl := hin.resolve_left hnew
    rw [← hdb] at hbilled
    exact ⟨s₁, s₂, sid, t₁, t₂, id, hbefore, hok, hnext, hafter, hnew, hbilled⟩
  · rw [hkeep.invoices] at hin
    exact absurd hin hnew

/-! ## Setting up the small database -/

namespace Sample

/-- One tenant with one active subscription, and a limit of 10 calls a month. -/
def setUp : List Op :=
  [.createTenant { name := "Acme", email := "billing@acme.test" } ⟨1⟩,
    .createPlan { name := "Pro", price := 4900, usageLimit := 10, apiCallLimit := 10 } ⟨2⟩,
    .createSubscription { tenantId := ⟨1⟩, planId := ⟨2⟩ } firstOfJuly ⟨3⟩]

def ready : Serial :=
  (exec (Serial.next .stringsOnly) (Serial.initial firstOfJuly) setUp).get (by decide)

theorem run_ready : Run (Serial.next .stringsOnly) Always (Serial.initial firstOfJuly) ready :=
  Run.of_exec_isSome _

end Sample

end BillingEngine
