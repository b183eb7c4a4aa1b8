import BillingEngine.Common.Interleaving
import BillingEngine.Services.Billing
import BillingEngine.Services.Reconciliation
import BillingEngine.Services.Stripe
import BillingEngine.Services.Usage

/-!
# Calls that run at the same time

Every request and every background run has its own database session; a call is
its arguments and the point it has reached. Any number of calls of
`record_usage`, `calculate_bill`, `handle_webhook` and `run_once` take their
database steps in
any order on one database. A query reads the committed state at that moment
(READ COMMITTED), and a commit is atomic and checks every constraint.

Results:
* `Session.step_grows`: whatever step any call takes, rows of `usage_events`,
  `invoices` and `webhook_events` are only appended, subscriptions keep their
  keys, and plans and tenants stay.
* `System.run_grows`: so along every run.
-/

namespace BillingEngine

open Runs Interleaving

/-- What a step receives from outside: the clock, the keys that `uuid4()`
    returns, and the outcome of a Stripe call. -/
structure Input where
  now : DateTime
  id : Uuid
  subscriptionId : Uuid
  answer : Except Exn Json

/-- A running call. -/
inductive Session where
  | recordUsage (usage : UsageRequest) (pc : RecordPc)
  | calculateBill (bill : BillRequest) (pc : BillPc)
  | handleWebhook (event : StripeEvent) (pc : WebhookPc)
  | runOnce (attempts : ℕ) (pc : JobPc)

/-- The call has not taken a step yet. -/
def Session.IsStart : Session → Prop
  | recordUsage _ pc => pc = .lookupKey
  | calculateBill _ pc => pc = .readSubscription
  | handleWebhook _ pc => pc = .lookupMarker
  | runOnce _ pc => pc = .load

/-- One database step of a call. -/
def Session.step (driver : Driver) (input : Input) (db : Database) :
    Session → Option (Database × Session)
  | recordUsage usage pc =>
    (recordStep usage input.now input.id db pc).map fun r => (r.1, recordUsage usage r.2)
  | calculateBill bill pc =>
    (billStep bill input.now input.id db pc).map fun r => (r.1, calculateBill bill r.2)
  | handleWebhook event pc =>
    (webhookStep driver event ⟨input.id, input.subscriptionId⟩ input.now db pc).map fun r =>
      (r.1, handleWebhook event r.2)
  | runOnce attempts pc =>
    (jobStep attempts input.answer db pc).map fun r => (r.1, runOnce attempts r.2)

/-- The database and the calls on it. -/
abbrev System (ι : Type*) := Config ι Database Session

/-- One call takes a step. -/
abbrev System.next {ι : Type*} [DecidableEq ι] (driver : Driver) :
    System ι → ι × Input → Option (System ι) :=
  Interleaving.next (Session.step driver)

/-- `uuid4()` returns keys that are not in use. -/
def FreshIds {ι : Type*} (c : System ι) (a : ι × Input) : Prop :=
  a.2.id ∉ c.shared.ids ∧ a.2.subscriptionId ∉ c.shared.ids

instance {ι : Type*} (c : System ι) (a : ι × Input) : Decidable (FreshIds c a) :=
  inferInstanceAs (Decidable (_ ∧ _))

theorem FreshIds.usageEvents {ι : Type*} {c : System ι} {a : ι × Input} (h : FreshIds c a) :
    a.2.id ∉ c.shared.usageEvents.map UsageEvent.id := by
  intro hmem
  exact h.1 (by simp only [Database.ids, List.mem_append]; tauto)

/-! ## The steps of the four kinds of calls -/

section Inversion

variable {driver : Driver} {input : Input} {db db' : Database} {s' : Session}

theorem Session.step_recordUsage {usage : UsageRequest} {pc : RecordPc} :
    Session.step driver input db (.recordUsage usage pc) = some (db', s') ↔
      ∃ pc', recordStep usage input.now input.id db pc = some (db', pc') ∧
        s' = .recordUsage usage pc' := by
  simp [Session.step, eq_comm]

theorem Session.step_calculateBill {bill : BillRequest} {pc : BillPc} :
    Session.step driver input db (.calculateBill bill pc) = some (db', s') ↔
      ∃ pc', billStep bill input.now input.id db pc = some (db', pc') ∧
        s' = .calculateBill bill pc' := by
  simp [Session.step, eq_comm]

theorem Session.step_handleWebhook {event : StripeEvent} {pc : WebhookPc} :
    Session.step driver input db (.handleWebhook event pc) = some (db', s') ↔
      ∃ pc', webhookStep driver event ⟨input.id, input.subscriptionId⟩ input.now db pc =
          some (db', pc') ∧ s' = .handleWebhook event pc' := by
  simp [Session.step, eq_comm]

theorem Session.step_runOnce {attempts : ℕ} {pc : JobPc} :
    Session.step driver input db (.runOnce attempts pc) = some (db', s') ↔
      ∃ pc', jobStep attempts input.answer db pc = some (db', pc') ∧
        s' = .runOnce attempts pc' := by
  simp [Session.step, eq_comm]

end Inversion

/-! ## What no step undoes -/

/-- How any step of any call changes the database. -/
structure Database.Grows (db db' : Database) : Prop where
  usageEvents : db.usageEvents <+: db'.usageEvents
  invoices : db.invoices <+: db'.invoices
  webhookEvents : db.webhookEvents <+: db'.webhookEvents
  subscriptions : db.subscriptions.map Subscription.id <+: db'.subscriptions.map Subscription.id
  plans : db'.plans = db.plans
  tenants : db'.tenants = db.tenants

namespace Database.Grows

theorem refl (db : Database) : db.Grows db :=
  ⟨List.prefix_rfl, List.prefix_rfl, List.prefix_rfl, List.prefix_rfl, rfl, rfl⟩

theorem trans {db db' db'' : Database} (h : db.Grows db') (h' : db'.Grows db'') : db.Grows db'' :=
  ⟨h.usageEvents.trans h'.usageEvents, h.invoices.trans h'.invoices,
    h.webhookEvents.trans h'.webhookEvents, h.subscriptions.trans h'.subscriptions,
    h'.plans.trans h.plans, h'.tenants.trans h.tenants⟩

end Database.Grows

theorem Session.step_grows {driver : Driver} {input : Input} {db db' : Database} {s s' : Session}
    (h : Session.step driver input db s = some (db', s')) : db.Grows db' := by
  cases s with
  | recordUsage usage pc =>
    obtain ⟨pc', hs, -⟩ := step_recordUsage.mp h
    have hother := recordStep_other hs
    refine ⟨recordStep_usageEvents hs, ?_, ?_, ?_, ?_, ?_⟩ <;> rw [hother]
  | calculateBill bill pc =>
    obtain ⟨pc', hs, -⟩ := step_calculateBill.mp h
    have hother := billStep_other hs
    refine ⟨?_, billStep_invoices hs, ?_, ?_, ?_, ?_⟩ <;> rw [hother]
  | handleWebhook event pc =>
    obtain ⟨pc', hs, -⟩ := step_handleWebhook.mp h
    obtain ⟨hother, hmarkers, hsubs⟩ := webhookStep_other hs
    refine ⟨?_, ?_, hmarkers, hsubs, ?_, ?_⟩ <;> rw [hother]
  | runOnce attempts pc =>
    obtain ⟨pc', hs, -⟩ := step_runOnce.mp h
    obtain ⟨hother, hsubs⟩ := jobStep_other hs
    refine ⟨?_, ?_, ?_, by rw [hsubs], ?_, ?_⟩ <;> rw [hother]

theorem System.run_grows {ι : Type*} [DecidableEq ι] {driver : Driver}
    {ok : System ι → ι × Input → Prop} {c c' : System ι} (h : Run (System.next driver) ok c c') :
    c.shared.Grows c'.shared :=
  Interleaving.Run.shared_rel Database.Grows.refl (fun _ _ _ h h' => h.trans h')
    (fun _ _ _ _ _ hs => Session.step_grows hs) h

/-! ## Two calls on the small database -/

namespace Sample

/-- The `n`-th step in July, with keys that no other step draws. -/
def input (n : ℕ) : Input where
  now := july
  id := ⟨Fin.ofNat (2 ^ 128) (100 + 2 * n)⟩
  subscriptionId := ⟨Fin.ofNat (2 ^ 128) (101 + 2 * n)⟩
  answer := .ok .null

/-- Two calls on the sample database. -/
def pair (first second : Session) : System Bool where
  shared := db
  locals := fun i => if i then second else first

/-- The two calls take steps in the given order. -/
def schedule (order : List Bool) : List (Bool × Input) :=
  order.zipIdx.map fun (i, n) => (i, input n)

end Sample

end BillingEngine
