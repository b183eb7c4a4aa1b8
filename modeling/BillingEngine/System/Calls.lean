import BillingEngine.Common.Serializability
import BillingEngine.Reconcile.RunOnce
import BillingEngine.System.Concurrent

/-!
# A call on a database that nobody else changes

The services are modelled twice: as methods that run without interruption, and as
calls that take one database step at a time. Here the two are connected for every
way in which the steps of a call can be taken: the clock may advance between any
two steps, every step may draw other keys, and Stripe may answer every request of
the job differently.

`Session.outcome` is what a call has decided: what it returns or raises, which for
a delivery is settled as soon as it rolls back. `Session.Performs` says in terms of
the methods what a call does.

Results:
* `Session.performs_of_call`: a call whose reads and last step find one database
  does what the method does, with the inputs that its steps have received.
* `Session.undecided_keeps`, `Session.decided_keeps`: only the step in which a
  call decides changes the database.
-/

namespace BillingEngine

open Interleaving UsageRepository SubscriptionRepository ReconciliationService

/-- What a call has returned or raised. -/
inductive Reply where
  | recorded (result : Except Exn (Option UsageEvent))
  | billed (result : Except Exn BillingResponse)
  | delivered (result : Except Exn Unit)
  | synced (result : Except Exn ℕ)

namespace Session

/-- What a call has decided. After a rollback only the exception is left to raise. -/
def outcome : Session → Option Reply
  | recordUsage _ (.done result) => some (.recorded result)
  | calculateBill _ (.done result) => some (.billed result)
  | handleWebhook _ (.done result) => some (.delivered result)
  | handleWebhook _ (.rollback exn) => some (.delivered (.error exn))
  | runOnce _ (.done synced) => some (.synced synced)
  | _ => none

/-- The service method of the call turns `db` into `db'` and replies `r`; the clock
    reads, the keys and the answers of Stripe are among the inputs that meet `P`. The job
    makes its retries with any delay that is not negative. -/
def Performs (driver : Driver) (P : Input → Prop) (db db' : Database) (r : Reply) :
    Session → Prop
  | recordUsage usage _ => ∃ bounds insert : Input, P bounds ∧ P insert ∧
      ∃ result, r = .recorded result ∧
        UsageService.recordUsage db usage bounds.now insert.now insert.id = (db', result)
  | calculateBill bill _ => ∃ bounds insert : Input, P bounds ∧ P insert ∧
      ∃ result, r = .billed result ∧
        BillingService.calculateBill db bill.subscriptionId bill.periodStart bill.periodEnd
          bounds.now insert.now insert.id = (db', result)
  | handleWebhook event _ => ∃ input : Input, P input ∧
      ∃ result, r = .delivered result ∧
        StripeService.handleWebhook driver db event ⟨input.id, input.subscriptionId⟩ input.now =
          (db', result)
  | runOnce attempts _ => ∃ retrieve : String → ℕ → Except Exn Json,
      (∀ stripeId attempt, ∃ input, P input ∧ retrieve stripeId attempt = input.answer) ∧
      ∃ result, r = .synced result ∧
        ∀ baseDelay, 0 ≤ baseDelay →
          ReconciliationService.runOnce (some retrieve) attempts baseDelay db = (db', result)

end Session

/-! ## Recording usage -/

section Record

variable {P : Input → Prop} {db db' : Database} {usage : UsageRequest} {pc pc' : RecordPc}
  {input : Input}

/-- All checks of `record_usage` pass. -/
def ChecksPass (P : Input → Prop) (db : Database) (usage : UsageRequest) : Prop :=
  lookupIdempotencyKey db usage.idempotencyKey = .ok none ∧
  ∃ subscription plan periodStart periodEnd, ∃ bounds : Input, P bounds ∧
    getById db usage.subscriptionId = some subscription ∧ subscription.status = .active ∧
    monthBounds bounds.now = .ok (periodStart, periodEnd) ∧ planOf db subscription = some plan ∧
    ¬ getTotalByType db usage.subscriptionId usage.usageType (some periodStart) (some periodEnd) +
      usage.quantity > UsageService.limitFor plan usage.usageType

/-- What a call of `record_usage` has read. -/
def RecordPc.HasRead (P : Input → Prop) (db : Database) (usage : UsageRequest) : RecordPc → Prop
  | lookupKey => True
  | readSubscription => lookupIdempotencyKey db usage.idempotencyKey = .ok none
  | readTotal subscription => lookupIdempotencyKey db usage.idempotencyKey = .ok none ∧
      getById db usage.subscriptionId = some subscription ∧ subscription.status = .active
  | readPlan subscription currentUsage => lookupIdempotencyKey db usage.idempotencyKey = .ok none ∧
      getById db usage.subscriptionId = some subscription ∧ subscription.status = .active ∧
      ∃ bounds : Input, P bounds ∧ ∃ periodStart periodEnd,
        monthBounds bounds.now = .ok (periodStart, periodEnd) ∧
        currentUsage = getTotalByType db usage.subscriptionId usage.usageType (some periodStart)
          (some periodEnd)
  | insert => ChecksPass P db usage
  | reread => ChecksPass P db usage ∧ ∃ input : Input, P input ∧
      UsageRepository.insert db (newEvent usage input.id input.now) = .error .integrityError
  | done _ => True

/-- A step that reads adds to what the call has read. -/
theorem RecordPc.hasRead_step (hP : P input) (h : pc.HasRead P db usage)
    (hs : recordStep usage input.now input.id db pc = some (db, pc')) : pc'.HasRead P db usage := by
  cases pc with
  | lookupKey =>
    simp only [recordStep] at hs
    split at hs <;> cases hs
    · trivial
    · trivial
    · assumption
  | readSubscription =>
    simp only [recordStep] at hs
    split at hs
    · cases hs; trivial
    · rename_i subscription hsub
      split_ifs at hs with hact <;> cases hs
      · trivial
      · exact ⟨h, hsub, not_not.mp hact⟩
  | readTotal subscription =>
    obtain ⟨hkey, hsub, hact⟩ := h
    simp only [recordStep] at hs
    split at hs <;> cases hs
    · trivial
    · exact ⟨hkey, hsub, hact, input, hP, _, _, ‹_›, rfl⟩
  | readPlan subscription currentUsage =>
    obtain ⟨hkey, hsub, hact, bounds, hbounds, periodStart, periodEnd, hmonth, rfl⟩ := h
    simp only [recordStep] at hs
    split at hs
    · cases hs; trivial
    · rename_i plan hplan
      split_ifs at hs with hquota <;> cases hs
      · trivial
      · exact ⟨hkey, subscription, plan, periodStart, periodEnd, bounds, hbounds, hsub, hact,
          hmonth, hplan, hquota⟩
  | insert =>
    simp only [recordStep] at hs
    split at hs
    · cases hs; trivial
    · cases hs; exact ⟨h, input, hP, ‹_›⟩
    · cases hs; trivial
  | reread => simp only [recordStep] at hs; cases hs; trivial
  | done result => simp at hs

/-- When all checks pass, `record_usage` is its insert. -/
theorem ChecksPass.recordUsage_eq (h : ChecksPass P db usage) : ∃ bounds : Input, P bounds ∧
    ∀ now id, UsageService.recordUsage db usage bounds.now now id =
      UsageRepository.create db usage id now := by
  obtain ⟨hkey, subscription, plan, periodStart, periodEnd, bounds, hbounds, hsub, hact, hmonth,
    hplan, hquota⟩ := h
  refine ⟨bounds, hbounds, fun now id => ?_⟩
  simp only [UsageService.recordUsage, hkey, hsub, hact, hmonth, hplan, ne_eq, not_true_eq_false,
    if_false, if_neg hquota]

/-- **The last step of `record_usage`.** -/
theorem RecordPc.performs_of_done {result : Except Exn (Option UsageEvent)} (hP : P input)
    (h : pc.HasRead P db usage)
    (hs : recordStep usage input.now input.id db pc = some (db', .done result)) :
    ∃ bounds insert : Input, P bounds ∧ P insert ∧
      UsageService.recordUsage db usage bounds.now insert.now insert.id = (db', result) := by
  cases pc with
  | lookupKey =>
    simp only [recordStep] at hs
    split at hs <;> cases hs <;>
      exact ⟨input, input, hP, hP, by simp only [UsageService.recordUsage, *]⟩
  | readSubscription =>
    refine ⟨input, input, hP, hP, ?_⟩
    simp only [HasRead] at h
    simp only [recordStep] at hs
    split at hs
    · cases hs; simp only [UsageService.recordUsage, *]
    · split_ifs at hs with hact <;> cases hs
      simp only [UsageService.recordUsage, *, if_pos hact]
  | readTotal subscription =>
    obtain ⟨hkey, hsub, hact⟩ := h
    simp only [recordStep] at hs
    split at hs <;> cases hs
    rename_i exn hmonth
    exact ⟨input, input, hP, hP, by simp only [UsageService.recordUsage, hkey, hsub, hact, hmonth,
      ne_eq, not_true_eq_false, if_false]⟩
  | readPlan subscription currentUsage =>
    obtain ⟨hkey, hsub, hact, bounds, hbounds, periodStart, periodEnd, hmonth, rfl⟩ := h
    refine ⟨bounds, input, hbounds, hP, ?_⟩
    simp only [UsageService.recordUsage, hkey, hsub, hact, hmonth, ne_eq, not_true_eq_false,
      if_false]
    simp only [recordStep] at hs
    split at hs
    · cases hs; simp only [*]
    · split_ifs at hs with hquota <;> cases hs
      simp only [*, if_true]
  | insert =>
    obtain ⟨bounds, hbounds, heq⟩ := ChecksPass.recordUsage_eq h
    refine ⟨bounds, input, hbounds, hP, ?_⟩
    rw [heq, UsageRepository.create]
    simp only [recordStep] at hs
    split at hs <;> cases hs <;> simp only [*]
  | reread =>
    -- the keys are those of the insert that failed
    obtain ⟨hchecks, insert, hinsert, hfail⟩ := h
    obtain ⟨bounds, hbounds, heq⟩ := hchecks.recordUsage_eq
    refine ⟨bounds, insert, hbounds, hinsert, ?_⟩
    rw [heq, UsageRepository.create]
    simp only [recordStep] at hs
    cases hs
    simp only [hfail]
  | done result => simp at hs

end Record

/-! ## Billing -/

section Bill

variable {P : Input → Prop} {db db' : Database} {bill : BillRequest} {pc pc' : BillPc}
  {input : Input}

/-- What a call of `calculate_bill` has read. -/
def BillPc.HasRead (P : Input → Prop) (db : Database) (bill : BillRequest) : BillPc → Prop
  | readSubscription => True
  | readPlan subscription => getById db bill.subscriptionId = some subscription
  | readTotal subscription plan => getById db bill.subscriptionId = some subscription ∧
      planOf db subscription = some plan
  | lookupInvoice subscription plan start stop totalUsage =>
      getById db bill.subscriptionId = some subscription ∧ planOf db subscription = some plan ∧
      totalUsage = getTotalUsage db bill.subscriptionId (some start) (some stop) ∧
      ∃ bounds : Input, P bounds ∧
        BillingService.billedPeriod bill.periodStart bill.periodEnd bounds.now = .ok (start, stop)
  | insert subscription plan start stop totalUsage =>
      getById db bill.subscriptionId = some subscription ∧ planOf db subscription = some plan ∧
      totalUsage = getTotalUsage db bill.subscriptionId (some start) (some stop) ∧
      InvoiceRepository.getBySubscriptionAndPeriod db bill.subscriptionId start stop = none ∧
      ∃ bounds : Input, P bounds ∧
        BillingService.billedPeriod bill.periodStart bill.periodEnd bounds.now = .ok (start, stop)
  | done _ => True

theorem BillPc.hasRead_step (hP : P input) (h : pc.HasRead P db bill)
    (hs : billStep bill input.now input.id db pc = some (db, pc')) : pc'.HasRead P db bill := by
  cases pc with
  | readSubscription =>
    simp only [billStep] at hs
    split at hs <;> cases hs
    · trivial
    · assumption
  | readPlan subscription =>
    simp only [billStep] at hs
    split at hs <;> cases hs
    · trivial
    · exact ⟨h, ‹_›⟩
  | readTotal subscription plan =>
    obtain ⟨hsub, hplan⟩ := h
    simp only [billStep] at hs
    split at hs <;> cases hs
    · trivial
    · exact ⟨hsub, hplan, rfl, input, hP, ‹_›⟩
  | lookupInvoice subscription plan start stop totalUsage =>
    obtain ⟨hsub, hplan, htotal, hperiod⟩ := h
    simp only [billStep] at hs
    split at hs <;> cases hs
    · trivial
    · exact ⟨hsub, hplan, htotal, ‹_›, hperiod⟩
  | insert subscription plan start stop totalUsage =>
    simp only [billStep] at hs
    split at hs <;> cases hs <;> trivial
  | done result => simp [billStep] at hs

/-- **The last step of `calculate_bill`.** -/
theorem BillPc.performs_of_done {result : Except Exn BillingResponse} (hP : P input)
    (h : pc.HasRead P db bill)
    (hs : billStep bill input.now input.id db pc = some (db', .done result)) :
    ∃ bounds insert : Input, P bounds ∧ P insert ∧
      BillingService.calculateBill db bill.subscriptionId bill.periodStart bill.periodEnd
        bounds.now insert.now insert.id = (db', result) := by
  cases pc with
  | readSubscription =>
    simp only [billStep] at hs
    split at hs <;> cases hs
    exact ⟨input, input, hP, hP, by simp only [BillingService.calculateBill, *]⟩
  | readPlan subscription =>
    simp only [HasRead] at h
    simp only [billStep] at hs
    split at hs <;> cases hs
    exact ⟨input, input, hP, hP, by simp only [BillingService.calculateBill, *]⟩
  | readTotal subscription plan =>
    obtain ⟨hsub, hplan⟩ := h
    simp only [billStep] at hs
    split at hs <;> cases hs
    exact ⟨input, input, hP, hP, by simp only [BillingService.calculateBill, *]⟩
  | lookupInvoice subscription plan start stop totalUsage =>
    obtain ⟨hsub, hplan, -, bounds, hbounds, hperiod⟩ := h
    simp only [billStep] at hs
    split at hs <;> cases hs
    exact ⟨bounds, input, hbounds, hP, by simp only [BillingService.calculateBill, *]⟩
  | insert subscription plan start stop totalUsage =>
    obtain ⟨hsub, hplan, rfl, hnone, bounds, hbounds, hperiod⟩ := h
    refine ⟨bounds, input, hbounds, hP, ?_⟩
    simp only [billStep] at hs
    split at hs <;> cases hs <;> simp only [BillingService.calculateBill, *]
  | done result => simp [billStep] at hs

end Bill

/-! ## Deliveries -/

section Webhook

variable {driver : Driver} {db db' : Database} {event : StripeEvent} {pc pc' : WebhookPc}
  {ids : StripeService.NewIds} {now : DateTime}

/-- What a delivery has read. -/
def WebhookPc.HasRead (driver : Driver) (db : Database) (event : StripeEvent) : WebhookPc → Prop
  | lookupMarker => True
  | process => WebhookEventRepository.getByEventId db event.id = none
  | readPlan loaded status priceId => WebhookEventRepository.getByEventId db event.id = none ∧
      processStep driver db event = .ok (.readPlan loaded status priceId)
  | commit pending => WebhookEventRepository.getByEventId db event.id = none ∧
      StripeService.processEvent driver db event = .ok pending
  | rollback _ => True
  | done _ => True

theorem WebhookPc.hasRead_step (h : pc.HasRead driver db event)
    (hs : webhookStep driver event ids now db pc = some (db, pc')) :
    pc'.HasRead driver db event := by
  cases pc with
  | lookupMarker =>
    simp only [webhookStep] at hs
    split at hs <;> cases hs
    · trivial
    · assumption
  | process =>
    simp only [webhookStep] at hs
    split at hs <;> cases hs
    · rename_i hp
      rcases processStep_ok hp with ⟨loaded, status, priceId, rfl⟩ | ⟨pending, rfl⟩
      · exact ⟨h, hp⟩
      · exact ⟨h, by rw [processEvent_eq_processStep, hp]; rfl⟩
    · trivial
  | readPlan loaded status priceId =>
    simp only [webhookStep] at hs
    cases hs
    exact ⟨h.1, by rw [processEvent_eq_processStep, h.2]; rfl⟩
  | commit pending => simp only [webhookStep] at hs; split at hs <;> cases hs <;> trivial
  | rollback exn => simp only [webhookStep] at hs; cases hs; trivial
  | done result => simp [webhookStep] at hs

/-- **The last step of `handle_webhook`**, unless it has rolled back before. -/
theorem WebhookPc.performs_of_decides {result : Except Exn Unit} (h : pc.HasRead driver db event)
    (hs : webhookStep driver event ids now db pc = some (db', pc'))
    (hpc : ∀ exn, pc ≠ .rollback exn)
    (hout : (Session.handleWebhook event pc').outcome = some (.delivered result)) :
    StripeService.handleWebhook driver db event ids now = (db', result) := by
  cases pc with
  | lookupMarker =>
    simp only [webhookStep] at hs
    split at hs <;> cases hs
    · cases hout; simp only [StripeService.handleWebhook, *]
    · simp [Session.outcome] at hout
  | process =>
    simp only [HasRead] at h
    simp only [webhookStep] at hs
    split at hs <;> cases hs
    · rename_i hp
      rcases processStep_ok hp with ⟨loaded, status, priceId, rfl⟩ | ⟨pending, rfl⟩ <;>
        simp [Session.outcome] at hout
    · rename_i hp
      have hprocess : StripeService.processEvent driver db event = _ := processEvent_eq_processStep
      rw [hp] at hprocess
      cases hout
      simp only [StripeService.handleWebhook, h, hprocess, Except.bind]
  | readPlan loaded status priceId =>
    simp only [webhookStep] at hs
    cases hs
    simp [Session.outcome] at hout
  | commit pending =>
    obtain ⟨hmarker, hprocess⟩ := h
    simp only [webhookStep] at hs
    split at hs <;> cases hs <;> cases hout <;> simp only [StripeService.handleWebhook, *]
  | rollback exn => exact absurd rfl (hpc exn)
  | done result => simp [webhookStep] at hs

end Webhook

/-! ## The reconciliation job -/

section Job

variable {P : Input → Prop} {db db' : Database} {attempts : ℕ} {pc pc' : JobPc}
  {answers : String → ℕ → Except Exn Json} {loaded : Subscription}
  {rest before : List Subscription} {changed : List (Uuid × SubscriptionStatus)}

/-- The Stripe id under which the job asks about a row. -/
abbrev askedId (row : Subscription) : String := row.stripeSubscriptionId.getD ""

/-- Every answer is one that a step has received. -/
def Received (P : Input → Prop) (answers : String → ℕ → Except Exn Json) : Prop :=
  ∀ stripeId attempt, ∃ input, P input ∧ answers stripeId attempt = input.answer

/-- The job has gone through the rows `before` and recorded `changed`. -/
def Walked (P : Input → Prop) (attempts : ℕ) (before : List Subscription)
    (changed : List (Uuid × SubscriptionStatus)) (answers : String → ℕ → Except Exn Json) : Prop :=
  Received P answers ∧
    ∀ baseDelay, 0 ≤ baseDelay → changedRows answers attempts baseDelay before = changed

/-- What a run of the job has read. -/
def JobPc.HasRead (P : Input → Prop) (db : Database) (attempts : ℕ) : JobPc → Prop
  | load => True
  | retrieve loaded rest attempt changed => attempt < attempts ∧
      ∃ before answers, getAllWithStripeId db = before ++ loaded :: rest ∧
        Walked P attempts before changed answers ∧
        ∀ i < attempt, ∃ exn, answers (askedId loaded) i = .error exn
  | commit changed => ∃ answers, Walked P attempts (getAllWithStripeId db) changed answers
  | done _ => True

/-- One more answer. -/
def withAnswer (answers : String → ℕ → Except Exn Json) (stripeId : String) (attempt : ℕ)
    (answer : Except Exn Json) : String → ℕ → Except Exn Json :=
  Function.update answers stripeId (Function.update (answers stripeId) attempt answer)

theorem received_withAnswer {input : Input} (h : Received P answers) (hP : P input)
    (stripeId : String) (attempt : ℕ) :
    Received P (withAnswer answers stripeId attempt input.answer) := by
  intro stripeId' attempt'
  by_cases hs : stripeId' = stripeId
  · subst hs
    by_cases ha : attempt' = attempt
    · subst ha; exact ⟨input, hP, by simp [withAnswer]⟩
    · simpa [withAnswer, Function.update_of_ne ha] using h stripeId' attempt'
  · simpa [withAnswer, Function.update_of_ne hs] using h stripeId' attempt'

/-- The answers about other rows do not matter. -/
theorem Walked.withOtherAnswer {input : Input} (h : Walked P attempts before changed answers)
    (hP : P input) (attempt : ℕ) (hother : ∀ row ∈ before, askedId row ≠ askedId loaded) :
    Walked P attempts before changed
      (withAnswer answers (askedId loaded) attempt input.answer) := by
  refine ⟨received_withAnswer h.1 hP _ _, fun baseDelay hdelay => ?_⟩
  rw [← h.2 baseDelay hdelay, changedRows_eq_flatMap, changedRows_eq_flatMap]
  refine List.flatMap_congr fun row hrow => ?_
  have hsame : withAnswer answers (askedId loaded) attempt input.answer (askedId row) =
      answers (askedId row) := Function.update_of_ne (hother row hrow) _ _
  have hask : ask (withAnswer answers (askedId loaded) attempt input.answer) attempts baseDelay
      row = ask answers attempts baseDelay row :=
    congrArg (fun call => retry call attempts baseDelay) hsame
  rw [hask]

/-- The retries of the next row end with an answer. -/
theorem Walked.concat_answered {attempt : ℕ} {object : Json}
    (h : Walked P attempts before changed answers)
    (hlink : loaded.stripeSubscriptionId = some (askedId loaded))
    (hfirst : RunOnce.FirstSuccess (answers (askedId loaded)) attempts attempt object) :
    Walked P attempts (before ++ [loaded]) (changed ++ statusChange loaded object) answers := by
  refine ⟨h.1, fun baseDelay hdelay => ?_⟩
  have hanswer : answerFor answers attempts baseDelay loaded = some object :=
    RunOnce.answerFor_of_firstSuccess hdelay hlink hfirst
  rw [RunOnce.answerFor_of_linked hlink] at hanswer
  have hresult := toOption_eq_some.mp hanswer
  have hnew : changesOf loaded (ask answers attempts baseDelay loaded) =
      statusChange loaded object := by
    rw [ask, hlink, Option.getD_some, changesOf, hresult]
  rw [changedRows_concat, h.2 baseDelay hdelay, hnew]

/-- The retries of the next row end without an answer. -/
theorem Walked.concat_failed (h : Walked P attempts before changed answers)
    (hlink : loaded.stripeSubscriptionId = some (askedId loaded))
    (hattempts : 0 < attempts) (hfail : RunOnce.AllFail (answers (askedId loaded)) attempts) :
    Walked P attempts (before ++ [loaded]) changed answers := by
  refine ⟨h.1, fun baseDelay hdelay => ?_⟩
  have hanswer : answerFor answers attempts baseDelay loaded = none :=
    RunOnce.answerFor_of_allFail hattempts hdelay hlink hfail
  rw [RunOnce.answerFor_of_linked hlink] at hanswer
  obtain ⟨exn, hresult⟩ := toOption_eq_none.mp hanswer
  have hnew : changesOf loaded (ask answers attempts baseDelay loaded) = [] := by
    rw [ask, hlink, Option.getD_some, changesOf, hresult]
  rw [changedRows_concat, h.2 baseDelay hdelay, hnew, List.append_nil]

/-- The job goes on with the next row, or to its commit. -/
theorem JobPc.hasRead_nextRow (h : Walked P attempts before changed answers)
    (hrows : getAllWithStripeId db = before ++ rest) :
    (JobPc.nextRow attempts changed rest).HasRead P db attempts := by
  cases rest with
  | nil =>
    rw [List.append_nil] at hrows
    exact ⟨answers, hrows ▸ h⟩
  | cons loaded rest =>
    by_cases hattempts : attempts = 0
    · subst hattempts
      -- without attempts no row is ever changed
      have hnone : ∀ baseDelay rows, changedRows answers 0 baseDelay rows = [] := by
        intro baseDelay rows
        simp [changedRows_eq_flatMap, changesOf, ask, retry, retryFrom]
      refine ⟨answers, h.1, fun baseDelay hdelay => ?_⟩
      rw [hnone, ← h.2 baseDelay hdelay, hnone]
    · rw [nextRow, if_neg hattempts]
      exact ⟨Nat.pos_of_ne_zero hattempts, before, answers, hrows, h,
        fun i hi => absurd hi (Nat.not_lt_zero i)⟩

/-- The job asks about rows under their Stripe id. -/
theorem linked_of_mem {row : Subscription} (h : row ∈ getAllWithStripeId db) :
    row ∈ db.subscriptions ∧ row.stripeSubscriptionId = some (askedId row) := by
  obtain ⟨hmem, hlink⟩ := List.mem_filter.mp h
  obtain ⟨stripeId, hs⟩ := Option.isSome_iff_exists.mp hlink
  exact ⟨hmem, by rw [askedId, hs, Option.getD_some]⟩

/-- The loaded rows have different Stripe ids. -/
theorem askedId_ne (hrows : getAllWithStripeId db = before ++ loaded :: rest) :
    ∀ row ∈ before, askedId row ≠ askedId loaded := by
  intro row hrow heq
  obtain ⟨hmem, hid⟩ := linked_of_mem (hrows ▸ List.mem_append_left _ hrow)
  obtain ⟨hmem', hid'⟩ := linked_of_mem (hrows ▸ List.mem_append_right _ List.mem_cons_self)
  obtain rfl := Rows.eq_of_unique_filterMap db.constraints.subscriptions_stripe_id hmem hmem' hid
    (heq ▸ hid')
  have hnodup : (getAllWithStripeId db).Nodup :=
    (List.Nodup.of_map _ db.constraints.subscriptions_pkey).filter _
  rw [hrows, List.nodup_middle, List.nodup_cons] at hnodup
  exact hnodup.1 (List.mem_append_left _ hrow)

theorem JobPc.hasRead_step {input : Input} (hP : P input) (h : pc.HasRead P db attempts)
    (hs : jobStep attempts input.answer db pc = some (db, pc')) : pc'.HasRead P db attempts := by
  cases pc with
  | load =>
    simp only [jobStep] at hs
    cases hs
    have hwalked : Walked P attempts [] [] fun _ _ => input.answer :=
      ⟨fun _ _ => ⟨input, hP, rfl⟩, fun _ _ => rfl⟩
    exact hasRead_nextRow hwalked rfl
  | retrieve loaded rest attempt changed =>
    obtain ⟨hlt, before, answers, hrows, hwalked, hfailed⟩ := h
    have hlink := (linked_of_mem (hrows ▸ List.mem_append_right _ List.mem_cons_self)).2
    have hwalked' := hwalked.withOtherAnswer hP attempt (askedId_ne hrows)
    have hbefore : ∀ i < attempt, ∃ exn,
        withAnswer answers (askedId loaded) attempt input.answer (askedId loaded) i =
          .error exn := by
      intro i hi
      simpa [withAnswer, Function.update_of_ne hi.ne] using hfailed i hi
    have hnow : withAnswer answers (askedId loaded) attempt input.answer (askedId loaded) attempt =
        input.answer := by simp [withAnswer]
    have hrows' : getAllWithStripeId db = (before ++ [loaded]) ++ rest := by simpa using hrows
    simp only [jobStep] at hs
    split at hs
    · rename_i object hanswer
      cases hs
      exact hasRead_nextRow
        (hwalked'.concat_answered hlink ⟨hlt, hbefore, hnow.trans hanswer⟩) hrows'
    · rename_i exn hanswer
      have hfail : ∀ i < attempt + 1, ∃ exn, withAnswer answers (askedId loaded) attempt
          input.answer (askedId loaded) i = .error exn := by
        intro i hi
        rcases Nat.lt_succ_iff_lt_or_eq.mp hi with hi | rfl
        · exact hbefore i hi
        · exact ⟨exn, hnow.trans hanswer⟩
      split_ifs at hs with hmore <;> cases hs
      · exact ⟨hmore, before, _, hrows, hwalked', hfail⟩
      · have hall : RunOnce.AllFail (withAnswer answers (askedId loaded) attempt input.answer
            (askedId loaded)) attempts := fun i hi => hfail i (by omega)
        exact hasRead_nextRow (hwalked'.concat_failed hlink (Nat.zero_lt_of_lt hlt) hall) hrows'
  | commit changed =>
    rcases jobStep_effect hs with ⟨-, hpc⟩ | ⟨changed', -, rfl, -⟩
    · exact absurd rfl (hpc changed)
    · trivial
  | done synced => simp [jobStep] at hs

/-- **The last step of `run_once`.** -/
theorem JobPc.performs_of_done {input : Input} {synced : Except Exn ℕ}
    (h : pc.HasRead P db attempts)
    (hs : jobStep attempts input.answer db pc = some (db', .done synced)) :
    ∃ answers, Received P answers ∧
      ∀ baseDelay, 0 ≤ baseDelay →
        runOnce (some answers) attempts baseDelay db = (db', synced) := by
  have hnext : ∀ changed rows, JobPc.nextRow attempts changed rows ≠ .done synced := by
    intro changed rows
    cases rows with
    | nil => simp [nextRow]
    | cons loaded rest => simp only [nextRow]; split_ifs <;> simp
  cases pc with
  | load =>
    simp only [jobStep, Option.some.injEq, Prod.mk.injEq] at hs
    exact absurd hs.2 (hnext _ _)
  | retrieve loaded rest attempt changed =>
    simp only [jobStep] at hs
    split at hs
    · simp only [Option.some.injEq, Prod.mk.injEq] at hs
      exact absurd hs.2 (hnext _ _)
    · split_ifs at hs
      · cases hs
      · simp only [Option.some.injEq, Prod.mk.injEq] at hs
        exact absurd hs.2 (hnext _ _)
  | commit changed =>
    obtain ⟨answers, hreceived, hchanged⟩ := h
    refine ⟨answers, hreceived, fun baseDelay hdelay => ?_⟩
    obtain ⟨db₁, hok, -⟩ := commitStatuses_eq_ok db changed
    simp only [jobStep, hok] at hs
    cases hs
    have hchanged := hchanged baseDelay hdelay
    rw [← hchanged] at hok ⊢
    exact runOnce_of_commit hok
  | done synced' => simp [jobStep] at hs

end Job

/-! ## Any call -/

namespace Session

variable {driver : Driver} {P : Input → Prop} {input : Input} {db db' : Database}
  {s s' s₀ : Session} {r : Reply}

/-- What a call has read. -/
def HasRead (driver : Driver) (P : Input → Prop) (db : Database) : Session → Prop
  | recordUsage usage pc => pc.HasRead P db usage
  | calculateBill bill pc => pc.HasRead P db bill
  | handleWebhook event pc => pc.HasRead driver db event
  | runOnce attempts pc => pc.HasRead P db attempts

theorem hasRead_of_isStart (h : s.IsStart) : s.HasRead driver P db := by
  cases s with
  | recordUsage usage pc => obtain rfl : pc = .lookupKey := h; trivial
  | calculateBill bill pc => obtain rfl : pc = .readSubscription := h; trivial
  | handleWebhook event pc => obtain rfl : pc = .lookupMarker := h; trivial
  | runOnce attempts pc => obtain rfl : pc = .load := h; trivial

theorem hasRead_step (hP : P input) (h : s.HasRead driver P db)
    (hs : step driver input db s = some (db, s')) : s'.HasRead driver P db := by
  cases s with
  | recordUsage usage pc =>
    obtain ⟨pc', hpc, rfl⟩ := step_recordUsage.mp hs
    exact RecordPc.hasRead_step hP h hpc
  | calculateBill bill pc =>
    obtain ⟨pc', hpc, rfl⟩ := step_calculateBill.mp hs
    exact BillPc.hasRead_step hP h hpc
  | handleWebhook event pc =>
    obtain ⟨pc', hpc, rfl⟩ := step_handleWebhook.mp hs
    exact WebhookPc.hasRead_step h hpc
  | runOnce attempts pc =>
    obtain ⟨pc', hpc, rfl⟩ := step_runOnce.mp hs
    exact JobPc.hasRead_step hP h hpc

/-- A step does not change what the call is asked to do. -/
theorem performs_step {db₁ db₂ : Database} (hs : step driver input db s = some (db', s')) :
    Performs driver P db₁ db₂ r s' ↔ Performs driver P db₁ db₂ r s := by
  cases s with
  | recordUsage usage pc => obtain ⟨pc', -, rfl⟩ := step_recordUsage.mp hs; exact Iff.rfl
  | calculateBill bill pc => obtain ⟨pc', -, rfl⟩ := step_calculateBill.mp hs; exact Iff.rfl
  | handleWebhook event pc => obtain ⟨pc', -, rfl⟩ := step_handleWebhook.mp hs; exact Iff.rfl
  | runOnce attempts pc => obtain ⟨pc', -, rfl⟩ := step_runOnce.mp hs; exact Iff.rfl

/-- The step in which a call decides does the rest of the method. -/
theorem performs_of_decides (hP : P input) (h : s.HasRead driver P db)
    (hs : step driver input db s = some (db', s')) (hopen : s.outcome = none)
    (hout : s'.outcome = some r) : Performs driver P db db' r s := by
  cases s with
  | recordUsage usage pc =>
    obtain ⟨pc', hpc, rfl⟩ := step_recordUsage.mp hs
    cases pc' <;> cases hout
    obtain ⟨bounds, insert, hbounds, hinsert, heq⟩ := RecordPc.performs_of_done hP h hpc
    exact ⟨bounds, insert, hbounds, hinsert, _, rfl, heq⟩
  | calculateBill bill pc =>
    obtain ⟨pc', hpc, rfl⟩ := step_calculateBill.mp hs
    cases pc' <;> cases hout
    obtain ⟨bounds, insert, hbounds, hinsert, heq⟩ := BillPc.performs_of_done hP h hpc
    exact ⟨bounds, insert, hbounds, hinsert, _, rfl, heq⟩
  | handleWebhook event pc =>
    obtain ⟨pc', hpc, rfl⟩ := step_handleWebhook.mp hs
    have hroll : ∀ exn, pc ≠ .rollback exn := by rintro exn rfl; cases hopen
    obtain ⟨result, rfl⟩ : ∃ result, r = .delivered result := by
      cases pc' <;> cases hout <;> exact ⟨_, rfl⟩
    exact ⟨input, hP, result, rfl, WebhookPc.performs_of_decides h hpc hroll hout⟩
  | runOnce attempts pc =>
    obtain ⟨pc', hpc, rfl⟩ := step_runOnce.mp hs
    cases pc' <;> cases hout
    obtain ⟨answers, hreceived, heq⟩ := JobPc.performs_of_done h hpc
    exact ⟨answers, hreceived, _, rfl, heq⟩

theorem hasRead_of_reads (hstart : s₀.IsStart) (h : Reads (step driver) P db s₀ s) :
    s.HasRead driver P db := by
  induction h with
  | refl => exact hasRead_of_isStart hstart
  | tail _ hP hs ih => exact hasRead_step hP ih hs

theorem performs_of_reads {db₁ db₂ : Database} (h : Reads (step driver) P db s₀ s) :
    Performs driver P db₁ db₂ r s ↔ Performs driver P db₁ db₂ r s₀ := by
  induction h with
  | refl => exact Iff.rfl
  | tail _ _ hs ih => exact (performs_step hs).trans ih

/-- **The steps are the methods.** A call that finds one database from its first step
    to its last does what its method does. -/
theorem performs_of_call (hstart : s₀.IsStart)
    (hcall : Call (step driver) outcome P s₀ db db' r) : Performs driver P db db' r s₀ := by
  obtain ⟨s, input, s', hreads, hP, hs, hopen, hout⟩ := hcall.decides
  exact (performs_of_reads hreads).mp
    (performs_of_decides hP (hasRead_of_reads hstart hreads) hs hopen hout)

/-! ### Only the step in which a call decides changes the database -/

theorem undecided_keeps (hs : step driver input db s = some (db', s')) (hopen : s'.outcome = none) :
    db' = db := by
  cases s with
  | recordUsage usage pc =>
    obtain ⟨pc', hpc, rfl⟩ := step_recordUsage.mp hs
    rcases recordStep_effect hpc with rfl | ⟨-, -, -, rfl⟩
    · rfl
    · cases hopen
  | calculateBill bill pc =>
    obtain ⟨pc', hpc, rfl⟩ := step_calculateBill.mp hs
    rcases billStep_effect hpc with rfl | ⟨subscription, plan, start, stop, total, rfl, -⟩
    · rfl
    · simp only [billStep] at hpc
      split at hpc <;> cases hpc <;> cases hopen
  | handleWebhook event pc =>
    obtain ⟨pc', hpc, rfl⟩ := step_handleWebhook.mp hs
    rcases webhookStep_effect hpc with ⟨rfl, -⟩ | ⟨pending, -, rfl, -⟩
    · rfl
    · cases hopen
  | runOnce attempts pc =>
    obtain ⟨pc', hpc, rfl⟩ := step_runOnce.mp hs
    rcases jobStep_effect hpc with ⟨rfl, -⟩ | ⟨changed, -, rfl, -⟩
    · rfl
    · cases hopen

theorem decided_keeps (hs : step driver input db s = some (db', s')) (hout : s.outcome = some r) :
    db' = db ∧ s'.outcome = some r := by
  cases s with
  | recordUsage usage pc =>
    cases pc <;> cases hout
    simp [step] at hs
  | calculateBill bill pc =>
    cases pc <;> cases hout
    simp [step, billStep] at hs
  | handleWebhook event pc =>
    cases pc <;> cases hout
    · simp only [step, webhookStep, Option.map_some, Option.some.injEq, Prod.mk.injEq] at hs
      obtain ⟨rfl, rfl⟩ := hs
      exact ⟨rfl, rfl⟩
    · simp [step, webhookStep] at hs
  | runOnce attempts pc =>
    cases pc <;> cases hout
    simp [step, jobStep] at hs

end Session

end BillingEngine
