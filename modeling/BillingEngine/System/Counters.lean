import BillingEngine.Common.Traces
import BillingEngine.Metering.Decision
import BillingEngine.System.SubscriptionRows

/-!
# The service as a set of counters

Metering adds up a ledger of events in every request: for the quota, for the bill and
for the rollup. What a client can see of this is as if the service kept, for every
subscription and calendar month, six counters and at most one bill, and for every
idempotency key the event that was recorded under it. `Counters` is that machine; it
knows neither tables nor periods, and it counts instead of adding up.

`Counters.of` reads these counters off the tables.

Results:
* `getTotalByType_eq_count`, `getTotalUsage_eq_count`, `getTokenTotals_eq_count`: the sums
  over a month are the counters.
* `getBySubscriptionAndPeriod_map`: the invoice of a month is its bill.
* `of_recorded`, `of_billed`: an insert counts one event, or keeps one bill.
-/

namespace BillingEngine

open Runs Traces Ledger UsageRepository SubscriptionRepository

/-! ## The machine -/

/-- What is counted. -/
inductive Counter where
  | apiCalls
  | tokens
  | cachedInput
  | input
  | output
  | reasoning
deriving DecidableEq

namespace Counter

/-- What one event adds. -/
def counts : Counter → UsageEvent → ℤ
  | apiCalls, e => if e.usageType = .apiCall then e.quantity else 0
  | tokens, e => if e.usageType = .tokens then e.quantity else 0
  | cachedInput, e => if e.usageType = .tokens then e.cachedInputTokens else 0
  | input, e => if e.usageType = .tokens then e.inputTokens else 0
  | output, e => if e.usageType = .tokens then e.outputTokens else 0
  | reasoning, e => if e.usageType = .tokens then e.reasoningTokens else 0

/-- The counter that a limit is about. -/
def ofType : UsageType → Counter
  | .apiCall => apiCalls
  | .tokens => tokens

end Counter

/-- What metering and billing know about a subscription. -/
structure Account where
  status : SubscriptionStatus
  planId : Uuid
  price : ℤ
  usageLimit : ℤ
  apiCallLimit : ℤ
  tokensLimit : ℤ
deriving DecidableEq

namespace Account

/-- The limit of a usage type. -/
def limitFor (account : Account) : UsageType → ℤ
  | .apiCall => account.apiCallLimit
  | .tokens => account.tokensLimit

/-- The bill for a month with this total. -/
def billFor (account : Account) (subscriptionId : Uuid) (total : ℤ) : BillingResponse where
  subscriptionId := subscriptionId
  planPrice := account.price
  usageLimit := account.usageLimit
  totalUsage := total
  overage := max (total - account.usageLimit) 0
  amountDue := account.price + max (total - account.usageLimit) 0 * 10

/-- The rollup of a month with these counts. -/
def rollup (account : Account) (subscriptionId : Uuid) (count : Counter → ℤ) :
    UsageRollupResponse :=
  let cost := CostService.calculateApiCallCost (count .apiCalls) +
    CostService.calculateTokenCost (count .cachedInput) (count .input) (count .output)
      (count .reasoning)
  { subscriptionId := subscriptionId
    planId := account.planId
    usedApiCalls := count .apiCalls
    apiCallLimit := account.apiCallLimit
    usedTokens := count .tokens
    tokensLimit := account.tokensLimit
    costMicro := cost
    costCents := CostService.toCents cost }

end Account

/-- The figures of a bill fit their columns. -/
def BillingResponse.Fits (bill : BillingResponse) : Prop :=
  inInteger bill.planPrice ∧ inInteger bill.usageLimit ∧ inInteger bill.totalUsage ∧
    inInteger bill.overage ∧ inInteger bill.amountDue

instance (bill : BillingResponse) : Decidable bill.Fits := inferInstanceAs (Decidable (_ ∧ _))

/-- The state of the machine; a month is given by its number. -/
@[ext] structure Counters where
  account : Uuid → Option Account
  stored : String → Option UsageEvent
  count : Uuid → ℕ → Counter → ℤ
  bill : Uuid → ℕ → Option BillingResponse

namespace Counters

/-- No subscription, no usage and no bill. -/
def empty : Counters where
  account _ := none
  stored _ := none
  count _ _ _ := 0
  bill _ _ := none

/-- Count an event, in the month in which it was recorded. -/
def add (m : Counters) (e : UsageEvent) : Counters where
  account := m.account
  stored key := if key = e.idempotencyKey then some e else m.stored key
  count sid month c :=
    if sid = e.subscriptionId ∧ month = e.createdAt.monthNumber then
      m.count sid month c + c.counts e
    else m.count sid month c
  bill := m.bill

/-- Keep the bill of a month. -/
def setBill (m : Counters) (month : ℕ) (bill : BillingResponse) : Counters where
  account := m.account
  stored := m.stored
  count := m.count
  bill sid month' :=
    if sid = bill.subscriptionId ∧ month' = month then some bill else m.bill sid month'

/-- Record usage: the count of the month must leave room below the limit. -/
def recordUsage (m : Counters) (usage : UsageRequest) (nowBounds nowInsert : DateTime) (id : Uuid) :
    Counters × Except Exn UsageEvent :=
  match lookupText usage.idempotencyKey (m.stored usage.idempotencyKey) with
  | .error exn => (m, .error exn)
  | .ok (some event) => (m, .ok event)
  | .ok none =>
    match m.account usage.subscriptionId with
    | none => (m, .error (UsageService.notFound usage))
    | some account =>
      if account.status ≠ .active then (m, .error (UsageService.notActive usage account.status))
      else
        match monthBounds nowBounds with
        | .error exn => (m, .error exn)
        | .ok _ =>
          let used := m.count usage.subscriptionId nowBounds.monthNumber (.ofType usage.usageType)
          let limit := account.limitFor usage.usageType
          if used + usage.quantity > limit then
            (m, .error (UsageService.quotaExceeded usage limit used))
          else
            let event := newEvent usage id nowInsert
            (m.add event, .ok event)

/-- Bill the current month, once. -/
def calculateBill (m : Counters) (subscriptionId : Uuid) (now : DateTime) :
    Counters × Except Exn BillingResponse :=
  match m.account subscriptionId with
  | none => (m, .error (BillingService.notFound subscriptionId))
  | some account =>
    match monthBounds now with
    | .error exn => (m, .error exn)
    | .ok _ =>
      match m.bill subscriptionId now.monthNumber with
      | some bill => (m, .ok bill)
      | none =>
        let count := m.count subscriptionId now.monthNumber
        let bill := account.billFor subscriptionId (count .apiCalls + count .tokens)
        if bill.Fits then (m.setBill now.monthNumber bill, .ok bill) else (m, .error .dataError)

/-- The rollup of the current month. -/
def rollup (m : Counters) (subscriptionId : Uuid) (now : DateTime) :
    Except Exn (Option UsageRollupResponse) :=
  match monthBounds now with
  | .error exn => .error exn
  | .ok _ => .ok <| (m.account subscriptionId).map fun account =>
      account.rollup subscriptionId (m.count subscriptionId now.monthNumber)

end Counters

/-! ## Requests and answers -/

/-- A client calls an operation, or asks for the rollup of the current month. -/
inductive Request where
  | op (op : Op)
  | rollup (subscriptionId : Uuid) (now : DateTime)

/-- What metering and billing answer; the other operations are not looked at. -/
inductive Answer where
  | usage (result : Except Exn (Option UsageEvent))
  | bill (result : Except Exn BillingResponse)
  | rollup (result : Except Exn (Option UsageRollupResponse))
  | notObserved
deriving DecidableEq

/-- `GET /usage/{subscription_id}` behind the check of the owner (`usage.py`, lines 52–54). -/
def usageRollup (db : Database) (subscriptionId : Uuid) (now : DateTime) :
    Except Exn (Option UsageRollupResponse) := do
  let (periodStart, periodEnd) ← monthBounds now
  CostService.rollup db subscriptionId periodStart periodEnd

namespace Op

/-- The operation records usage or makes a bill. -/
def isMetering : Op → Bool
  | recordUsage .. | calculateBill .. => true
  | _ => false

/-- What the caller gets. -/
def answer (db : Database) : Op → Answer
  | recordUsage usage nowBounds nowInsert id =>
    .usage (UsageService.recordUsage db usage nowBounds nowInsert id).2
  | calculateBill subscriptionId nowBounds nowInsert id =>
    .bill (BillingService.calculateBill db subscriptionId none none nowBounds nowInsert id).2
  | _ => .notObserved

end Op

namespace Serial

/-- One request and its answer. -/
def serve (driver : Driver) (s : Serial) : Request → Option (Serial × Answer)
  | .op op => (next driver s op).map fun s' => (s', op.answer s.db)
  | .rollup subscriptionId now =>
    (next driver s (.advance now)).map fun s' => (s', .rollup (usageRollup s.db subscriptionId now))

/-- The keys drawn for an event or an invoice are new. -/
def DrawsFresh (db : Database) : Request → Prop
  | .op (.recordUsage _ _ _ id) => id ∉ db.usageEvents.map UsageEvent.id
  | .op (.calculateBill _ _ _ id) => id ∉ db.invoices.map Invoice.id
  | _ => True

/-- A step of the service, with its answer. -/
def Serves (driver : Driver) (s : Serial) (request : Request) (answer : Answer) (s' : Serial) :
    Prop :=
  DrawsFresh s.db request ∧ s.serve driver request = some (s', answer)

end Serial

/-- A step of the machine. What is not metering can change accounts, in any way that
    keeps them. -/
inductive Counters.Serves (m : Counters) : Request → Answer → Counters → Prop
  | recordUsage (usage : UsageRequest) (nowBounds nowInsert : DateTime) (id : Uuid) :
      Serves m (.op (.recordUsage usage nowBounds nowInsert id))
        (.usage ((m.recordUsage usage nowBounds nowInsert id).2.map some))
        (m.recordUsage usage nowBounds nowInsert id).1
  | calculateBill (subscriptionId : Uuid) (nowBounds nowInsert : DateTime) (id : Uuid) :
      Serves m (.op (.calculateBill subscriptionId nowBounds nowInsert id))
        (.bill (m.calculateBill subscriptionId nowBounds).2)
        (m.calculateBill subscriptionId nowBounds).1
  | rollup (subscriptionId : Uuid) (now : DateTime) :
      Serves m (.rollup subscriptionId now) (.rollup (m.rollup subscriptionId now)) m
  | other {op : Op} (account : Uuid → Option Account) (hop : op.isMetering = false)
      (hkeep : ∀ sid, (m.account sid).isSome → (account sid).isSome) :
      Serves m (.op op) .notObserved { m with account := account }

/-! ## What the tables stand for -/

/-- The events of a subscription in a month. -/
def inMonth (subscriptionId : Uuid) (month : ℕ) (e : UsageEvent) : Bool :=
  decide (e.subscriptionId = subscriptionId) && decide (e.createdAt.monthNumber = month)

/-- The invoices of a subscription for a month. -/
def isForMonth (subscriptionId : Uuid) (month : ℕ) (i : Invoice) : Bool :=
  decide (i.subscriptionId = subscriptionId) &&
    decide (i.periodStart.map DateTime.monthNumber = some month)

/-- The account of a subscription on a plan. -/
def Account.of (subscription : Subscription) (plan : Plan) : Account where
  status := subscription.status
  planId := plan.id
  price := plan.price
  usageLimit := plan.usageLimit
  apiCallLimit := plan.apiCallLimit
  tokensLimit := plan.tokensLimit

/-- The counters that the tables stand for. -/
def Counters.of (db : Database) : Counters where
  account sid := (getById db sid).bind fun subscription =>
    (planOf db subscription).map (Account.of subscription)
  stored := getByIdempotencyKey db
  count sid month c := sumWhere (inMonth sid month) c.counts db.usageEvents
  bill sid month := (db.invoices.find? (isForMonth sid month)).map BillingService.toDict

/-- What holds of the ledgers in every reachable state: no quantity is negative and
    every invoice is for a calendar month. -/
structure Metered (db : Database) : Prop where
  counts : Decision.Counts db
  months : ∀ i ∈ db.invoices, ∃ start stop, i.periodStart = some start ∧
    i.periodEnd = some stop ∧ monthBounds start = .ok (start, stop)

/-! ## The queries read the counters -/

namespace Counters

variable {db db' : Database} {subscriptionId : Uuid} {t start stop : DateTime}

/-- The period of a month has the events of the month. -/
theorem countsTowards_eq_inMonth (h : monthBounds t = .ok (start, stop)) :
    countsTowards subscriptionId (some start) (some stop) =
      inMonth subscriptionId t.monthNumber := by
  funext e
  rw [Bool.eq_iff_iff]
  simp only [countsTowards, inMonth, Bool.and_eq_true, decide_eq_true_eq, inPeriod_some_some]
  rw [mem_monthBounds_iff h, DateTime.monthNumber_eq_iff]

theorem sumWhere_month (h : monthBounds t = .ok (start, stop)) (usageType : UsageType)
    (column : UsageEvent → ℤ) :
    sumWhere (countsTowardsType subscriptionId usageType (some start) (some stop)) column
        db.usageEvents =
      sumWhere (inMonth subscriptionId t.monthNumber)
        (fun e => if e.usageType = usageType then column e else 0) db.usageEvents := by
  have hand := sumWhere_and (p := inMonth subscriptionId t.monthNumber)
    (q := fun e => decide (e.usageType = usageType)) column db.usageEvents
  simp only [decide_eq_true_eq] at hand
  rw [← hand, ← countsTowards_eq_inMonth h]
  rfl

theorem getTotalByType_eq_count (h : monthBounds t = .ok (start, stop)) (usageType : UsageType) :
    getTotalByType db subscriptionId usageType (some start) (some stop) =
      (of db).count subscriptionId t.monthNumber (.ofType usageType) := by
  rw [getTotalByType, sumWhere_month h]
  cases usageType <;> rfl

theorem getTotalUsage_eq_count (h : monthBounds t = .ok (start, stop)) :
    getTotalUsage db subscriptionId (some start) (some stop) =
      (of db).count subscriptionId t.monthNumber .apiCalls +
        (of db).count subscriptionId t.monthNumber .tokens := by
  rw [getTotalUsage_eq_types, getTotalByType_eq_count h, getTotalByType_eq_count h]
  rfl

theorem getTokenTotals_eq_count (h : monthBounds t = .ok (start, stop)) :
    getTokenTotals db subscriptionId (some start) (some stop) =
      ((of db).count subscriptionId t.monthNumber .cachedInput,
        (of db).count subscriptionId t.monthNumber .input,
        (of db).count subscriptionId t.monthNumber .output,
        (of db).count subscriptionId t.monthNumber .reasoning) := by
  simp only [getTokenTotals, sumWhere_month h]
  rfl

/-- The invoice that a call finds is the bill of the month. -/
theorem getBySubscriptionAndPeriod_map (hmetered : Metered db)
    (h : monthBounds t = .ok (start, stop)) :
    (InvoiceRepository.getBySubscriptionAndPeriod db subscriptionId start stop).map
        BillingService.toDict = (of db).bill subscriptionId t.monthNumber := by
  have hstart := monthBounds_mem_self h
  refine congrArg (Option.map BillingService.toDict) (List.find?_congr fun i hi => ?_)
  obtain ⟨start', stop', hstart', hstop', hmonth⟩ := hmetered.months i hi
  rw [Bool.eq_iff_iff, InvoiceRepository.isForPeriod_iff]
  simp only [isForMonth, hstart', hstop', Bool.and_eq_true, decide_eq_true_eq, Option.map_some,
    Option.some.injEq]
  refine and_congr_right fun _ => ?_
  have hself : start' ≤ start' ∧ start' < stop' := monthBounds_mem_self hmonth
  constructor
  · rintro ⟨rfl, rfl⟩
    exact DateTime.monthNumber_eq_iff.mpr ((mem_monthBounds_iff h).mp hself)
  · intro hnumber
    obtain ⟨hyear, hmonth'⟩ := DateTime.monthNumber_eq_iff.mp hnumber
    rw [monthBounds_congr hyear hmonth', h] at hmonth
    obtain ⟨rfl, rfl⟩ := Prod.mk.inj (Except.ok.inj hmonth)
    exact ⟨rfl, rfl⟩

/-- A subscription that is found has an account. -/
theorem account_of_getById {subscription : Subscription}
    (hsub : getById db subscriptionId = some subscription) :
    ∃ plan, planOf db subscription = some plan ∧
      (of db).account subscriptionId = some (Account.of subscription plan) := by
  obtain ⟨plan, hplan⟩ := planOf_isSome (getById_eq_some_iff.mp hsub).1
  exact ⟨plan, hplan, by simp only [of, hsub, Option.bind_some, hplan, Option.map_some]⟩

theorem account_of_none (hsub : getById db subscriptionId = none) :
    (of db).account subscriptionId = none := by
  simp only [of, hsub, Option.bind_none]

theorem limitFor_of (subscription : Subscription) (plan : Plan) (usageType : UsageType) :
    (Account.of subscription plan).limitFor usageType = UsageService.limitFor plan usageType := by
  cases usageType <;> rfl

/-! ## The counters after an insert -/

/-- An event with a new key is counted. -/
theorem of_recorded {e : UsageEvent}
    (ht : db'.toTables = { db.toTables with usageEvents := db.usageEvents ++ [e] })
    (hkey : getByIdempotencyKey db e.idempotencyKey = none) : of db' = (of db).add e := by
  have hevents : db'.usageEvents = db.usageEvents ++ [e] := congrArg Tables.usageEvents ht
  have haccount : (of db').account = (of db).account := by
    simp only [of, getById, planOf, PlanRepository.getById, ht]
  have hbill : (of db').bill = (of db).bill := by simp only [of, ht]
  refine Counters.ext haccount ?_ ?_ hbill
  · funext key
    change getByIdempotencyKey db' key = if key = e.idempotencyKey then some e else _
    rw [getByIdempotencyKey, hevents, List.find?_append]
    split_ifs with h
    · subst h
      rw [show db.usageEvents.find? _ = none from hkey]
      simp
    · simp [of, getByIdempotencyKey, Ne.symm h]
  · funext sid month c
    change sumWhere _ _ db'.usageEvents = _
    rw [hevents, sumWhere_concat]
    have hin : inMonth sid month e = true ↔
        sid = e.subscriptionId ∧ month = e.createdAt.monthNumber := by
      simp only [inMonth, Bool.and_eq_true, decide_eq_true_eq]
      exact and_congr eq_comm eq_comm
    simp only [hin, add]
    split_ifs
    · rfl
    · exact add_zero _

/-- An invoice for a month that has none is the bill of the month. -/
theorem of_billed {i : Invoice}
    (ht : db'.toTables = { db.toTables with invoices := db.invoices ++ [i] })
    (hperiod : i.periodStart = some start) (hstart : start.monthNumber = t.monthNumber)
    (hnone : (of db).bill i.subscriptionId t.monthNumber = none) :
    of db' = (of db).setBill t.monthNumber (BillingService.toDict i) := by
  have haccount : (of db').account = (of db).account := by
    simp only [of, getById, planOf, PlanRepository.getById, ht]
  have hstored : (of db').stored = (of db).stored := by
    funext key
    simp only [of, getByIdempotencyKey, ht]
  have hcount : (of db').count = (of db).count := by simp only [of, ht]
  refine Counters.ext haccount hstored hcount ?_
  funext sid month
  have hfor : isForMonth sid month i = true ↔ sid = i.subscriptionId ∧ month = t.monthNumber := by
    simp only [isForMonth, hperiod, Option.map_some, hstart, Bool.and_eq_true, decide_eq_true_eq,
      Option.some.injEq]
    exact and_congr eq_comm eq_comm
  change (db'.invoices.find? _).map _ =
    if sid = i.subscriptionId ∧ month = t.monthNumber then _ else _
  rw [show db'.invoices = db.invoices ++ [i] from congrArg Tables.invoices ht, List.find?_append,
    Option.map_or]
  split_ifs with h
  · obtain ⟨rfl, rfl⟩ := h
    rw [show (db.invoices.find? _).map _ = none from hnone, List.find?_singleton,
      if_pos (hfor.mpr ⟨rfl, rfl⟩)]
    rfl
  · rw [List.find?_singleton, if_neg (mt hfor.mp h)]
    exact Option.or_none

end Counters

end BillingEngine
