import BillingEngine.System.Counters

/-!
# The service refines the counters

Every request is answered as `Counters` answers it, whatever the ledgers have become by
then. An event is counted in the month in which it is inserted, and the quota is that
of the month in which the call has read the total; nothing else of the past is needed.

Results:
* `recordUsage_refines`, `calculateBill_refines`, `usageRollup_eq`: the three services.
* `serves_refines`: one request.
* `service_refines_counters`: every trace of the service, with its answers, is one of
  the machine.
-/

namespace BillingEngine

open Runs Traces Ledger UsageRepository SubscriptionRepository

namespace Counters

variable {db : Database} {usage : UsageRequest} {subscriptionId id : Uuid} {t₁ t₂ : DateTime}

/-! ## The services -/

/-- **`record_usage`** answers from the counters and counts what it inserts. -/
theorem recordUsage_refines (hmetered : Metered db) (hid : id ∉ db.usageEvents.map UsageEvent.id) :
    ∃ r, (UsageService.recordUsage db usage t₁ t₂ id).2 = r.map some ∧
      (of db).recordUsage usage t₁ t₂ id =
        (of (UsageService.recordUsage db usage t₁ t₂ id).1, r) := by
  have hstored : (of db).stored usage.idempotencyKey =
      getByIdempotencyKey db usage.idempotencyKey := rfl
  unfold Counters.recordUsage
  rw [hstored]
  cases hkey : getByIdempotencyKey db usage.idempotencyKey with
  | some existing =>
    simp only [UsageService.recordUsage, lookupIdempotencyKey_of_some hkey, lookupText]
    exact ⟨.ok existing, rfl, rfl⟩
  | none =>
    by_cases hstorable : Storable usage.idempotencyKey
    swap
    · rw [lookupText_none_of_not_storable hstorable,
        UsageService.recordUsage_of_not_storable hstorable hkey]
      exact ⟨.error .dataError, rfl, rfl⟩
    have hlookup := lookupIdempotencyKey_of_none hstorable hkey
    rw [lookupText_none hstorable]
    cases hsub : getById db usage.subscriptionId with
    | none =>
      simp only [UsageService.recordUsage, hlookup, hsub, account_of_none hsub]
      exact ⟨.error _, rfl, rfl⟩
    | some subscription =>
      obtain ⟨plan, hplan, haccount⟩ := account_of_getById hsub
      have hstatus : (Account.of subscription plan).status = subscription.status := rfl
      simp only [haccount, hstatus, limitFor_of]
      by_cases hact : subscription.status = .active
      · simp only [hact, ne_eq, not_true_eq_false, if_false]
        cases hbounds : monthBounds t₁ with
        | error exn =>
          simp only [UsageService.recordUsage, hlookup, hsub, hact, ne_eq, not_true_eq_false,
            if_false, hbounds]
          exact ⟨.error exn, rfl, rfl⟩
        | ok bounds =>
          obtain ⟨start, stop⟩ := bounds
          have htotal : getTotalByType db usage.subscriptionId usage.usageType _ _ =
              (of db).count usage.subscriptionId t₁.monthNumber (.ofType usage.usageType) :=
            getTotalByType_eq_count hbounds usage.usageType
          dsimp only
          rw [← htotal]
          split_ifs with hover
          · simp only [UsageService.recordUsage, hlookup, hsub, hact, ne_eq, not_true_eq_false,
              if_false, hbounds, hplan, if_pos hover]
            exact ⟨.error _, rfl, rfl⟩
          · obtain ⟨ht, hanswer⟩ : Decision.Inserts db usage t₂ id
                (UsageService.recordUsage db usage t₁ t₂ id) := by
              refine Decision.inserts_of_admitted hmetered.counts hstorable hkey hid hbounds ?_
              obtain ⟨figures, hrollup⟩ := CostService.rollup_of_subscription
                (Option.isSome_iff_exists.mpr ⟨subscription, hsub⟩) start stop
              obtain ⟨plan', hplan', hlimit⟩ := CostService.limitOf_rollup hsub hrollup
              obtain rfl : plan = plan' := Option.some.inj (hplan.symm.trans hplan')
              refine ⟨subscription, figures, hsub, hact, hrollup, ?_⟩
              rw [hlimit, CostService.usedOf_rollup hrollup]
              exact not_lt.mp hover
            rw [hanswer, of_recorded ht hkey]
            exact ⟨.ok _, rfl, rfl⟩
      · simp only [UsageService.recordUsage_of_inactive hstorable hkey hsub hact, ne_eq,
          hact, not_false_eq_true, if_true]
        exact ⟨.error _, rfl, rfl⟩

/-- The bill of an account is what the invoice says. -/
theorem billFor_of {subscription : Subscription} (plan : Plan) (total : ℤ) (start stop : DateTime)
    (id : Uuid) (now : DateTime) (hid : subscription.id = subscriptionId) :
    (Account.of subscription plan).billFor subscriptionId total =
      BillingService.toDict
        (BillingService.newInvoice subscription plan total start stop id now) := by
  subst hid
  rfl

/-- **`calculate_bill`** answers from the counters and keeps the bill that it makes. -/
theorem calculateBill_refines (hmetered : Metered db) (hid : id ∉ db.invoices.map Invoice.id) :
    (BillingService.calculateBill db subscriptionId none none t₁ t₂ id).2 =
        ((of db).calculateBill subscriptionId t₁).2 ∧
      ((of db).calculateBill subscriptionId t₁).1 =
        of (BillingService.calculateBill db subscriptionId none none t₁ t₂ id).1 := by
  unfold Counters.calculateBill BillingService.calculateBill
  cases hsub : getById db subscriptionId with
  | none =>
    rw [account_of_none hsub]
    exact ⟨rfl, rfl⟩
  | some subscription =>
    obtain ⟨plan, hplan, haccount⟩ := account_of_getById hsub
    have hperiod : BillingService.billedPeriod none none t₁ = monthBounds t₁ := rfl
    simp only [haccount, hplan, hperiod]
    cases hbounds : monthBounds t₁ with
    | error exn => exact ⟨rfl, rfl⟩
    | ok bounds =>
      obtain ⟨start, stop⟩ := bounds
      have hfound : _ = (of db).bill subscriptionId t₁.monthNumber :=
        getBySubscriptionAndPeriod_map hmetered hbounds
      dsimp only
      rw [← hfound]
      cases hinvoice :
        InvoiceRepository.getBySubscriptionAndPeriod db subscriptionId start stop with
      | some existing => exact ⟨rfl, rfl⟩
      | none =>
        obtain ⟨hmem, hsid⟩ := getById_eq_some_iff.mp hsub
        have hmonth : start.monthNumber = t₁.monthNumber :=
          DateTime.monthNumber_eq_iff.mpr ((mem_monthBounds_iff hbounds).mp
            ⟨le_rfl, (monthBounds_mem_self hbounds).1.trans_lt (monthBounds_mem_self hbounds).2⟩)
        simp only [Option.map_none]
        rw [← getTotalUsage_eq_count hbounds, billFor_of plan _ start stop id t₂ hsid]
        rw [hinvoice, Option.map_none] at hfound
        generalize htotal : getTotalUsage db subscriptionId (some start) (some stop) = total
        set invoice := BillingService.newInvoice subscription plan total start stop id t₂
        have hconstraints : { db.toTables with invoices := db.invoices ++ [invoice] }.Constraints :=
          (constraints_insertInvoice_iff db invoice).mpr ⟨hid, List.mem_map_of_mem hmem⟩
        rcases commit_cases { db.toTables with invoices := db.invoices ++ [invoice] } with
          ⟨db', hok, ht⟩ | ⟨-, -, hno⟩ | ⟨herr, hfits⟩
        · have hfits : (BillingService.toDict invoice).Fits := by
            have hall := db'.fits
            rw [ht] at hall
            exact (fits_insertInvoice_iff db invoice).mp hall
          rw [if_pos hfits, InvoiceRepository.create, hok]
          refine ⟨rfl, (of_billed ht rfl hmonth ?_).symm⟩
          change (of db).bill subscription.id t₁.monthNumber = none
          rw [hsid]
          exact hfound.symm
        · exact absurd hconstraints hno
        · have hnofit : ¬ (BillingService.toDict invoice).Fits :=
            mt (fits_insertInvoice_iff db invoice).mpr hfits
          rw [if_neg hnofit, InvoiceRepository.create, herr]
          exact ⟨rfl, rfl⟩

/-- **The rollup** is that of the counters. -/
theorem usageRollup_eq : usageRollup db subscriptionId t₁ = (of db).rollup subscriptionId t₁ := by
  unfold usageRollup Counters.rollup
  cases hbounds : monthBounds t₁ with
  | error exn => rfl
  | ok bounds =>
    obtain ⟨start, stop⟩ := bounds
    change CostService.rollup db subscriptionId start stop = _
    unfold CostService.rollup
    cases hsub : getById db subscriptionId with
    | none => rw [account_of_none hsub]; rfl
    | some subscription =>
      obtain ⟨plan, hplan, haccount⟩ := account_of_getById hsub
      simp only [hplan, haccount, getTotalByType_eq_count hbounds, getTokenTotals_eq_count hbounds]
      rfl

end Counters

/-! ## The ledgers of reachable states -/

variable {driver : Driver} {db : Database} {s s' : Serial}

/-- Every operation keeps them as they should be. -/
theorem Metered.apply (h : Metered db) (op : Op) : Metered (op.apply driver db) := by
  rcases Op.apply_cases driver db op with
    ⟨usage, t₁, t₂, id, rfl, hrec⟩ | ⟨sid, t₁, t₂, id, invoice, rfl, hbilled⟩ | hkeep
  · constructor
    · intro e he
      rw [hrec.tables] at he
      rcases List.mem_append.mp he with he | he
      · exact h.counts e he
      · rw [List.mem_singleton.mp he]
        exact usage.quantity_nonneg
    · rw [hrec.tables]
      exact h.months
  · obtain ⟨subscription, plan, start, stop, -, -, hperiod, -, rfl⟩ := hbilled.computed
    constructor
    · intro e he
      rw [hbilled.tables] at he
      exact h.counts e he
    · intro i hi
      rw [hbilled.tables] at hi
      rcases List.mem_append.mp hi with hi | hi
      · exact h.months i hi
      · have hself := monthBounds_mem_self hperiod
        rw [List.mem_singleton.mp hi]
        exact ⟨start, stop, rfl, rfl,
          monthBounds_eq_of_mem hperiod le_rfl (hself.1.trans_lt hself.2)⟩
  · constructor
    · intro e he
      rw [hkeep.usageEvents] at he
      exact h.counts e he
    · rw [hkeep.invoices]
      exact h.months

theorem Op.answer_of_not_metering {op : Op} (hop : op.isMetering = false) :
    op.answer db = .notObserved := by
  cases op with
  | recordUsage | calculateBill => cases hop
  | _ => rfl

/-- What is not metering keeps the counters, and the accounts there are. -/
theorem Counters.of_apply (driver : Driver) (db : Database) {op : Op}
    (hop : op.isMetering = false) :
    Counters.of (op.apply driver db) =
        { Counters.of db with account := (Counters.of (op.apply driver db)).account } ∧
      ∀ sid, ((Counters.of db).account sid).isSome →
        ((Counters.of (op.apply driver db)).account sid).isSome := by
  constructor
  · rcases Op.apply_cases driver db op with
      ⟨_, _, _, _, rfl, -⟩ | ⟨_, _, _, _, _, rfl, -⟩ | hkeep
    · cases hop
    · cases hop
    · refine Counters.ext rfl ?_ ?_ ?_
      · funext key
        simp only [Counters.of, getByIdempotencyKey, hkeep.usageEvents]
      · simp only [Counters.of, hkeep.usageEvents]
      · simp only [Counters.of, hkeep.invoices]
  · intro sid hsome
    cases hsub : getById db sid with
    | none =>
      rw [Counters.account_of_none hsub] at hsome
      cases hsome
    | some subscription =>
      obtain ⟨hmem, hid⟩ := getById_eq_some_iff.mp hsub
      have hkept : sid ∈ (op.apply driver db).subscriptions.map Subscription.id :=
        Database.mem_ids_of_owners (Op.apply_owners driver db op)
          (hid ▸ List.mem_map_of_mem hmem)
      obtain ⟨row, hrow, rfl⟩ := List.mem_map.mp hkept
      obtain ⟨plan, -, haccount⟩ :=
        Counters.account_of_getById (getById_eq_some_iff.mpr ⟨hrow, rfl⟩)
      rw [haccount]
      rfl

/-! ## Requests and traces -/

/-- **One request.** -/
theorem serves_refines {request : Request} {answer : Answer} (hmetered : Metered s.db)
    (h : s.Serves driver request answer s') :
    Metered s'.db ∧ (Counters.of s.db).Serves request answer (Counters.of s'.db) := by
  obtain ⟨hfresh, hserve⟩ := h
  cases request with
  | rollup sid now =>
    obtain ⟨s₁, hnext, heq⟩ := Option.map_eq_some_iff.mp hserve
    obtain ⟨rfl, rfl⟩ := Prod.mk.inj heq
    obtain ⟨-, hdb⟩ := Serial.next_eq_some.mp hnext
    rw [hdb, Counters.usageRollup_eq]
    exact ⟨hmetered, .rollup sid now⟩
  | op op =>
    obtain ⟨s₁, hnext, heq⟩ := Option.map_eq_some_iff.mp hserve
    obtain ⟨rfl, rfl⟩ := Prod.mk.inj heq
    obtain ⟨-, hdb⟩ := Serial.next_eq_some.mp hnext
    refine ⟨hdb ▸ hmetered.apply op, ?_⟩
    rw [hdb]
    cases hop : op.isMetering with
    | false =>
      obtain ⟨hstate, hkeep⟩ := Counters.of_apply driver s.db hop
      rw [hstate, Op.answer_of_not_metering hop]
      exact .other _ hop hkeep
    | true =>
      cases op with
      | recordUsage usage t₁ t₂ id =>
        obtain ⟨r, hanswer, hr⟩ := Counters.recordUsage_refines hmetered hfresh
        have hstep := Counters.Serves.recordUsage (m := Counters.of s.db) usage t₁ t₂ id
        rw [hr] at hstep
        rw [Op.answer, hanswer]
        exact hstep
      | calculateBill sid t₁ t₂ id =>
        obtain ⟨hanswer, hstate⟩ := Counters.calculateBill_refines hmetered hfresh
        have hstep := Counters.Serves.calculateBill (m := Counters.of s.db) sid t₁ t₂ id
        rw [hstate, ← hanswer] at hstep
        exact hstep
      | _ => cases hop

/-- **The service is a refinement of the counters.** -/
theorem service_refines_counters {t₀ : DateTime} {answered : List (Request × Answer)}
    (h : Trace (Serial.Serves driver) (Serial.initial t₀) answered s) :
    Trace Counters.Serves .empty answered (Counters.of s.db) := by
  have hstep : ∀ s request answer s' (m : Counters), (Metered s.db ∧ Counters.of s.db = m) →
      Serial.Serves driver s request answer s' →
      ∃ m', m.Serves request answer m' ∧ Metered s'.db ∧ Counters.of s'.db = m' := by
    rintro s request answer s' m ⟨hmetered, rfl⟩ hserves
    obtain ⟨hmetered', hstep⟩ := serves_refines hmetered hserves
    exact ⟨_, hstep, hmetered', rfl⟩
  have hstart : Metered (Serial.initial t₀).db := by
    constructor
    · intro e he
      cases he
    · intro i hi
      cases hi
  obtain ⟨m, htrace, -, rfl⟩ :=
    h.refines (R := fun s m => Metered s.db ∧ Counters.of s.db = m) hstep ⟨hstart, rfl⟩
  exact htrace

/-! ## A small trace -/

namespace Sample

/-- The quota is used up, asked for once more under the same key and under a new one,
    then rolled up and billed; the next month starts from zero. -/
def busyMonth : List Request :=
  setUp.map .op ++
    [.op (.recordUsage (tenCalls "k") july july ⟨10⟩),
      .op (.recordUsage (tenCalls "k") july july ⟨11⟩),
      .op (.recordUsage (tenCalls "l") july july ⟨12⟩),
      .rollup ⟨3⟩ july,
      .op (.calculateBill ⟨3⟩ july july ⟨13⟩),
      .op (.recordUsage (tenCalls "l") firstOfAugust firstOfAugust ⟨14⟩)]

instance (db : Database) : DecidablePred (Serial.DrawsFresh db)
  | .op (.recordUsage _ _ _ id) => inferInstanceAs (Decidable (id ∉ _))
  | .op (.calculateBill _ _ _ id) => inferInstanceAs (Decidable (id ∉ _))
  | .op (.createTenant ..) | .op (.createPlan ..) | .op (.createSubscription ..) |
    .op (.editPlans ..) | .op (.handleWebhook ..) | .op (.runOnce ..) | .op (.advance ..) |
    .rollup .. => .isTrue trivial

def serveFresh (s : Serial) (request : Request) : Option (Serial × Answer) :=
  if Serial.DrawsFresh s.db request then s.serve .stringsOnly request else none

def answeredMonth : List (Request × Answer) × Serial :=
  (Traces.answer serveFresh (Serial.initial firstOfJuly) busyMonth).get (by decide)

end Sample

/-- The counters answer that month as the service does. -/
theorem service_refines_counters_busyMonth :
    Trace Counters.Serves .empty Sample.answeredMonth.1
      (Counters.of Sample.answeredMonth.2.db) := by
  have hserves : ∀ s request s' answer, Sample.serveFresh s request = some (s', answer) →
      Serial.Serves .stringsOnly s request answer s' := by
    intro s request s' answer h
    unfold Sample.serveFresh at h
    split_ifs at h with hfresh
    exact ⟨hfresh, h⟩
  exact service_refines_counters (Trace.of_answer_isSome hserves _)

end BillingEngine
