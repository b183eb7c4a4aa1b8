import BillingEngine.System.Serial

/-!
# An invoice is a snapshot

`calculate_bill` stores the total of the period at the moment when it is first
asked for, and every later request for the same period returns the stored row;
metering goes on meanwhile. So an invoice accounts for the events that were
recorded before it was inserted, and for no others.

Results:
* `invoice_snapshot`: every stored invoice has the total of the events of its
  period that were recorded when it was inserted, with the documented overage
  and amount; the events recorded afterwards are what it misses.
* `billed_early`: an invoice of a month that is over misses an event.
-/

namespace BillingEngine

open Runs Ledger UsageRepository

namespace Snapshot

/-- The figures of an invoice follow from the total usage. -/
structure Priced (invoice : Invoice) : Prop where
  overage : invoice.overage = max (invoice.totalUsage - invoice.usageLimit) 0
  amountDue : invoice.amountDue =
    invoice.planPrice + invoice.overage * BillingService.overagePrice

variable {driver : Driver} {t₀ : DateTime} {s : Serial} {invoice : Invoice}

/-- **Every invoice is a snapshot.** `s₁` is the state in which the bill was
    first asked for. -/
theorem invoice_snapshot (hrun : Run (Serial.next driver) Always (Serial.initial t₀) s)
    (hmem : invoice ∈ s.db.invoices) :
    ∃ s₁ op s₂ start stop later,
      Run (Serial.next driver) Always (Serial.initial t₀) s₁ ∧
      Serial.next driver s₁ op = some s₂ ∧ Run (Serial.next driver) Always s₂ s ∧
      invoice ∉ s₁.db.invoices ∧ invoice ∈ s₂.db.invoices ∧
      invoice.periodStart = some start ∧ invoice.periodEnd = some stop ∧
      invoice.totalUsage =
        getTotalUsage s₁.db invoice.subscriptionId (some start) (some stop) ∧
      Priced invoice ∧
      s.db.usageEvents = s₁.db.usageEvents ++ later ∧
      getTotalUsage s.db invoice.subscriptionId (some start) (some stop) = invoice.totalUsage +
        sumWhere (countsTowards invoice.subscriptionId (some start) (some stop))
          UsageEvent.quantity later := by
  obtain ⟨s₁, s₂, subscriptionId, t₁, t₂, id, hbefore, -, hnext, hafter, hnew, hbilled⟩ :=
    Serial.exists_billed hrun (by simp [Serial.initial, Database.empty]) hmem
  have htables := hbilled.tables
  obtain ⟨later, hlater⟩ := (Serial.run_grows hafter).1
  have hevents : s.db.usageEvents = s₁.db.usageEvents ++ later := by
    rw [← hlater, htables]
  obtain ⟨subscription, plan, start, stop, hsub, -, -, -, rfl⟩ := hbilled.computed
  have hsid : subscription.id = subscriptionId :=
    (SubscriptionRepository.getById_eq_some_iff.mp hsub).2
  subst hsid
  refine ⟨s₁, _, s₂, start, stop, later, hbefore, hnext, hafter, hnew, ?_, rfl, rfl, rfl,
    ⟨rfl, rfl⟩, hevents, ?_⟩
  · rw [htables]; simp
  · rw [getTotalUsage, hevents, sumWhere_append]; rfl

/-- The bill of July is asked for, then ten calls are recorded, then July ends. -/
def earlyBill : List Op :=
  Sample.setUp ++
    [.calculateBill ⟨3⟩ Sample.july Sample.july ⟨10⟩,
      .recordUsage (Sample.tenCalls "k") Sample.july Sample.july ⟨11⟩,
      .advance Sample.firstOfAugust]

def afterJuly : Serial :=
  (exec (Serial.next .stringsOnly) (Serial.initial Sample.firstOfJuly) earlyBill).get (by decide)

theorem run_afterJuly :
    Run (Serial.next .stringsOnly) Always (Serial.initial Sample.firstOfJuly) afterJuly :=
  Run.of_exec_isSome _

/-- The invoice that the first request stored. -/
def invoiceOfJuly : Invoice where
  id := ⟨10⟩
  subscriptionId := ⟨3⟩
  planPrice := 4900
  usageLimit := 10
  totalUsage := 0
  overage := 0
  amountDue := 4900
  createdAt := Sample.july
  periodStart := some Sample.firstOfJuly
  periodEnd := some Sample.firstOfAugust

theorem invoice_snapshot_early : ∃ s₁ start stop later,
    invoiceOfJuly.totalUsage = getTotalUsage s₁ ⟨3⟩ (some start) (some stop) ∧
    afterJuly.db.usageEvents = s₁.usageEvents ++ later := by
  obtain ⟨s₁, -, -, start, stop, later, -, -, -, -, -, -, -, htotal, -, hevents, -⟩ :=
    invoice_snapshot run_afterJuly (show invoiceOfJuly ∈ afterJuly.db.invoices by decide)
  exact ⟨s₁.db, start, stop, later, htotal, hevents⟩

/-- July is over, and its invoice does not have the ten calls. -/
theorem billed_early : ∃ s invoice start stop,
    Run (Serial.next .stringsOnly) Always (Serial.initial Sample.firstOfJuly) s ∧
    invoice ∈ s.db.invoices ∧ invoice.periodStart = some start ∧ invoice.periodEnd = some stop ∧
    stop ≤ s.clock ∧
    invoice.totalUsage ≠ getTotalUsage s.db invoice.subscriptionId (some start) (some stop) :=
  ⟨afterJuly, invoiceOfJuly, Sample.firstOfJuly, Sample.firstOfAugust, run_afterJuly, by decide,
    rfl, rfl, by decide, by decide⟩

end Snapshot

end BillingEngine
