import BillingEngine.System.SubscriptionRows

/-!
# The bill of a month does not change

`calculate_bill` computes the total usage on every call, but when the period has
an invoice that invoice is the answer. The period is that of `month_bounds`, the
same for every instant of the month, and invoices are only appended, so the bill
of a month is settled by the first call of the month: usage, plan and status do
not matter to it afterwards.

Results:
* `stored_of_returned`: what a call returns is a stored invoice of the month.
* `bill_stable`: whatever happens after a call of a month, the next one returns
  the same fields and stores nothing.
-/

namespace BillingEngine

open Runs InvoiceRepository

namespace Stability

/-- The invoice of the calendar month of `t`: its period is the interval that has
    the instants of that month and no others. -/
structure ForMonth (subscriptionId : Uuid) (t : DateTime) (invoice : Invoice) : Prop where
  subscriptionId : invoice.subscriptionId = subscriptionId
  period : ∃ start stop, monthBounds t = .ok (start, stop) ∧
    invoice.periodStart = some start ∧ invoice.periodEnd = some stop ∧
    ∀ t', (start ≤ t' ∧ t' < stop) ↔ (t'.year = t.year ∧ t'.month = t.month)

variable {driver : Driver} {db : Database} {sid id : Uuid} {t t₁ t₂ : DateTime}
  {r : BillingResponse}

theorem forMonth_of_found {start stop : DateTime} {invoice : Invoice}
    (hbounds : monthBounds t = .ok (start, stop))
    (hfound : getBySubscriptionAndPeriod db sid start stop = some invoice) :
    ForMonth sid t invoice := by
  obtain ⟨hsid, hstart, hstop⟩ := isForPeriod_iff.mp (List.find?_some hfound)
  exact ⟨hsid, start, stop, hbounds, hstart, hstop, fun _ => mem_monthBounds_iff hbounds⟩

/-- A call that returns leaves an invoice of the month behind, and its
    subscription. -/
theorem stored_of_returned
    (h : (BillingService.calculateBill db sid none none t₁ t₂ id).2 = .ok r) :
    let db' := (BillingService.calculateBill db sid none none t₁ t₂ id).1
    sid ∈ db'.subscriptions.map Subscription.id ∧
    ∃ start stop invoice, monthBounds t₁ = .ok (start, stop) ∧
      getBySubscriptionAndPeriod db' sid start stop = some invoice ∧
      r = BillingService.toDict invoice := by
  rcases BillingService.calculateBill_cases db sid none none t₁ t₂ id with
    ⟨exn, heq⟩ | ⟨start, stop, existing, hsub, hbounds, hfound, heq⟩ | ⟨db', invoice, hbilled, heq⟩
    <;> rw [heq] at h ⊢ <;> cases h
  · exact ⟨hsub, start, stop, existing, hbounds, hfound, rfl⟩
  · obtain ⟨subscription, plan, start, stop, hsub, -, hbounds, hnone, rfl⟩ := hbilled.computed
    obtain ⟨hmem, hid⟩ := SubscriptionRepository.getById_eq_some_iff.mp hsub
    refine ⟨?_, start, stop, _, hbounds, ?_, rfl⟩
    · rw [hbilled.tables, ← hid]
      exact List.mem_map_of_mem hmem
    · -- the period had no invoice, so the new one is the first of the period
      rw [getBySubscriptionAndPeriod, hbilled.tables, List.find?_append,
        ← getBySubscriptionAndPeriod, hnone, Option.none_or]
      exact List.find?_cons_of_pos (isForPeriod_iff.mpr ⟨hid, rfl, rfl⟩)

/-- **The bill of a month is settled by the first call.** No operation changes or
    removes an invoice; a call that returns, returns a stored invoice of exactly
    the month; and whatever happens after it, every later call of that month
    returns the same and changes nothing. -/
theorem bill_stable {s u v : Serial}
    (hcall : Serial.next driver s (.calculateBill sid t₁ t₂ id) = some u)
    (hreturned : (BillingService.calculateBill s.db sid none none t₁ t₂ id).2 = .ok r)
    (hrun : Run (Serial.next driver) Always u v) :
    (∀ (w w' : Serial) (op : Op), Serial.next driver w op = some w' →
      w.db.invoices <+: w'.db.invoices) ∧
    (∃ invoice ∈ u.db.invoices, ForMonth sid t₁ invoice ∧ r = BillingService.toDict invoice) ∧
    ∀ t₃ t₄ id', t₃.year = t₁.year → t₃.month = t₁.month →
      BillingService.calculateBill v.db sid none none t₃ t₄ id' = (v.db, .ok r) := by
  obtain ⟨hsub, start, stop, invoice, hbounds, hfound, rfl⟩ := stored_of_returned hreturned
  have hdb : u.db = (BillingService.calculateBill s.db sid none none t₁ t₂ id).1 :=
    (Serial.next_eq_some.mp hcall).2
  rw [← hdb] at hsub hfound
  refine ⟨fun w w' op hnext => ?_, ⟨invoice, List.mem_of_find?_eq_some hfound,
    forMonth_of_found hbounds hfound, rfl⟩, fun t₃ t₄ id' hyear hmonth => ?_⟩
  · rw [(Serial.next_eq_some.mp hnext).2]
    exact (Op.apply_grows driver w.db op).2
  · have hbounds' : monthBounds t₃ = .ok (start, stop) := by
      rw [monthBounds_congr hyear hmonth, hbounds]
    exact BillingService.calculateBill_of_stored t₄ id'
      (Database.mem_ids_of_owners (Serial.run_owners hrun) hsub) hbounds'
      (getBySubscriptionAndPeriod_mono (Serial.run_grows hrun).2 hfound)

/-- The first bill of July, before anything is used. -/
def firstBill : Op := .calculateBill ⟨3⟩ Sample.firstOfJuly Sample.firstOfJuly ⟨10⟩

def settled : Serial := (Serial.next .stringsOnly Sample.ready firstBill).get (by decide)

/-- The quota is used up, the price is doubled, and a plan is added. -/
def repriced : Serial :=
  (exec (Serial.next .stringsOnly) settled
    [.recordUsage (Sample.tenCalls "k") Sample.july Sample.july ⟨11⟩,
      .editPlans fun plan => { plan with price := 9800, usageLimit := 5 },
      .createPlan { name := "Basic", price := 1900, usageLimit := 5 } ⟨12⟩]).get (by decide)

theorem bill_stable_repriced :
    BillingService.calculateBill repriced.db ⟨3⟩ none none Sample.july Sample.firstOfAugust ⟨13⟩ =
      (repriced.db, .ok { subscriptionId := ⟨3⟩, planPrice := 4900, usageLimit := 10,
                          totalUsage := 0, overage := 0, amountDue := 4900 }) :=
  (bill_stable (Option.some_get _).symm (by decide) (Run.of_exec_isSome _)).2.2 _ _ _ rfl rfl

end Stability

end BillingEngine
