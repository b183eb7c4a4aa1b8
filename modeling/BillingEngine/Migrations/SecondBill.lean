import BillingEngine.Invoicing.Stability
import BillingEngine.Migrations.Head
import BillingEngine.Migrations.Upgrades

/-!
# A second bill across the period migration

`4c4dce7abd0f` adds `period_start` and `period_end` to `invoices`, nullable and without
a backfill. An invoice that is older than the columns has no period, and a comparison
with null is never true, so `get_by_subscription_and_period` does not find it: the month
it was made in is billed once more.

Results:
* `period_eq_none`: no invoice of `8b0e3e7d8039` has a period at the head.
* `another_invoice`: a call that returns leaves more invoices of the month than the
  upgrade did.
* `never_deduplicated`: for no invoice of `8b0e3e7d8039`, and at no time after the
  upgrade, does a call of its month only return it.
-/

namespace BillingEngine

open Relational Runs InvoiceRepository Sample

namespace Migrations

/-! ## Statement -/

/-- The response has the figures of a row of `invoices`. -/
def FiguresOf (r : SqlRow) (response : BillingResponse) : Prop :=
  r.value "subscription_id" = some (uuidValue response.subscriptionId) ∧
    r.value "plan_price" = some (integerValue response.planPrice) ∧
    r.value "usage_limit" = some (integerValue response.usageLimit) ∧
    r.value "total_usage" = some (integerValue response.totalUsage) ∧
    r.value "overage" = some (integerValue response.overage) ∧
    r.value "amount_due" = some (integerValue response.amountDue)

/-- The invoices of a subscription for the calendar month of `t`. One without a period
    is for the month that it was made in. -/
def invoicesFor (db : Database) (subscriptionId : Uuid) (t : DateTime) : List Invoice :=
  db.invoices.filter fun i => decide (i.subscriptionId = subscriptionId) &&
    decide ((i.periodStart.getD i.createdAt).monthNumber = t.monthNumber)

/-- A call of `calculate_bill` in `db` returns the invoice `r` and creates no other one;
    `head` is the database right after the upgrade. -/
structure Deduplicated (r : SqlRow) (head db : Database) (subscriptionId : Uuid)
    (nowBounds nowInsert : DateTime) (id : Uuid) : Prop where
  figures : ∃ response,
    (BillingService.calculateBill db subscriptionId none none nowBounds nowInsert id).2 =
      .ok response ∧ FiguresOf r response
  noFurther :
    (BillingService.calculateBill db subscriptionId none none nowBounds nowInsert id).1.invoices =
      db.invoices
  /-- the month still has as many invoices as after the upgrade -/
  oneForMonth : (invoicesFor
      (BillingService.calculateBill db subscriptionId none none nowBounds nowInsert id).1
      subscriptionId nowBounds).length = (invoicesFor head subscriptionId nowBounds).length

/-! ## What the upgrade leaves -/

section Upgrade

variable {d : SqlDb} {head : Database}

/-- The scripts after `8b0e3e7d8039` keep the rows of `invoices`. -/
theorem upgradesToHead_keeps_invoices : ∀ st ∈ upgradesToHead .addInvoices,
    st.dropped ≠ some "invoices" ∧ "invoices" ∉ st.created.map Table.name := by
  decide

/-- They write to no column of `invoices`, and the new ones of the period stay null. -/
theorem upgradesToHead_spares_invoices : ∀ name ∈ Head.invoices.columns.map Column.name,
    ∀ st ∈ upgradesToHead .addInvoices, ¬ st.Touches "invoices" name := by
  decide

/-- The invoices at the head, one for each of `8b0e3e7d8039`, with the same values. -/
theorem invoices_head (hrun : run (upgradesToHead .addInvoices) d = .ok head.toTables.toSql) :
    head.invoices.map Invoice.toRow =
      (d.contents "invoices").map (rowAfter "invoices" (upgradesToHead .addInvoices)) :=
  contents_of_run hrun upgradesToHead_keeps_invoices

theorem value_legacyInvoice {name : String} (hname : name ∈ Head.invoices.columns.map Column.name)
    (r : SqlRow) :
    (rowAfter "invoices" (upgradesToHead .addInvoices) r).value name = r.value name :=
  value_rowAfter (upgradesToHead_spares_invoices name hname) r

/-- **No invoice has a period** after the upgrade. -/
theorem period_eq_none (h : AtRevision (some .addInvoices) d)
    (hrun : run (upgradesToHead .addInvoices) d = .ok head.toTables.toSql) {i : Invoice}
    (hi : i ∈ head.invoices) : i.periodStart = none ∧ i.periodEnd = none := by
  have hmem : AddInvoices.invoices ∈ d.schema.tables := by rw [h.schema]; decide
  have hrow : i.toRow ∈ head.invoices.map Invoice.toRow := List.mem_map_of_mem hi
  rw [invoices_head hrun] at hrow
  obtain ⟨r, hr, hrow⟩ := List.mem_map.mp hrow
  have hnull {name : String} (hname : name ∈ Head.invoices.columns.map Column.name)
      (hnew : name ∉ AddInvoices.invoices.columns.map Column.name) : i.toRow.value name = none := by
    rw [← hrow, value_legacyInvoice hname]
    exact (h.valid.rows _ hmem r hr).value_eq_none hnew
  have hstart : i.toRow.value "period_start" = none := hnull (by decide) (by decide)
  have hstop : i.toRow.value "period_end" = none := hnull (by decide) (by decide)
  exact ⟨Option.map_eq_none_iff.mp hstart, Option.map_eq_none_iff.mp hstop⟩

/-- Every other value of an invoice is kept. -/
theorem exists_legacyInvoice
    (hrun : run (upgradesToHead .addInvoices) d = .ok head.toTables.toSql) {r : SqlRow}
    (hr : r ∈ d.contents "invoices") : ∃ i ∈ head.invoices, FiguresOf r (BillingService.toDict i) ∧
      r.value "created_at" = some (dateTimeValue i.createdAt) := by
  have hrow := List.mem_map_of_mem (f := rowAfter "invoices" (upgradesToHead .addInvoices)) hr
  rw [← invoices_head hrun] at hrow
  obtain ⟨i, hi, hrow⟩ := List.mem_map.mp hrow
  have hvalue {name : String} (hname : name ∈ Head.invoices.columns.map Column.name) :
      r.value name = i.toRow.value name := by
    rw [hrow, value_legacyInvoice hname]
  exact ⟨i, hi, ⟨hvalue (by decide), hvalue (by decide), hvalue (by decide), hvalue (by decide),
    hvalue (by decide), hvalue (by decide)⟩, hvalue (by decide)⟩

end Upgrade

/-! ## Invoices of a month -/

section Month

variable {db db' head : Database} {subscriptionId id : Uuid} {nowBounds nowInsert : DateTime}
  {invoice : Invoice}

theorem mem_invoicesFor_iff {t : DateTime} : invoice ∈ invoicesFor db subscriptionId t ↔
    invoice ∈ db.invoices ∧ invoice.subscriptionId = subscriptionId ∧
      (invoice.periodStart.getD invoice.createdAt).monthNumber = t.monthNumber := by
  simp [invoicesFor]

/-- The invoice that a call of the month finds is one of the month. -/
theorem mem_invoicesFor_of_found {t start stop : DateTime}
    (hbounds : monthBounds t = .ok (start, stop))
    (hfound : getBySubscriptionAndPeriod db subscriptionId start stop = some invoice) :
    invoice ∈ invoicesFor db subscriptionId t := by
  obtain ⟨hsub, hstart, -⟩ := isForPeriod_iff.mp (List.find?_some hfound)
  have hself := monthBounds_mem_self hbounds
  have hmonth : start.monthNumber = t.monthNumber := DateTime.monthNumber_eq_iff.mpr
    ((mem_monthBounds_iff hbounds).mp ⟨le_rfl, lt_of_le_of_lt hself.1 hself.2⟩)
  refine mem_invoicesFor_iff.mpr ⟨List.mem_of_find?_eq_some hfound, hsub, ?_⟩
  rw [hstart, Option.getD_some, hmonth]

/-- A new invoice of the month is one more. -/
theorem length_invoicesFor_lt {t : DateTime} (hgrow : db.invoices <+: db'.invoices)
    (hmem : invoice ∈ invoicesFor db' subscriptionId t) (hnew : invoice ∉ db.invoices) :
    (invoicesFor db subscriptionId t).length < (invoicesFor db' subscriptionId t).length := by
  have hprefix : invoicesFor db subscriptionId t <+: invoicesFor db' subscriptionId t :=
    hgrow.filter _
  refine lt_of_le_of_ne hprefix.length_le fun hlength => ?_
  rw [← hprefix.eq_of_length hlength] at hmem
  exact hnew (mem_invoicesFor_iff.mp hmem).1

/-- **A call that returns leaves another invoice of the month**, since it does not find
    those without a period. -/
theorem another_invoice (hnone : ∀ i ∈ head.invoices, i.periodStart = none)
    (hgrow : head.invoices <+: db.invoices) {response : BillingResponse}
    (h : (BillingService.calculateBill db subscriptionId none none nowBounds nowInsert id).2 =
      .ok response) :
    (invoicesFor head subscriptionId nowBounds).length <
      (invoicesFor (BillingService.calculateBill db subscriptionId none none nowBounds nowInsert
        id).1 subscriptionId nowBounds).length := by
  obtain ⟨-, start, stop, invoice, hbounds, hfound, -⟩ := Stability.stored_of_returned h
  have hcall := (Op.apply_grows .stringsOnly db (.calculateBill subscriptionId nowBounds nowInsert
    id)).2
  refine length_invoicesFor_lt (hgrow.trans hcall) (mem_invoicesFor_of_found hbounds hfound)
    fun hold => ?_
  have hstart := (isForPeriod_iff.mp (List.find?_some hfound)).2.1
  rw [hnone invoice hold] at hstart
  cases hstart

end Month

/-- **No invoice is deduplicated across the migration.** It is one of its month after
    the upgrade; and whatever has happened since, a call of that month fails, or leaves
    more invoices of the month than the upgrade did. -/
theorem never_deduplicated {d : SqlDb} (h : AtRevision (some .addInvoices) d) :
    ∃ head : Database, run (upgradesToHead .addInvoices) d = .ok head.toTables.toSql ∧
      ∀ r ∈ d.contents "invoices", ∃ subscriptionId createdAt,
        r.value "subscription_id" = some (uuidValue subscriptionId) ∧
        r.value "created_at" = some (dateTimeValue createdAt) ∧
        ∀ driver clock s nowBounds nowInsert id, Run (Serial.next driver) Always ⟨head, clock⟩ s →
          nowBounds.monthNumber = createdAt.monthNumber →
            (∃ invoice ∈ invoicesFor head subscriptionId nowBounds,
              FiguresOf r (BillingService.toDict invoice)) ∧
            ¬ Deduplicated r head s.db subscriptionId nowBounds nowInsert id := by
  obtain ⟨d', hrun, hhead⟩ := reachesHead .addInvoices d h
  obtain ⟨head, rfl⟩ := exists_database hhead
  have hnone : ∀ i ∈ head.invoices, i.periodStart = none := fun i hi =>
    (period_eq_none h hrun hi).1
  refine ⟨head, hrun, fun r hr => ?_⟩
  obtain ⟨invoice, hmem, hfigures, hcreated⟩ := exists_legacyInvoice hrun hr
  refine ⟨invoice.subscriptionId, invoice.createdAt, hfigures.1, hcreated, ?_⟩
  intro driver clock s nowBounds nowInsert id hreached hmonth
  constructor
  · refine ⟨invoice, mem_invoicesFor_iff.mpr ⟨hmem, rfl, ?_⟩, hfigures⟩
    rw [hnone invoice hmem, Option.getD_none, hmonth]
  · intro hdedup
    obtain ⟨response, hreturned, -⟩ := hdedup.figures
    have hmore := another_invoice hnone (Serial.run_grows hreached).2 hreturned
    exact absurd hdedup.oneForMonth (ne_of_gt hmore)

/-! ## An invoice of July -/

/-- Billed on the first of July, before anything is used: 105 calls of a limit of 100
    follow. -/
def julyInvoice : SqlRow :=
  [("id", some (uuidValue ⟨4⟩)), ("subscription_id", some (uuidValue ⟨3⟩)),
    ("plan_price", some (integerValue 1000)), ("usage_limit", some (integerValue 100)),
    ("total_usage", some (integerValue 0)), ("overage", some (integerValue 0)),
    ("amount_due", some (integerValue 1000)), ("created_at", some (dateTimeValue firstOfJuly))]

def billedInJuly : SqlDb where
  schema := schemaAt (some .addInvoices)
  contents
    | "plans" => [[("id", some (uuidValue ⟨1⟩)), ("name", some (stringValue "Basic")),
        ("price", some (integerValue 1000)), ("usage_limit", some (integerValue 100)),
        ("is_active", some (booleanValue true))]]
    | "tenants" => [[("id", some (uuidValue ⟨2⟩)), ("name", some (stringValue "Acme")),
        ("email", some (stringValue "billing@acme.test")), ("is_active", some (booleanValue true))]]
    | "subscriptions" => [[("id", some (uuidValue ⟨3⟩)), ("tenant_id", some (uuidValue ⟨2⟩)),
        ("plan_id", some (uuidValue ⟨1⟩)), ("status", some (.label "ACTIVE")),
        ("started_at", some (dateTimeValue firstOfJuly))]]
    | "usage_events" => [[("id", some (uuidValue ⟨5⟩)), ("subscription_id", some (uuidValue ⟨3⟩)),
        ("quantity", some (integerValue 105)), ("created_at", some (dateTimeValue july)),
        ("idempotency_key", some (stringValue "july"))]]
    | "invoices" => [julyInvoice]
    | _ => []

theorem atRevision_billedInJuly : AtRevision (some .addInvoices) billedInJuly := by
  have hclosed : billedInJuly.Closed := by
    intro table htable
    simp only [billedInJuly] at htable ⊢
    split <;> first | rfl | exact absurd htable (by decide)
  exact ⟨rfl, by decide, hclosed⟩

/-- What the upgrade makes of it. -/
def upgradedInJuly : Database where
  tenants := [⟨⟨2⟩, "Acme", "billing@acme.test", true⟩]
  plans := [⟨⟨1⟩, "Basic", 1000, 100, 100, 0, none, none, true⟩]
  subscriptions := [⟨⟨3⟩, ⟨2⟩, ⟨1⟩, .active, none, none, firstOfJuly⟩]
  usageEvents := [⟨⟨5⟩, ⟨3⟩, .apiCall, 105, 0, 0, 0, 0, "july", july⟩]
  invoices := [⟨⟨4⟩, ⟨3⟩, 1000, 100, 0, 0, 1000, firstOfJuly, none, none⟩]
  webhookEvents := []
  fits := by decide
  constraints := by decide

theorem run_billedInJuly :
    run (upgradesToHead .addInvoices) billedInJuly = .ok upgradedInJuly.toTables.toSql := by
  obtain ⟨d', hrun, hhead⟩ := reachesHead .addInvoices billedInJuly atRevision_billedInJuly
  have hcontents : d'.contents = upgradedInJuly.toTables.contents := by
    rw [(run_eq_ok hrun).2.1]
    funext table
    unfold Tables.contents
    -- the six tables are evaluated, and no other one has rows
    split <;> first | rfl | exact contentsAfter_of_nil (by simp_all [billedInJuly])
  rw [hrun]
  cases d'
  cases hhead.schema
  cases hcontents
  rfl

/-- **The customer is billed twice for July**, 1000 and then 1050 cents. -/
theorem july_billed_twice : AtRevision (some .addInvoices) billedInJuly ∧
    julyInvoice ∈ billedInJuly.contents "invoices" ∧
    run (upgradesToHead .addInvoices) billedInJuly = .ok upgradedInJuly.toTables.toSql ∧
    july.monthNumber = firstOfJuly.monthNumber ∧
    ¬ Deduplicated julyInvoice upgradedInJuly upgradedInJuly ⟨3⟩ july july ⟨6⟩ ∧
    (invoicesFor (BillingService.calculateBill upgradedInJuly ⟨3⟩ none none july july ⟨6⟩).1 ⟨3⟩
      july).map Invoice.amountDue = [1000, 1050] := by
  have hlength : (BillingService.calculateBill upgradedInJuly ⟨3⟩ none none july july
      ⟨6⟩).1.invoices ≠ upgradedInJuly.invoices := by
    decide
  exact ⟨atRevision_billedInJuly, List.mem_singleton_self _, run_billedInJuly, rfl,
    fun hdedup => hlength hdedup.noFurther, by decide⟩

theorem never_deduplicated_july : ∃ head : Database,
    run (upgradesToHead .addInvoices) billedInJuly = .ok head.toTables.toSql ∧
      ¬ Deduplicated julyInvoice head head ⟨3⟩ july july ⟨6⟩ := by
  obtain ⟨head, hrun, hnever⟩ := never_deduplicated atRevision_billedInJuly
  obtain ⟨subscriptionId, createdAt, hsub, hcreated, hcall⟩ :=
    hnever julyInvoice (List.mem_singleton_self _)
  cases hsub
  cases hcreated
  exact ⟨head, hrun, (hcall .stringsOnly july ⟨head, july⟩ july july ⟨6⟩ .refl rfl).2⟩

end Migrations

end BillingEngine
