import BillingEngine.Migrations.Head
import BillingEngine.Migrations.Upgrades
import BillingEngine.Model.Repositories

/-!
# Legacy databases

A database at the first revision has no idempotency keys, no usage types, no tokens and
one limit per plan. Upgraded to the head it keeps every value that it had, and its usage
is metered as API calls.

Results:
* `totalUsage_eq`: `get_total_usage` on the rows of `usage_events`.
* `legacy_keeps_metering`: the upgrades succeed, and what they preserve.
-/

namespace BillingEngine

open Relational Ledger UsageRepository Sample

namespace Migrations

/-! ## The query on rows -/

def readInteger : Option (Value SqlValue) → Option ℤ
  | some (.scalar (.integer n)) => some n
  | _ => none

def readDateTime : Option (Value SqlValue) → Option DateTime
  | some (.scalar (.dateTime t)) => some t
  | _ => none

/-- The `WHERE` of `get_total_usage`. -/
def rowCountsTowards (subscriptionId : Uuid) (periodStart periodEnd : Option DateTime)
    (r : SqlRow) : Bool :=
  decide (r.value "subscription_id" = some (uuidValue subscriptionId)) &&
    inPeriodNullable periodStart periodEnd (readDateTime (r.value "created_at"))

/-- `get_total_usage`, which is the same query at every revision. -/
def totalUsage (contents : Contents SqlValue) (subscriptionId : Uuid)
    (periodStart periodEnd : Option DateTime) : ℤ :=
  sumWhere (rowCountsTowards subscriptionId periodStart periodEnd)
    (fun r => (readInteger (r.value "quantity")).getD 0) (contents "usage_events")

theorem totalUsage_eq (db : Database) (subscriptionId : Uuid) (start stop : Option DateTime) :
    totalUsage db.toTables.contents subscriptionId start stop =
      getTotalUsage db subscriptionId start stop := by
  have hwhere : ∀ e : UsageEvent, rowCountsTowards subscriptionId start stop e.toRow =
      countsTowards subscriptionId start stop e := by
    intro e
    have hsub : e.toRow.value "subscription_id" = some (uuidValue e.subscriptionId) := rfl
    have htime : readDateTime (e.toRow.value "created_at") = some e.createdAt := rfl
    have hkey : some (uuidValue e.subscriptionId) = some (uuidValue subscriptionId) ↔
        e.subscriptionId = subscriptionId := by
      rw [Option.some_inj, uuidValue_injective.eq_iff]
    rw [rowCountsTowards, countsTowards, hsub, htime, inPeriodNullable_some,
      decide_eq_decide.mpr hkey]
  have hquantity : ∀ e : UsageEvent,
      (readInteger (e.toRow.value "quantity")).getD 0 = e.quantity := fun _ => rfl
  have hrows : db.toTables.contents "usage_events" = db.usageEvents.map UsageEvent.toRow := rfl
  rw [totalUsage, getTotalUsage, hrows, sumWhere_map]
  simp only [hwhere, hquantity]

/-- A script that leaves the table and the columns of the query alone. -/
theorem totalUsage_contentsAfter {script : List Op} (htable : ∀ st ∈ script,
      st.dropped ≠ some "usage_events" ∧ "usage_events" ∉ st.created.map Table.name)
    (hcolumns : ∀ name ∈ ["subscription_id", "quantity", "created_at"], ∀ st ∈ script,
      ¬ st.Touches "usage_events" name)
    (contents : Contents SqlValue) (subscriptionId : Uuid) (start stop : Option DateTime) :
    totalUsage (contentsAfter script contents) subscriptionId start stop =
      totalUsage contents subscriptionId start stop := by
  have hsub := value_rowAfter (hcolumns "subscription_id" (by simp))
  have hquantity := value_rowAfter (hcolumns "quantity" (by simp))
  have htime := value_rowAfter (hcolumns "created_at" (by simp))
  have hwhere (r : SqlRow) :
      rowCountsTowards subscriptionId start stop (rowAfter "usage_events" script r) =
        rowCountsTowards subscriptionId start stop r := by
    simp only [rowCountsTowards, hsub, htime]
  rw [totalUsage, contentsAfter_eq_map htable, sumWhere_map, totalUsage]
  simp only [hwhere, hquantity]

/-! ## The backfilled rows -/

/-- The whole chain after the first revision. -/
def legacyUpgrade : List Op := upgradesToHead .createInitialSchema

section Backfill

variable {types : List EnumType} {r : SqlRow}

/-- A usage event after the backfills. -/
theorem rowAfter_usageEvent (id : Uuid) (v₂ v₃ v₄ : Option (Value SqlValue)) :
    rowAfter "usage_events" legacyUpgrade
        [("id", some (uuidValue id)), ("subscription_id", v₂), ("quantity", v₃),
          ("created_at", v₄)] =
      [("id", some (uuidValue id)), ("subscription_id", v₂), ("quantity", v₃), ("created_at", v₄),
        ("idempotency_key", some (stringValue ("legacy-" ++ id.str))),
        ("usage_type", some (.label "API_CALL")),
        ("cached_input_tokens", some (integerValue 0)), ("input_tokens", some (integerValue 0)),
        ("output_tokens", some (integerValue 0)), ("reasoning_tokens", some (integerValue 0))] :=
  rfl

/-- The limit of a plan becomes its limit of API calls. -/
theorem value_apiCallLimit (h : RowOk types CreateInitialSchema.plans.columns r) :
    (rowAfter "plans" legacyUpgrade r).value "api_call_limit" = r.value "usage_limit" := by
  rw [h.eq_cells (by decide)]
  rfl

end Backfill

/-- The script drops no table of the first revision, and touches none of its columns. -/
theorem legacyUpgrade_spares : ∀ t ∈ (schemaAt (some .createInitialSchema)).tables,
    (∀ st ∈ legacyUpgrade, st.dropped ≠ some t.name ∧ t.name ∉ st.created.map Table.name) ∧
    ∀ c ∈ t.columns, ∀ st ∈ legacyUpgrade, ¬ st.Touches t.name c.name := by
  decide

section Head

open CreateInitialSchema

variable {d : SqlDb} {head : Database}

/-- The rows at the head are those of the legacy database, backfilled. -/
theorem contents_head (hrun : run legacyUpgrade d = .ok head.toTables.toSql)
    {t : Table SqlType} (ht : t ∈ (schemaAt (some .createInitialSchema)).tables) :
    head.toTables.contents t.name = (d.contents t.name).map (rowAfter t.name legacyUpgrade) :=
  contents_of_run hrun (legacyUpgrade_spares t ht).1

/-- Every event at the head is an API call without tokens, under its legacy key. -/
theorem legacy_usageEvent (h : AtRevision (some .createInitialSchema) d)
    (hrun : run legacyUpgrade d = .ok head.toTables.toSql) {e : UsageEvent}
    (he : e ∈ head.usageEvents) : e.idempotencyKey = "legacy-" ++ e.id.str ∧
      e.usageType = .apiCall ∧ e.cachedInputTokens = 0 ∧ e.inputTokens = 0 ∧ e.outputTokens = 0 ∧
      e.reasoningTokens = 0 := by
  have hmem : usageEvents ∈ (schemaAt (some .createInitialSchema)).tables := by decide
  have hrow : e.toRow ∈ head.toTables.contents "usage_events" := List.mem_map_of_mem he
  rw [show "usage_events" = usageEvents.name from rfl, contents_head hrun hmem] at hrow
  obtain ⟨r, hr, hrow⟩ := List.mem_map.mp hrow
  obtain ⟨id, v₂, v₃, v₄, rfl⟩ := usageEvents_cells (h.valid.rows _ (h.schema ▸ hmem) r hr)
  change rowAfter "usage_events" legacyUpgrade _ = _ at hrow
  rw [rowAfter_usageEvent] at hrow
  simp only [UsageEvent.toRow, uuidValue, stringValue, integerValue, List.cons.injEq,
    Prod.mk.injEq, Option.some.injEq, Value.scalar.injEq, Value.label.injEq, SqlValue.uuid.injEq,
    SqlValue.string.injEq, SqlValue.integer.injEq, true_and, and_true] at hrow
  obtain ⟨rfl, -, -, -, hkey, htype, hcached, hinput, houtput, hreasoning⟩ := hrow
  have hapiCall : e.usageType = .apiCall := by
    cases hu : e.usageType with
    | apiCall => rfl
    | tokens => rw [hu] at htype; exact absurd htype (by decide)
  exact ⟨hkey.symm, hapiCall, hcached.symm, hinput.symm, houtput.symm, hreasoning.symm⟩

/-- What the upgrade of a legacy database preserves. -/
structure KeepsMetering (d : SqlDb) (head : Database) : Prop where
  /-- no value of the first revision changes -/
  values : ∀ t ∈ (schemaAt (some .createInitialSchema)).tables, ∀ c ∈ t.columns,
    columnValues head.toTables.contents t.name c.name = columnValues d.contents t.name c.name
  keys : ∀ e ∈ head.usageEvents, e.idempotencyKey = "legacy-" ++ e.id.str
  distinct : (head.usageEvents.map UsageEvent.idempotencyKey).Nodup
  total : ∀ subscriptionId start stop, getTotalUsage head subscriptionId start stop =
    totalUsage d.contents subscriptionId start stop
  apiCalls : ∀ subscriptionId start stop, getTotalByType head subscriptionId .apiCall start stop =
    totalUsage d.contents subscriptionId start stop
  tokens : ∀ subscriptionId start stop, getTotalByType head subscriptionId .tokens start stop = 0
  tokenTotals : ∀ subscriptionId start stop,
    getTokenTotals head subscriptionId start stop = (0, 0, 0, 0)
  /-- the limit of API calls of each plan is its old limit -/
  limits : (head.plans.map fun p => (some (uuidValue p.id), some (integerValue p.apiCallLimit))) =
    (d.contents "plans").map fun r => (r.value "id", r.value "usage_limit")

theorem legacy_limits (h : AtRevision (some .createInitialSchema) d)
    (hrun : run legacyUpgrade d = .ok head.toTables.toSql) :
    (head.plans.map fun p => (some (uuidValue p.id), some (integerValue p.apiCallLimit))) =
      (d.contents "plans").map fun r => (r.value "id", r.value "usage_limit") := by
  have hmem : plans ∈ (schemaAt (some .createInitialSchema)).tables := by decide
  have hrows : head.plans.map Plan.toRow =
      (d.contents "plans").map (rowAfter "plans" legacyUpgrade) := contents_head hrun hmem
  have hpairs := congrArg
    (List.map fun r : SqlRow => (r.value "id", r.value "api_call_limit")) hrows
  rw [List.map_map, List.map_map] at hpairs
  refine hpairs.trans (List.map_congr_left fun r hr => ?_)
  have hid := value_rowAfter ((legacyUpgrade_spares plans hmem).2 (column "id" .uuid false)
    (by decide)) r
  exact congrArg₂ Prod.mk hid (value_apiCallLimit (h.valid.rows _ (h.schema ▸ hmem) r hr))

/-- **The upgrade of a legacy database succeeds**, and preserves what has been metered. -/
theorem legacy_keeps_metering (h : AtRevision (some .createInitialSchema) d) :
    ∃ head : Database, run legacyUpgrade d = .ok head.toTables.toSql ∧ KeepsMetering d head := by
  obtain ⟨d', hrun, hhead⟩ := reachesHead .createInitialSchema d h
  obtain ⟨head, rfl⟩ := exists_database hhead
  have hcontents : head.toTables.contents = contentsAfter legacyUpgrade d.contents :=
    (run_eq_ok hrun).2.1
  have hevents := fun e he => legacy_usageEvent (e := e) h hrun he
  have hmem : usageEvents ∈ (schemaAt (some .createInitialSchema)).tables := by decide
  have htotal : ∀ subscriptionId start stop, getTotalUsage head subscriptionId start stop =
      totalUsage d.contents subscriptionId start stop := by
    intro subscriptionId start stop
    rw [← totalUsage_eq, hcontents]
    have hspares := legacyUpgrade_spares usageEvents hmem
    refine totalUsage_contentsAfter hspares.1 (fun name hname => ?_) _ _ _ _
    obtain ⟨c, hc, rfl⟩ := List.mem_map.mp
      ((by decide : ["subscription_id", "quantity", "created_at"] ⊆
        usageEvents.columns.map Column.name) hname)
    exact hspares.2 c hc
  have hnone : ∀ subscriptionId start stop, ∀ e ∈ head.usageEvents,
      countsTowardsType subscriptionId .tokens start stop e = false := by
    intro subscriptionId start stop e he
    simp [countsTowardsType, (hevents e he).2.1]
  have htokens : ∀ subscriptionId start stop,
      getTotalByType head subscriptionId .tokens start stop = 0 := fun subscriptionId start stop =>
    sumWhere_eq_zero (hnone subscriptionId start stop)
  refine ⟨head, hrun, ?_, fun e he => (hevents e he).1, head.constraints.usage_idempotency_key,
    htotal, ?_, htokens, ?_, legacy_limits h hrun⟩
  · intro t ht c hc
    rw [hcontents]
    exact columnValues_contentsAfter ((legacyUpgrade_spares t ht).2 c hc) _
  · intro subscriptionId start stop
    rw [← htotal, getTotalUsage_eq_types, htokens, add_zero]
  · intro subscriptionId start stop
    simp only [getTokenTotals, sumWhere_eq_zero (hnone subscriptionId start stop)]

/-- A subscription with one event in July and one in August. -/
def twoMonths : SqlDb where
  schema := schemaAt (some .createInitialSchema)
  contents
    | "plans" => [[("id", some (uuidValue ⟨1⟩)), ("name", some (stringValue "Basic")),
        ("price", some (integerValue 1000)), ("usage_limit", some (integerValue 100)),
        ("is_active", some (booleanValue true))]]
    | "tenants" => [[("id", some (uuidValue ⟨2⟩)), ("name", some (stringValue "Acme")),
        ("email", some (stringValue "billing@acme.test")), ("is_active", some (booleanValue true))]]
    | "subscriptions" => [[("id", some (uuidValue ⟨3⟩)), ("tenant_id", some (uuidValue ⟨2⟩)),
        ("plan_id", some (uuidValue ⟨1⟩)), ("status", some (.label "ACTIVE")),
        ("started_at", some (dateTimeValue firstOfJuly))]]
    | "usage_events" => [[("id", some (uuidValue ⟨4⟩)), ("subscription_id", some (uuidValue ⟨3⟩)),
        ("quantity", some (integerValue 5)), ("created_at", some (dateTimeValue july))],
      [("id", some (uuidValue ⟨5⟩)), ("subscription_id", some (uuidValue ⟨3⟩)),
        ("quantity", some (integerValue 2)), ("created_at", some (dateTimeValue firstOfAugust))]]
    | _ => []

theorem legacy_keeps_metering_twoMonths : ∃ head : Database,
    run legacyUpgrade twoMonths = .ok head.toTables.toSql ∧
      getTotalByType head ⟨3⟩ .apiCall (some firstOfJuly) (some firstOfAugust) = 5 ∧
      getTotalByType head ⟨3⟩ .apiCall none none = 7 := by
  have hclosed : twoMonths.Closed := by
    intro table htable
    simp only [twoMonths] at htable ⊢
    split <;> first | rfl | exact absurd htable (by decide)
  obtain ⟨head, hrun, hkeeps⟩ := legacy_keeps_metering ⟨rfl, by decide, hclosed⟩
  refine ⟨head, hrun, ?_, ?_⟩
  · rw [hkeeps.apiCalls]
    decide
  · rw [hkeeps.apiCalls]
    decide

end Head

end Migrations

end BillingEngine
