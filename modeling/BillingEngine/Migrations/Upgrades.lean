import BillingEngine.Migrations.Revisions

/-!
# Every upgrade after the first succeeds

An upgrade adds tables and nullable columns, fills the columns, and then demands that
they are not null, or that they are unique. The rows that a revision accepts always
pass: the backfills cover every row, `usage_limit` is not null, and the keys that are
made from primary keys are different.

Results:
* `upgrade_succeeds`: for each revision but the first, on every database at the one before.
* `atRevision_of_upgrade`: what an upgrade makes is a database at its revision.
* `reachesHead`: `alembic upgrade head`, from every revision.
-/

namespace BillingEngine

open Relational

namespace Migrations

theorem schemaAfter_upgrade (r : Revision) :
    schemaAfter r.upgrade (schemaAt r.downRevision) = schemaAt (some r) := by
  rw [schemaAt, schemaAt, Option.elim_some, Revision.history_eq, List.flatMap_append,
    List.flatMap_singleton, schemaAfter, schemaAfter, schemaAfter, List.foldl_append]

/-- **What an upgrade makes** of a database at the revision before. -/
theorem atRevision_of_upgrade {r : Revision} {d d' : SqlDb} (h : AtRevision r.downRevision d)
    (hrun : run r.upgrade d = .ok d') :
    AtRevision (some r) d' ∧ d'.contents = contentsAfter r.upgrade d.contents := by
  obtain ⟨hschema, hcontents, hvalid, hclosed⟩ := run_eq_ok hrun
  rw [h.schema, schemaAfter_upgrade] at hschema
  exact ⟨⟨hschema, hvalid h.valid, hclosed h.closed⟩, hcontents⟩

-- what is evaluated below on rows that are given cell by cell
attribute [local simp] AcceptsRows Statement.AcceptsRow Statement.onColumns Statement.onTypes
  Statement.onRow Row.addCell Row.assign Row.value List.lookup_cons CellOk column enumColumn
  ColumnType.Fits Scalars.Fits SqlType.Fits uuidValue integerValue

variable {d : SqlDb}

/-- A script without a backfill succeeds if its names are right. -/
theorem succeeds_of_accepts {revision : Option Revision} {script : List Op}
    (h : AtRevision revision d) (hchecked : Checked script (schemaAt revision))
    (haccepts : ∀ t ∈ (schemaAt revision).tables, ∀ st ∈ script, st.AcceptsAll t.name) :
    run script d =
      .ok ⟨schemaAfter script (schemaAt revision), contentsAfter script d.contents⟩ := by
  rw [← h.schema] at hchecked haccepts ⊢
  exact run_of_checked h.valid hchecked fun t ht r _ => acceptsRows_of_all (haccepts t ht) _ _ r

theorem addInvoices_succeeds (h : AtRevision (some .addIdempotencyKey) d) :
    ∃ d', run AddInvoices.upgrade d = .ok d' :=
  ⟨_, succeeds_of_accepts h (by decide) (by decide)⟩

theorem addBillingPeriod_succeeds (h : AtRevision (some .addInvoices) d) :
    ∃ d', run AddBillingPeriod.upgrade d = .ok d' :=
  ⟨_, succeeds_of_accepts h (by decide) (by decide)⟩

/-! ## Usage types and limits -/

section AddUsageTypes

open CreateInitialSchema

/-- The columns of `usage_events` from `10bb7eb21c52` on. -/
def keyedUsageEvents : List (Column SqlType) :=
  usageEvents.columns ++ [column "idempotency_key" (.string none) false]

/-- The limit of a plan is not null. -/
theorem plans_cells {types : List EnumType} {r : SqlRow} (h : RowOk types plans.columns r) :
    ∃ v₁ v₂ v₃ v₅ limit, inInteger limit ∧ r = [("id", v₁), ("name", v₂), ("price", v₃),
      ("usage_limit", some (integerValue limit)), ("is_active", v₅)] := by
  obtain ⟨limit, hlimit, hfits⟩ := cellOk_integer
    (h.cellOk (by decide) (show column "usage_limit" .integer false ∈ _ by decide))
  refine ⟨r.value "id", r.value "name", r.value "price", r.value "is_active", limit, hfits, ?_⟩
  rw [← hlimit]
  exact h.eq_cells (by decide)

/-- `api_call_limit` becomes the limit. -/
theorem addUsageTypes_acceptsPlan (v₁ v₂ v₃ v₅ : Option (Value SqlValue)) {limit : ℤ}
    (hlimit : inInteger limit) :
    AcceptsRows "plans" AddUsageTypes.upgrade [subscriptionStatus] plans.columns
      [("id", v₁), ("name", v₂), ("price", v₃), ("usage_limit", some (integerValue limit)),
        ("is_active", v₅)] := by
  have hzero : inInteger 0 := by decide
  simp [AddUsageTypes.upgrade, AddUsageTypes.zero, plans, hlimit, hzero]

theorem addUsageTypes_acceptsUsageEvent (v₁ v₂ v₃ v₄ v₅ : Option (Value SqlValue)) :
    AcceptsRows "usage_events" AddUsageTypes.upgrade [subscriptionStatus] keyedUsageEvents
      [("id", v₁), ("subscription_id", v₂), ("quantity", v₃), ("created_at", v₄),
        ("idempotency_key", v₅)] := by
  have hzero : inInteger 0 := by decide
  simp [AddUsageTypes.upgrade, AddUsageTypes.zero, AddUsageTypes.usageType, keyedUsageEvents,
    usageEvents, subscriptionStatus, hzero]

theorem addUsageTypes_succeeds (h : AtRevision (some .addBillingPeriod) d) :
    ∃ d', run AddUsageTypes.upgrade d = .ok d' := by
  have hchecked : Checked AddUsageTypes.upgrade d.schema := by rw [h.schema]; decide
  have htypes : d.schema.types = [subscriptionStatus] := by rw [h.schema]; decide
  have hplans : ∀ t ∈ d.schema.tables, t.name = "plans" → t.columns = plans.columns := by
    rw [h.schema]; decide
  have husage : ∀ t ∈ d.schema.tables, t.name = "usage_events" → t.columns = keyedUsageEvents := by
    rw [h.schema]; decide
  have hothers : ∀ t ∈ d.schema.tables, t.name ≠ "plans" → t.name ≠ "usage_events" →
      ∀ st ∈ AddUsageTypes.upgrade, st.AcceptsAll t.name := by
    rw [h.schema]; decide
  refine ⟨_, run_of_checked h.valid hchecked fun t ht r hr => ?_⟩
  have hrow := h.valid.rows t ht r hr
  by_cases hplan : t.name = "plans"
  · rw [hplans t ht hplan] at hrow ⊢
    obtain ⟨v₁, v₂, v₃, v₅, limit, hlimit, rfl⟩ := plans_cells hrow
    rw [hplan, htypes]
    exact addUsageTypes_acceptsPlan v₁ v₂ v₃ v₅ hlimit
  · by_cases hevent : t.name = "usage_events"
    · rw [husage t ht hevent] at hrow ⊢
      rw [hevent, htypes, hrow.eq_cells (by decide)]
      exact addUsageTypes_acceptsUsageEvent _ _ _ _ _
    · exact acceptsRows_of_all (hothers t ht hplan hevent) _ _ r

end AddUsageTypes

/-! ## Unique constraints -/

/-- A script that ends with a constraint which holds then. -/
theorem succeeds_of_constraint {revision : Option Revision} {fill : List Op} {st : Op}
    {table : String} {constraint : Constraint} (h : AtRevision revision d)
    (hfill : ∃ d₁, run fill d = .ok d₁) (hst : st = .createConstraint table constraint)
    (hcheck : st.check (schemaAfter fill (schemaAt revision)) = .ok ())
    (hconsistent : (st.onSchema (schemaAfter fill (schemaAt revision))).Consistent)
    (hholds : constraint.Holds (contentsAfter fill d.contents) table) :
    ∃ d', run (fill ++ [st]) d = .ok d' := by
  obtain ⟨d₁, hfill⟩ := hfill
  obtain ⟨hschema, hcontents, hvalid, -⟩ := run_eq_ok hfill
  rw [h.schema] at hschema
  rw [← hschema] at hcheck hconsistent
  rw [← hcontents] at hholds
  rw [run_append, hfill]
  dsimp only
  rw [run, execute_createConstraint (hvalid h.valid) hst hcheck hconsistent hholds]
  exact ⟨_, rfl⟩

section AddStripeFields

open AddStripeFields

/-- What comes before the constraint. -/
def AddStripeFields.fill : List Op := upgrade.take 3

/-- The new column of the Stripe ids is null in every row. -/
theorem addStripeFields_succeeds (h : AtRevision (some .addUsageTypes) d) :
    ∃ d', run upgrade d = .ok d' := by
  have hupgrade : upgrade = fill ++ [.createConstraint "subscriptions"
    (.unique (some "uq_subscriptions_stripe_subscription_id") "stripe_subscription_id")] := rfl
  have hnull : ∀ v ∈ columnValues (contentsAfter fill d.contents) "subscriptions"
      "stripe_subscription_id", v = none := by
    rw [columnValues_contentsAfter (by decide)]
    intro v hv
    obtain ⟨r, hr, rfl⟩ := List.mem_map.mp hv
    have hmem : CreateInitialSchema.subscriptions ∈ d.schema.tables := by rw [h.schema]; decide
    exact (h.valid.rows _ hmem r hr).value_eq_none (by decide)
  have hholds : (columnValues (contentsAfter fill d.contents) "subscriptions"
      "stripe_subscription_id").reduceOption = [] := by
    refine List.eq_nil_iff_forall_not_mem.mpr fun v hv => ?_
    cases hnull _ (List.reduceOption_mem_iff.mp hv)
  have hunique : (columnValues (contentsAfter fill d.contents) "subscriptions"
      "stripe_subscription_id").reduceOption.Nodup := by
    rw [hholds]
    exact List.nodup_nil
  rw [hupgrade]
  exact succeeds_of_constraint h ⟨_, succeeds_of_accepts h (by decide) (by decide)⟩ rfl (by decide)
    (by decide) hunique

end AddStripeFields

/-! ### Idempotency keys -/

section AddIdempotencyKey

open AddIdempotencyKey

open CreateInitialSchema (usageEvents)

/-- What comes before the constraint. -/
def AddIdempotencyKey.fill : List Op := upgrade.take 3

variable {types : List EnumType} {r : SqlRow}

theorem usageEvents_cells (h : RowOk types usageEvents.columns r) :
    ∃ (id : Uuid) (v₂ v₃ v₄ : _), r = [("id", some (uuidValue id)), ("subscription_id", v₂),
      ("quantity", v₃), ("created_at", v₄)] := by
  obtain ⟨id, hid⟩ := cellOk_uuid
    (h.cellOk (by decide) (show column "id" .uuid false ∈ _ by decide))
  refine ⟨id, r.value "subscription_id", r.value "quantity", r.value "created_at", ?_⟩
  rw [← hid]
  exact h.eq_cells (by decide)

theorem addIdempotencyKey_accepts (id : Uuid) (v₂ v₃ v₄ : Option (Value SqlValue)) :
    AcceptsRows "usage_events" fill types usageEvents.columns
      [("id", some (uuidValue id)), ("subscription_id", v₂), ("quantity", v₃),
        ("created_at", v₄)] := by
  simp [fill, upgrade, usageEvents, legacyKey, legacyText]

theorem addIdempotencyKey_fills (h : AtRevision (some .createInitialSchema) d) :
    ∃ d', run fill d = .ok d' := by
  have hchecked : Checked fill d.schema := by rw [h.schema]; decide
  have husage : ∀ t ∈ d.schema.tables, t.name = "usage_events" →
      t.columns = usageEvents.columns := by
    rw [h.schema]; decide
  have hothers : ∀ t ∈ d.schema.tables, t.name ≠ "usage_events" →
      ∀ st ∈ fill, st.AcceptsAll t.name := by
    rw [h.schema]; decide
  refine ⟨_, run_of_checked h.valid hchecked fun t ht r hr => ?_⟩
  by_cases hevent : t.name = "usage_events"
  · have hrow := h.valid.rows t ht r hr
    rw [husage t ht hevent] at hrow ⊢
    obtain ⟨id, v₂, v₃, v₄, rfl⟩ := usageEvents_cells hrow
    rw [hevent]
    exact addIdempotencyKey_accepts id v₂ v₃ v₄
  · exact acceptsRows_of_all (hothers t ht hevent) _ _ r

theorem legacyText_injective {v v' : Option (Value SqlValue)} {key : Value SqlValue}
    (h : legacyText v = some key) (h' : legacyText v' = some key) : v = v' := by
  unfold legacyText at h h'
  split at h
  · split at h'
    · rename_i id _ id'
      rw [← h'] at h
      simp only [Option.some.injEq, Value.scalar.injEq, SqlValue.string.injEq] at h
      rw [Uuid.str_injective (String.append_right_inj _ |>.mp h)]
    · cases h'
  · cases h

theorem value_idempotencyKey (h : RowOk types usageEvents.columns r) :
    (rowAfter "usage_events" fill r).value "idempotency_key" = legacyText (r.value "id") := by
  obtain ⟨id, v₂, v₃, v₄, rfl⟩ := usageEvents_cells h
  rfl

/-- Distinct primary keys give distinct idempotency keys. -/
theorem addIdempotencyKey_succeeds (h : AtRevision (some .createInitialSchema) d) :
    ∃ d', run upgrade d = .ok d' := by
  have hupgrade : upgrade = fill ++ [.createConstraint "usage_events"
    (.unique (some "uq_usage_events_idempotency_key") "idempotency_key")] := rfl
  have hmem : usageEvents ∈ d.schema.tables := by rw [h.schema]; decide
  have hkeys : columnValues (contentsAfter fill d.contents) "usage_events"
      "idempotency_key" = (columnValues d.contents "usage_events" "id").map legacyText := by
    rw [columnValues, contentsAfter_eq_map (by decide), columnValues, List.map_map, List.map_map]
    exact List.map_congr_left fun r hr => value_idempotencyKey (h.valid.rows _ hmem r hr)
  have hpkey := (h.valid.constraints _ hmem (.primaryKey "id") (by decide)).2
  have hholds : (columnValues (contentsAfter fill d.contents) "usage_events"
      "idempotency_key").reduceOption.Nodup := by
    rw [hkeys, List.reduceOption, List.filterMap_map]
    exact hpkey.filterMap fun v v' key hv hv' => legacyText_injective hv hv'
  rw [hupgrade]
  exact succeeds_of_constraint h (addIdempotencyKey_fills h) rfl (by decide) (by decide) hholds

end AddIdempotencyKey

/-- **Every upgrade but the first succeeds** on every database at the revision before. -/
theorem upgrade_succeeds {r : Revision} (hr : r ≠ .createInitialSchema)
    (h : AtRevision r.downRevision d) : ∃ d', run r.upgrade d = .ok d' := by
  cases r with
  | createInitialSchema => exact absurd rfl hr
  | addIdempotencyKey => exact addIdempotencyKey_succeeds h
  | addInvoices => exact addInvoices_succeeds h
  | addBillingPeriod => exact addBillingPeriod_succeeds h
  | addUsageTypes => exact addUsageTypes_succeeds h
  | addStripeFields => exact addStripeFields_succeeds h

/-! ## To the head -/

/-- `alembic upgrade head` from a revision: the scripts of the later ones. -/
def upgradesToHead (r : Revision) : List Op :=
  (Revision.addStripeFields.history.drop r.history.length).flatMap Revision.upgrade

/-- The head is reached from every database at the revision. -/
def ReachesHead (r : Revision) : Prop :=
  ∀ d, AtRevision (some r) d →
    ∃ d', run (upgradesToHead r) d = .ok d' ∧ AtRevision (some .addStripeFields) d'

/-- The head is reached from the revision before, too. -/
theorem reachesHead_of_next {r r₀ : Revision} (hdown : r.downRevision = some r₀)
    (hnext : ReachesHead r) : ReachesHead r₀ := by
  intro d h
  rw [← hdown] at h
  have hr : r ≠ .createInitialSchema := by rintro rfl; cases hdown
  obtain ⟨d₁, hup⟩ := upgrade_succeeds hr h
  obtain ⟨d', hrest, hhead⟩ := hnext d₁ (atRevision_of_upgrade h hup).1
  have hscripts : upgradesToHead r₀ = r.upgrade ++ upgradesToHead r := by
    cases r <;> cases hdown <;> rfl
  refine ⟨d', ?_, hhead⟩
  rw [hscripts, run_append, hup]
  exact hrest

/-- **The upgrades to the head succeed** on every database at a revision. -/
theorem reachesHead (r : Revision) : ReachesHead r := by
  have hstripe : ReachesHead .addStripeFields := fun d h => ⟨d, rfl, h⟩
  have htypes : ReachesHead .addUsageTypes := reachesHead_of_next rfl hstripe
  have hperiod : ReachesHead .addBillingPeriod := reachesHead_of_next rfl htypes
  have hinvoices : ReachesHead .addInvoices := reachesHead_of_next rfl hperiod
  have hkey : ReachesHead .addIdempotencyKey := reachesHead_of_next rfl hinvoices
  cases r with
  | createInitialSchema => exact reachesHead_of_next rfl hkey
  | addIdempotencyKey => exact hkey
  | addInvoices => exact hinvoices
  | addBillingPeriod => exact hperiod
  | addUsageTypes => exact htypes
  | addStripeFields => exact hstripe

end Migrations

end BillingEngine
