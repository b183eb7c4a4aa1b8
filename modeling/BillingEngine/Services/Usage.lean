import BillingEngine.Model.Repositories

/-!
# `UsageService.record_usage` (`app/services/usage_service.py`, lines 18–66)

The method is given twice. `UsageService.recordUsage` is the method run without
interruption. `recordStep` is the same method cut at its database steps: key
lookup, subscription read, sum of the month, lazy load of the plan, insert and
commit, and the re-read after an `IntegrityError`. `RecordPc` holds the local
variables that are still needed at each of these points.

`month_bounds()` and the insert read the clock, and the insert draws a primary
key, so these are arguments.

Results:
* `UsageService.recordUsage_cases`: the outcomes of a call, and what it has checked
  when it inserts.
* `recordSteps_eq_recordUsage`: the steps taken one after the other on an
  otherwise idle database are `recordUsage`.
* `recordStep_usageEvents`: one step appends at most the request's own event.
* `recordStep_other`: no step touches another table.
* `recordStep_progress`: a call takes at most six steps.
-/

namespace BillingEngine

open UsageRepository SubscriptionRepository

namespace UsageService

/-- The limit that applies to a usage type (lines 50–54). -/
def limitFor (plan : Plan) (usageType : UsageType) : ℤ :=
  if usageType = .apiCall then plan.apiCallLimit else plan.tokensLimit

/-- The 404 of line 30. -/
def notFound (usage : UsageRequest) : Exn :=
  .resourceNotFound s!"Subscription {usage.subscriptionId.str} not found"

/-- The 402 of lines 35–39. -/
def notActive (usage : UsageRequest) (status : SubscriptionStatus) : Exn :=
  .subscriptionNotActive (s!"Subscription {usage.subscriptionId.str} is " ++
    s!"{status.value}; an active plan is required " ++
    "to record usage. Upgrade or renew to continue.")

/-- The 429 of lines 59–64. -/
def quotaExceeded (usage : UsageRequest) (limit currentUsage : ℤ) : Exn :=
  .quotaExceeded ("Usage quota exceeded. " ++ s!"Limit: {limit}, " ++
    s!"Current: {currentUsage}, " ++ s!"Requested: {usage.quantity}") Exn.defaultRetryAfter

/-- `record_usage(usage)`; `nowBounds` is the time at which `month_bounds()`
    reads the clock, `nowInsert` the time of the insert, `id` the drawn key. -/
def recordUsage (db : Database) (usage : UsageRequest) (nowBounds nowInsert : DateTime)
    (id : Uuid) : Database × Except Exn (Option UsageEvent) :=
  match lookupIdempotencyKey db usage.idempotencyKey with
  | .error exn => (db, .error exn)
  | .ok (some existing) => (db, .ok (some existing))
  | .ok none =>
    match getById db usage.subscriptionId with
    | none => (db, .error (notFound usage))
    | some subscription =>
      if subscription.status ≠ .active then (db, .error (notActive usage subscription.status))
      else
        match monthBounds nowBounds with
        | .error exn => (db, .error exn)
        | .ok (periodStart, periodEnd) =>
          let currentUsage := getTotalByType db usage.subscriptionId usage.usageType
            (some periodStart) (some periodEnd)
          match planOf db subscription with
          | none => (db, .error .attributeError)
          | some plan =>
            let limit := limitFor plan usage.usageType
            if currentUsage + usage.quantity > limit then
              (db, .error (quotaExceeded usage limit currentUsage))
            else create db usage id nowInsert

/-- A key with a NUL is refused before anything else is looked at. -/
theorem recordUsage_of_not_storable {db : Database} {usage : UsageRequest}
    (hstorable : ¬ Storable usage.idempotencyKey)
    (hkey : getByIdempotencyKey db usage.idempotencyKey = none) (nowBounds nowInsert : DateTime)
    (id : Uuid) : recordUsage db usage nowBounds nowInsert id = (db, .error .dataError) := by
  simp only [recordUsage, lookupIdempotencyKey_of_not_storable hstorable hkey]

/-- What `record_usage` has checked when it inserts, and what it inserts. -/
structure Recorded (db : Database) (usage : UsageRequest) (nowBounds nowInsert : DateTime)
    (id : Uuid) (db' : Database) : Prop where
  storable_key : Storable usage.idempotencyKey
  fresh_key : getByIdempotencyKey db usage.idempotencyKey = none
  within : ∃ subscription plan periodStart periodEnd,
    getById db usage.subscriptionId = some subscription ∧ subscription.status = .active ∧
    monthBounds nowBounds = .ok (periodStart, periodEnd) ∧ planOf db subscription = some plan ∧
    getTotalByType db usage.subscriptionId usage.usageType (some periodStart) (some periodEnd) +
      usage.quantity ≤ limitFor plan usage.usageType
  tables : db'.toTables = { db.toTables with
    usageEvents := db.usageEvents ++ [newEvent usage id nowInsert] }

/-- **The outcomes of one call.** The stored event, an exception, `None` after a clash
    of primary keys, or the request's event, recorded after all the checks. -/
theorem recordUsage_cases (db : Database) (usage : UsageRequest) (nowBounds nowInsert : DateTime)
    (id : Uuid) :
    (∃ existing, getByIdempotencyKey db usage.idempotencyKey = some existing ∧
      recordUsage db usage nowBounds nowInsert id = (db, .ok (some existing))) ∨
    (∃ exn, recordUsage db usage nowBounds nowInsert id = (db, .error exn)) ∨
    recordUsage db usage nowBounds nowInsert id = (db, .ok none) ∨
    ∃ db', Recorded db usage nowBounds nowInsert id db' ∧
      recordUsage db usage nowBounds nowInsert id =
        (db', .ok (some (newEvent usage id nowInsert))) := by
  cases hkey : getByIdempotencyKey db usage.idempotencyKey with
  | some existing =>
    exact .inl ⟨existing, rfl, by simp only [recordUsage, lookupIdempotencyKey_of_some hkey]⟩
  | none =>
    refine .inr ?_
    by_cases hstorable : Storable usage.idempotencyKey
    swap
    · exact .inl ⟨_, recordUsage_of_not_storable hstorable hkey nowBounds nowInsert id⟩
    simp only [recordUsage, lookupIdempotencyKey_of_none hstorable hkey]
    cases hsub : getById db usage.subscriptionId with
    | none => exact .inl ⟨_, rfl⟩
    | some subscription =>
      by_cases hact : subscription.status = .active
      · cases hmb : monthBounds nowBounds with
        | error exn => exact .inl ⟨exn, by simp [hact]⟩
        | ok bounds =>
          obtain ⟨periodStart, periodEnd⟩ := bounds
          cases hplan : planOf db subscription with
          | none => exact .inl ⟨.attributeError, by simp [hact, hplan]⟩
          | some plan =>
            simp only [hact, hplan, ne_eq, not_true_eq_false, if_false]
            split_ifs with hq
            · exact .inl ⟨_, rfl⟩
            · unfold UsageRepository.create
              rcases insert_cases db (newEvent usage id nowInsert) with
                ⟨db', hins, ht, -⟩ | ⟨hins, -⟩ | ⟨hins, -⟩
              · simp only [hins]
                exact .inr (.inr ⟨db', ⟨hstorable, hkey, ⟨subscription, plan, periodStart,
                  periodEnd, hsub, hact, hmb, hplan, not_lt.mp hq⟩, ht⟩, rfl⟩)
              · simp only [hins, hkey]; exact .inr (.inl trivial)
              · simp only [hins]; exact .inl ⟨_, rfl⟩
      · exact .inl ⟨notActive usage subscription.status, by simp [hact]⟩

/-- **Effect of one call.** Nothing, or the request's event is recorded after
    all the checks. -/
theorem recordUsage_effect (db : Database) (usage : UsageRequest) (nowBounds nowInsert : DateTime)
    (id : Uuid) :
    (recordUsage db usage nowBounds nowInsert id).1 = db ∨
      Recorded db usage nowBounds nowInsert id (recordUsage db usage nowBounds nowInsert id).1 ∧
        (recordUsage db usage nowBounds nowInsert id).2 =
          .ok (some (newEvent usage id nowInsert)) := by
  rcases recordUsage_cases db usage nowBounds nowInsert id with
    ⟨_, -, heq⟩ | ⟨_, heq⟩ | heq | ⟨db', hrec, heq⟩
  · exact .inl (by rw [heq])
  · exact .inl (by rw [heq])
  · exact .inl (by rw [heq])
  · exact .inr (by rw [heq]; exact ⟨hrec, rfl⟩)

section StatusGate

variable {db : Database} {usage : UsageRequest} {nowBounds nowInsert : DateTime} {id : Uuid}
  {subscription : Subscription}

/-- The status gate for a new key. -/
theorem recordUsage_of_inactive (hstorable : Storable usage.idempotencyKey)
    (hkey : getByIdempotencyKey db usage.idempotencyKey = none)
    (hsub : getById db usage.subscriptionId = some subscription)
    (hact : subscription.status ≠ .active) :
    recordUsage db usage nowBounds nowInsert id =
      (db, .error (notActive usage subscription.status)) := by
  simp only [recordUsage, lookupIdempotencyKey_of_none hstorable hkey, hsub, if_pos hact]

/-- No other check raises the exception of the gate. -/
theorem recordUsage_of_active (hsub : getById db usage.subscriptionId = some subscription)
    (hact : subscription.status = .active) (detail : String) :
    (recordUsage db usage nowBounds nowInsert id).2 ≠ .error (.subscriptionNotActive detail) := by
  cases hkey : getByIdempotencyKey db usage.idempotencyKey with
  | some existing => simp [recordUsage, lookupIdempotencyKey_of_some hkey]
  | none =>
    by_cases hstorable : Storable usage.idempotencyKey
    swap
    · simp [recordUsage_of_not_storable hstorable hkey]
    simp only [recordUsage, lookupIdempotencyKey_of_none hstorable hkey, hsub, hact, ne_eq,
      not_true_eq_false, if_false]
    cases hmb : monthBounds nowBounds with
    | error exn =>
      obtain ⟨message, rfl⟩ := monthBounds_error hmb
      simp
    | ok bounds =>
      cases planOf db subscription with
      | none => simp
      | some plan =>
        dsimp only
        split_ifs
        · simp [quotaExceeded]
        · unfold UsageRepository.create
          rcases insert_cases db (newEvent usage id nowInsert) with
            ⟨db', hins, -⟩ | ⟨hins, -⟩ | ⟨hins, -⟩ <;> simp [hins]

end StatusGate

end UsageService

/-! ## The database steps -/

/-- Where a call of `record_usage` is, with the local variables it still needs. -/
inductive RecordPc where
  | lookupKey
  | readSubscription
  | readTotal (subscription : Subscription)
  | readPlan (subscription : Subscription) (currentUsage : ℤ)
  | insert
  | reread
  | done (result : Except Exn (Option UsageEvent))
deriving DecidableEq

open UsageService in
/-- One database step of `record_usage`, up to the next one. -/
def recordStep (usage : UsageRequest) (now : DateTime) (id : Uuid) (db : Database) :
    RecordPc → Option (Database × RecordPc)
  | .lookupKey =>
    match lookupIdempotencyKey db usage.idempotencyKey with
    | .error exn => some (db, .done (.error exn))
    | .ok (some existing) => some (db, .done (.ok (some existing)))
    | .ok none => some (db, .readSubscription)
  | .readSubscription =>
    match getById db usage.subscriptionId with
    | none => some (db, .done (.error (notFound usage)))
    | some subscription =>
      if subscription.status ≠ .active then
        some (db, .done (.error (notActive usage subscription.status)))
      else some (db, .readTotal subscription)
  | .readTotal subscription =>
    match monthBounds now with
    | .error exn => some (db, .done (.error exn))
    | .ok (periodStart, periodEnd) =>
      some (db, .readPlan subscription (getTotalByType db usage.subscriptionId usage.usageType
        (some periodStart) (some periodEnd)))
  | .readPlan subscription currentUsage =>
    match planOf db subscription with
    | none => some (db, .done (.error .attributeError))
    | some plan =>
      let limit := limitFor plan usage.usageType
      if currentUsage + usage.quantity > limit then
        some (db, .done (.error (quotaExceeded usage limit currentUsage)))
      else some (db, .insert)
  | .insert =>
    let event := newEvent usage id now
    match UsageRepository.insert db event with
    | .ok db' => some (db', .done (.ok (some event)))
    | .error .integrityError => some (db, .reread)
    | .error exn => some (db, .done (.error exn))
  | .reread => some (db, .done (.ok (getByIdempotencyKey db usage.idempotencyKey)))
  | .done _ => none

/-! ### The step taken at each point -/

section Equations

attribute [local simp] recordStep

variable {usage : UsageRequest} {now : DateTime} {id : Uuid} {db db' : Database}
  {subscription : Subscription} {plan : Plan} {currentUsage : ℤ}

theorem recordStep_lookupKey_not_storable (hstorable : ¬ Storable usage.idempotencyKey)
    (h : getByIdempotencyKey db usage.idempotencyKey = none) :
    recordStep usage now id db .lookupKey = some (db, .done (.error .dataError)) := by
  simp [lookupIdempotencyKey_of_not_storable hstorable h]

theorem recordStep_lookupKey_some {existing : UsageEvent}
    (h : getByIdempotencyKey db usage.idempotencyKey = some existing) :
    recordStep usage now id db .lookupKey = some (db, .done (.ok (some existing))) := by
  simp [lookupIdempotencyKey_of_some h]

theorem recordStep_lookupKey_none (hstorable : Storable usage.idempotencyKey)
    (h : getByIdempotencyKey db usage.idempotencyKey = none) :
    recordStep usage now id db .lookupKey = some (db, .readSubscription) := by
  simp [lookupIdempotencyKey_of_none hstorable h]

theorem recordStep_readSubscription_none (h : getById db usage.subscriptionId = none) :
    recordStep usage now id db .readSubscription =
      some (db, .done (.error (UsageService.notFound usage))) := by
  simp [h]

theorem recordStep_readSubscription_inactive
    (h : getById db usage.subscriptionId = some subscription)
    (hact : subscription.status ≠ .active) : recordStep usage now id db .readSubscription =
      some (db, .done (.error (UsageService.notActive usage subscription.status))) := by
  simp [h, hact]

theorem recordStep_readSubscription_active (h : getById db usage.subscriptionId = some subscription)
    (hact : subscription.status = .active) :
    recordStep usage now id db .readSubscription = some (db, .readTotal subscription) := by
  simp [h, hact]

theorem recordStep_readTotal_error {exn : Exn} (h : monthBounds now = .error exn) :
    recordStep usage now id db (.readTotal subscription) = some (db, .done (.error exn)) := by
  simp [h]

theorem recordStep_readTotal_ok {periodStart periodEnd : DateTime}
    (h : monthBounds now = .ok (periodStart, periodEnd)) :
    recordStep usage now id db (.readTotal subscription) =
      some (db, .readPlan subscription (getTotalByType db usage.subscriptionId usage.usageType
        (some periodStart) (some periodEnd))) := by
  simp [h]

theorem recordStep_readPlan_none (h : planOf db subscription = none) :
    recordStep usage now id db (.readPlan subscription currentUsage) =
      some (db, .done (.error .attributeError)) := by
  simp [h]

theorem recordStep_readPlan_over (h : planOf db subscription = some plan)
    (hq : currentUsage + usage.quantity > UsageService.limitFor plan usage.usageType) :
    recordStep usage now id db (.readPlan subscription currentUsage) =
      some (db, .done (.error (UsageService.quotaExceeded usage
        (UsageService.limitFor plan usage.usageType) currentUsage))) := by
  simp [h, hq]

theorem recordStep_readPlan_within (h : planOf db subscription = some plan)
    (hq : ¬ currentUsage + usage.quantity > UsageService.limitFor plan usage.usageType) :
    recordStep usage now id db (.readPlan subscription currentUsage) = some (db, .insert) := by
  simp [h, hq]

theorem recordStep_insert_ok (h : UsageRepository.insert db (newEvent usage id now) = .ok db') :
    recordStep usage now id db .insert =
      some (db', .done (.ok (some (newEvent usage id now)))) := by
  simp [h]

theorem recordStep_insert_integrityError
    (h : UsageRepository.insert db (newEvent usage id now) = .error .integrityError) :
    recordStep usage now id db .insert = some (db, .reread) := by
  simp [h]

theorem recordStep_insert_dataError
    (h : UsageRepository.insert db (newEvent usage id now) = .error .dataError) :
    recordStep usage now id db .insert = some (db, .done (.error .dataError)) := by
  simp [h]

theorem recordStep_reread : recordStep usage now id db .reread =
    some (db, .done (.ok (getByIdempotencyKey db usage.idempotencyKey))) := rfl

@[simp] theorem recordStep_done (db : Database) (result : Except Exn (Option UsageEvent)) :
    recordStep usage now id db (.done result) = none := rfl

end Equations

/-! ### An uninterrupted call -/

/-- The steps of one call on an otherwise idle database; `nowInsert` is the
    clock of the insert and `nowBounds` that of every other step. -/
def recordSteps (usage : UsageRequest) (nowBounds nowInsert : DateTime) (id : Uuid) :
    ℕ → Database × RecordPc → Database × RecordPc
  | 0, c => c
  | fuel + 1, (db, pc) =>
    let now := if pc = .insert then nowInsert else nowBounds
    match recordStep usage now id db pc with
    | some c => recordSteps usage nowBounds nowInsert id fuel c
    | none => (db, pc)

section Steps

variable {usage : UsageRequest} {nowBounds nowInsert : DateTime} {id : Uuid} {n : ℕ}

theorem recordSteps_done (db : Database) (result : Except Exn (Option UsageEvent)) :
    recordSteps usage nowBounds nowInsert id n (db, .done result) = (db, .done result) := by
  cases n <;> simp [recordSteps]

theorem recordSteps_step {db : Database} {pc : RecordPc} {c : Database × RecordPc}
    (h : recordStep usage nowBounds id db pc = some c) (hpc : pc ≠ .insert) :
    recordSteps usage nowBounds nowInsert id (n + 1) (db, pc) =
      recordSteps usage nowBounds nowInsert id n c := by
  simp [recordSteps, hpc, h]

theorem recordSteps_insert (db : Database) :
    recordSteps usage nowBounds nowInsert id (n + 2) (db, .insert) =
      let r := UsageRepository.create db usage id nowInsert
      (r.1, .done r.2) := by
  rcases insert_cases db (newEvent usage id nowInsert) with
    ⟨db', hins, -⟩ | ⟨hins, -⟩ | ⟨hins, -⟩ <;>
    simp [recordSteps, recordStep, UsageRepository.create, hins, recordSteps_done]

/-- **The steps are the method.** Six steps always suffice. -/
theorem recordSteps_eq_recordUsage (db : Database) :
    recordSteps usage nowBounds nowInsert id 6 (db, .lookupKey) =
      let r := UsageService.recordUsage db usage nowBounds nowInsert id
      (r.1, .done r.2) := by
  cases hkey : getByIdempotencyKey db usage.idempotencyKey with
  | some existing =>
    rw [recordSteps_step (recordStep_lookupKey_some hkey) (by simp), recordSteps_done]
    simp only [UsageService.recordUsage, lookupIdempotencyKey_of_some hkey]
  | none =>
    by_cases hstorable : Storable usage.idempotencyKey
    swap
    · rw [recordSteps_step (recordStep_lookupKey_not_storable hstorable hkey) (by simp),
        recordSteps_done, UsageService.recordUsage_of_not_storable hstorable hkey]
    rw [recordSteps_step (recordStep_lookupKey_none hstorable hkey) (by simp)]
    simp only [UsageService.recordUsage, lookupIdempotencyKey_of_none hstorable hkey]
    cases hsub : getById db usage.subscriptionId with
    | none =>
      rw [recordSteps_step (recordStep_readSubscription_none hsub) (by simp), recordSteps_done]
    | some subscription =>
      by_cases hact : subscription.status = .active
      · rw [recordSteps_step (recordStep_readSubscription_active hsub hact) (by simp)]
        simp only [hact, ne_eq, not_true_eq_false, if_false]
        cases hmb : monthBounds nowBounds with
        | error exn =>
          rw [recordSteps_step (recordStep_readTotal_error hmb) (by simp), recordSteps_done]
        | ok bounds =>
          obtain ⟨periodStart, periodEnd⟩ := bounds
          rw [recordSteps_step (recordStep_readTotal_ok hmb) (by simp)]
          cases hplan : planOf db subscription with
          | none =>
            rw [recordSteps_step (recordStep_readPlan_none hplan) (by simp), recordSteps_done]
          | some plan =>
            dsimp only
            split_ifs with hq
            · rw [recordSteps_step (recordStep_readPlan_over hplan hq) (by simp), recordSteps_done]
            · rw [recordSteps_step (recordStep_readPlan_within hplan hq) (by simp),
                recordSteps_insert]
      · rw [recordSteps_step (recordStep_readSubscription_inactive hsub hact) (by simp),
          recordSteps_done]
        simp only [ne_eq, hact, not_false_eq_true, if_true]

end Steps

/-! ## What one step does -/

variable {usage : UsageRequest} {now : DateTime} {id : Uuid} {db db' : Database} {pc pc' : RecordPc}

/-- **Effect of one step on the database.** Nothing, unless it is an insert that
    commits: then the request's event is appended and nothing else changes. -/
theorem recordStep_effect (h : recordStep usage now id db pc = some (db', pc')) :
    db' = db ∨
      (pc = .insert ∧ UsageRepository.insert db (newEvent usage id now) = .ok db' ∧
        db'.toTables = { db.toTables with
          usageEvents := db.usageEvents ++ [newEvent usage id now] } ∧
        pc' = .done (.ok (some (newEvent usage id now)))) := by
  cases pc with
  | lookupKey => simp only [recordStep] at h; split at h <;> cases h <;> exact .inl rfl
  | readSubscription =>
    simp only [recordStep] at h
    split at h
    · cases h; exact .inl rfl
    · split_ifs at h <;> cases h <;> exact .inl rfl
  | readTotal subscription =>
    simp only [recordStep] at h; split at h <;> cases h <;> exact .inl rfl
  | readPlan subscription currentUsage =>
    simp only [recordStep] at h
    split at h
    · cases h; exact .inl rfl
    · split_ifs at h <;> cases h <;> exact .inl rfl
  | insert =>
    simp only [recordStep] at h
    split at h
    · rename_i db₁ hins
      cases h
      exact .inr ⟨rfl, hins, commit_eq_ok.mp hins, rfl⟩
    · cases h; exact .inl rfl
    · cases h; exact .inl rfl
  | reread => simp only [recordStep] at h; cases h; exact .inl rfl
  | done result => simp [recordStep] at h

/-- The steps that a call still takes at most. -/
def RecordPc.stepsLeft : RecordPc → ℕ
  | lookupKey => 6
  | readSubscription => 5
  | readTotal _ => 4
  | readPlan _ _ => 3
  | insert => 2
  | reread => 1
  | done _ => 0

/-- A call that has not ended can take a step, and comes nearer to its end. -/
theorem recordStep_progress (usage : UsageRequest) (now : DateTime) (id : Uuid) (db : Database)
    (hpc : ∀ result, pc ≠ .done result) : ∃ db' pc',
      recordStep usage now id db pc = some (db', pc') ∧ pc'.stepsLeft < pc.stepsLeft := by
  cases pc with
  | done result => exact absurd rfl (hpc result)
  | reread => exact ⟨_, _, rfl, by simp [RecordPc.stepsLeft]⟩
  | readSubscription =>
    simp only [recordStep]
    split
    · exact ⟨_, _, rfl, by simp [RecordPc.stepsLeft]⟩
    · split_ifs <;> exact ⟨_, _, rfl, by simp [RecordPc.stepsLeft]⟩
  | readPlan subscription currentUsage =>
    simp only [recordStep]
    split
    · exact ⟨_, _, rfl, by simp [RecordPc.stepsLeft]⟩
    · split_ifs <;> exact ⟨_, _, rfl, by simp [RecordPc.stepsLeft]⟩
  | _ => simp only [recordStep]; split <;> exact ⟨_, _, rfl, by simp [RecordPc.stepsLeft]⟩

theorem recordStep_usageEvents (h : recordStep usage now id db pc = some (db', pc')) :
    db.usageEvents <+: db'.usageEvents := by
  rcases recordStep_effect h with rfl | ⟨-, -, ht, -⟩
  · exact List.prefix_rfl
  · rw [ht]; exact List.prefix_append _ _

/-- No step touches a table other than `usage_events`. -/
theorem recordStep_other (h : recordStep usage now id db pc = some (db', pc')) :
    db'.toTables = { db.toTables with usageEvents := db'.usageEvents } := by
  rcases recordStep_effect h with rfl | ⟨-, -, ht, -⟩
  · rfl
  · rw [ht]

end BillingEngine
