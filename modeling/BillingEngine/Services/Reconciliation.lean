import BillingEngine.Common.Runs
import BillingEngine.Model.Repositories

/-!
# `ReconciliationService.run_once` (`app/services/reconciliation_service.py`)

The job loads all Stripe-linked rows, asks Stripe for each of them with retries,
and writes the changed statuses in one commit at the end. The rows it compares
with and the answers it got are held in memory until then: an `UPDATE` is
issued for exactly the rows whose status was assigned a value other than the
loaded one, and it does not look at the stored value.

Stripe is an outcome for every call: `retrieve stripeId attempt` is what the
`attempt`-th call about `stripeId` returns or raises. `ReconciliationService.runOnce`
is the method run without interruption, `jobStep` the method cut at its
database and Stripe calls.

Results:
* `jobNext_run`: the uninterrupted steps are the method.
* `commitStatuses_eq_ok`: the final commit always succeeds.
* `runOnce_effect`: the effect of a run on the database.
* `runOnce_rows`: what a run makes of each row.
* `jobStep_effect`: only the final commit changes the database, and then only
  statuses.
-/

namespace BillingEngine

namespace ReconciliationService

/-! ## `_retry` -/

/-- What `_retry` did: its result, the number of calls it made and the pauses
    between them. -/
structure RetryOutcome where
  result : Except Exn Json
  calls : ℕ
  sleeps : List ℚ

/-- `time.sleep(delay)` raises this for a negative delay. -/
def negativeSleep : Exn := .valueError "sleep length must be non-negative"

/-- The loop of `_retry` (lines 74–82) from the call number `attempt` on, with
    `remaining` calls left and the next pause `delay`. -/
def retryFrom (call : ℕ → Except Exn Json) : ℕ → ℕ → Exn → ℚ → RetryOutcome
  | 0, _, lastExc, _ => { result := .error lastExc, calls := 0, sleeps := [] }
  | remaining + 1, attempt, _, delay =>
    match call attempt with
    | .ok answer => { result := .ok answer, calls := 1, sleeps := [] }
    | .error exn =>
      -- no pause after the last allowed attempt
      if remaining = 0 then { result := .error exn, calls := 1, sleeps := [] }
      -- the exception of `time.sleep` leaves the handler, and with it the loop
      else if delay < 0 then { result := .error negativeSleep, calls := 1, sleeps := [] }
      else
        let out := retryFrom call remaining (attempt + 1) exn (delay * 2)
        { out with calls := out.calls + 1, sleeps := delay :: out.sleeps }

/-- `_retry(call)` with `attempts` attempts; with none, `raise last_exc` raises
    `None`, a `TypeError`. -/
def retry (call : ℕ → Except Exn Json) (attempts : ℕ) (baseDelay : ℚ) : RetryOutcome :=
  retryFrom call attempts 0 .typeError baseDelay

/-! ## `run_once` -/

/-- The status that an answer demands, when it is not the loaded one
    (lines 56–59). -/
def statusChange (loaded : Subscription) (answer : Json) : List (Uuid × SubscriptionStatus) :=
  let status := fromStripeStatus (answer.getAttr "status")
  if loaded.status ≠ status then [(loaded.id, status)] else []

/-- A change is recorded under the key of its row. -/
theorem statusChange_fst {loaded : Subscription} {answer : Json} {p : Uuid × SubscriptionStatus}
    (h : p ∈ statusChange loaded answer) : p.1 = loaded.id := by
  simp only [statusChange] at h
  split_ifs at h
  · rw [List.mem_singleton.mp h]
  · cases h

/-- What is to be written for a row once there is an answer. -/
theorem statusChange_lookup {loaded : Subscription} {answer : Json} :
    (statusChange loaded answer).lookup loaded.id =
      if fromStripeStatus (answer.getAttr "status") = loaded.status then none
      else some (fromStripeStatus (answer.getAttr "status")) := by
  simp only [statusChange, ne_eq, eq_comm (a := loaded.status)]
  split_ifs <;> simp_all

/-- What the job writes for a row that it has loaded, after the retries about it; an
    exception is logged. -/
def changesOf (loaded : Subscription) (outcome : RetryOutcome) : List (Uuid × SubscriptionStatus) :=
  match outcome.result with
  | .ok answer => statusChange loaded answer
  | .error _ => []

/-- The rows that got a new status. -/
def changes (asked : List (Subscription × RetryOutcome)) : List (Uuid × SubscriptionStatus) :=
  asked.flatMap fun p => changesOf p.1 p.2

section Loop

variable (retrieve : String → ℕ → Except Exn Json) (attempts : ℕ) (baseDelay : ℚ)

/-- The retries about one row (lines 51–55). -/
def ask (loaded : Subscription) : RetryOutcome :=
  retry (retrieve (loaded.stripeSubscriptionId.getD "")) attempts baseDelay

/-- The loop of lines 49–65 over the loaded rows. -/
def askAll (rows : List Subscription) : List (Subscription × RetryOutcome) :=
  rows.map fun loaded => (loaded, ask retrieve attempts baseDelay loaded)

/-- The rows that get a new status in the loop. -/
def changedRows (rows : List Subscription) : List (Uuid × SubscriptionStatus) :=
  changes (askAll retrieve attempts baseDelay rows)

theorem changedRows_eq_flatMap (rows : List Subscription) :
    changedRows retrieve attempts baseDelay rows =
      rows.flatMap fun loaded => changesOf loaded (ask retrieve attempts baseDelay loaded) :=
  List.flatMap_map ..

theorem changedRows_concat (rows : List Subscription) (loaded : Subscription) :
    changedRows retrieve attempts baseDelay (rows ++ [loaded]) =
      changedRows retrieve attempts baseDelay rows ++
        changesOf loaded (ask retrieve attempts baseDelay loaded) := by
  simp only [changedRows_eq_flatMap, List.flatMap_append, List.flatMap_singleton]

end Loop

/-- One `UPDATE subscriptions SET status = … WHERE id = …` for each changed row. -/
def applyStatuses (changed : List (Uuid × SubscriptionStatus)) (subscriptions : List Subscription) :
    List Subscription :=
  subscriptions.map fun s =>
    match changed.lookup s.id with
    | some status => { s with status := status }
    | none => s

/-- `self._db.commit()` of line 67. -/
def commitStatuses (db : Database) (changed : List (Uuid × SubscriptionStatus)) :
    Except Exn Database :=
  commit { db.toTables with subscriptions := applyStatuses changed db.subscriptions }

/-- What a call of `run_once` did: the loaded rows with the retries about them, the
    database that it left, and its result. -/
structure JobRun where
  asked : List (Subscription × RetryOutcome)
  db : Database
  synced : Except Exn ℕ

/-- `run_once()` with a record of its calls and pauses; there is no `retrieve` when the
    service has no Stripe client. -/
def recordedRun (retrieve : Option (String → ℕ → Except Exn Json)) (attempts : ℕ) (baseDelay : ℚ)
    (db : Database) : JobRun :=
  match retrieve with
  | none => { asked := [], db := db, synced := .ok 0 }
  | some retrieve =>
    let subscriptions := SubscriptionRepository.getAllWithStripeId db
    let asked := askAll retrieve attempts baseDelay subscriptions
    let changed := changes asked
    match commitStatuses db changed with
    | .ok db' => { asked := asked, db := db', synced := .ok changed.length }
    | .error exn => { asked := asked, db := db, synced := .error exn }

/-- `run_once()` -/
def runOnce (retrieve : Option (String → ℕ → Except Exn Json)) (attempts : ℕ) (baseDelay : ℚ)
    (db : Database) : Database × Except Exn ℕ :=
  let run := recordedRun retrieve attempts baseDelay db
  (run.db, run.synced)

end ReconciliationService

/-! ## The database and Stripe steps -/

open ReconciliationService

/-- Where a call of `run_once` is. -/
inductive JobPc where
  | load
  | retrieve (loaded : Subscription) (rest : List Subscription) (attempt : ℕ)
      (changed : List (Uuid × SubscriptionStatus))
  | commit (changed : List (Uuid × SubscriptionStatus))
  | done (synced : Except Exn ℕ)
deriving DecidableEq

/-- Go on with the next loaded row. Without attempts no row is asked about. -/
def JobPc.nextRow (attempts : ℕ) (changed : List (Uuid × SubscriptionStatus)) :
    List Subscription → JobPc
  | [] => .commit changed
  | loaded :: rest => if attempts = 0 then .commit changed else .retrieve loaded rest 0 changed

/-- One database query or Stripe call of `run_once`, up to the next one;
    `answer` is the outcome of the Stripe call. -/
def jobStep (attempts : ℕ) (answer : Except Exn Json) (db : Database) :
    JobPc → Option (Database × JobPc)
  | .load => some (db, .nextRow attempts [] (SubscriptionRepository.getAllWithStripeId db))
  | .retrieve loaded rest attempt changed =>
    match answer with
    | .ok object => some (db, .nextRow attempts (changed ++ statusChange loaded object) rest)
    | .error _ =>
      if attempt + 1 < attempts then some (db, .retrieve loaded rest (attempt + 1) changed)
      else some (db, .nextRow attempts changed rest)
  | .commit changed =>
    match commitStatuses db changed with
    | .ok db' => some (db', .done (.ok changed.length))
    | .error exn => some (db, .done (.error exn))
  | .done _ => none

/-- The answer that Stripe gives at a point of the job. -/
def JobPc.answer (retrieve : String → ℕ → Except Exn Json) : JobPc → Except Exn Json
  | .retrieve loaded _ attempt _ => retrieve (loaded.stripeSubscriptionId.getD "") attempt
  | _ => .ok .null

/-- The next step of a run on an otherwise idle database. -/
def jobNext (retrieve : String → ℕ → Except Exn Json) (attempts : ℕ) (c : Database × JobPc)
    (_ : Unit) : Option (Database × JobPc) :=
  jobStep attempts (c.2.answer retrieve) c.1 c.2

/-! ### The final commit -/

/-- The row that a row becomes. -/
theorem ReconciliationService.applyStatuses_eq_map (changed : List (Uuid × SubscriptionStatus))
    (l : List Subscription) :
    applyStatuses changed l =
      l.map fun s => { s with status := (changed.lookup s.id).getD s.status } := by
  refine List.map_congr_left fun s _ => ?_
  cases changed.lookup s.id <;> rfl

theorem ReconciliationService.applyStatuses_nil (l : List Subscription) :
    applyStatuses [] l = l := by
  simp [applyStatuses]

/-- Only statuses change, so every constraint still holds. -/
theorem ReconciliationService.commitStatuses_eq_ok (db : Database)
    (changed : List (Uuid × SubscriptionStatus)) :
    ∃ db', commitStatuses db changed = .ok db' ∧
      db'.toTables = { db.toTables with
        subscriptions := applyStatuses changed db.subscriptions } := by
  have hfits : { db.toTables with subscriptions := applyStatuses changed db.subscriptions }.Fits :=
    ⟨db.fits.tenants, db.fits.plans, db.fits.usageEvents, db.fits.invoices⟩
  have hcons := db.constraints.mapSubscriptions
    (f := fun s => { s with status := (changed.lookup s.id).getD s.status })
    (fun s _ => ⟨rfl, rfl, rfl⟩) (fun s hs => db.constraints.subscriptions_plan_fkey s hs)
  rw [← applyStatuses_eq_map] at hcons
  obtain ⟨db', hdb'⟩ := commit_isOk_iff.mpr ⟨hfits, hcons⟩
  exact ⟨db', hdb', commit_eq_ok.mp hdb'⟩

/-- A run whose commit leaves `db'`. -/
theorem ReconciliationService.runOnce_of_commit {retrieve : String → ℕ → Except Exn Json}
    {attempts : ℕ} {baseDelay : ℚ} {db db' : Database}
    (h : commitStatuses db (changedRows retrieve attempts baseDelay
      (SubscriptionRepository.getAllWithStripeId db)) = .ok db') :
    runOnce (some retrieve) attempts baseDelay db =
      (db', .ok (changedRows retrieve attempts baseDelay
        (SubscriptionRepository.getAllWithStripeId db)).length) := by
  rw [changedRows] at h
  simp only [runOnce, recordedRun, h]
  rfl

/-- **Effect of one run.** The changed statuses are written; without a client
    nothing is. -/
theorem ReconciliationService.runOnce_effect
    (retrieve : Option (String → ℕ → Except Exn Json)) (attempts : ℕ) (baseDelay : ℚ)
    (db : Database) :
    ∃ changed, (runOnce retrieve attempts baseDelay db).1.toTables = { db.toTables with
      subscriptions := applyStatuses changed db.subscriptions } := by
  cases retrieve with
  | none => exact ⟨[], by simp [runOnce, recordedRun, applyStatuses_nil]⟩
  | some retrieve =>
    obtain ⟨db', hok, ht⟩ := commitStatuses_eq_ok db
      (changedRows retrieve attempts baseDelay (SubscriptionRepository.getAllWithStripeId db))
    exact ⟨_, by rw [runOnce_of_commit hok]; exact ht⟩

namespace ReconciliationService

section Rows

variable (retrieve : String → ℕ → Except Exn Json) (attempts : ℕ) (baseDelay : ℚ)

/-- The answer that the job gets about a row, if the row is linked and a call succeeds. -/
def answerFor (row : Subscription) : Option Json :=
  row.stripeSubscriptionId.bind fun stripeId =>
    (retry (retrieve stripeId) attempts baseDelay).result.toOption

/-- The status that the job leaves a row with. -/
def syncedStatus (row : Subscription) : SubscriptionStatus :=
  match answerFor retrieve attempts baseDelay row with
  | some answer => fromStripeStatus (answer.getAttr "status")
  | none => row.status

/-- What the job makes of a row. -/
def syncedRow (row : Subscription) : Subscription :=
  { row with status := syncedStatus retrieve attempts baseDelay row }

variable {retrieve attempts baseDelay}

theorem changesOf_fst {loaded : Subscription} {outcome : RetryOutcome} :
    ∀ p ∈ changesOf loaded outcome, p.1 = loaded.id := by
  intro p hp
  unfold changesOf at hp
  split at hp
  · exact statusChange_fst hp
  · cases hp

theorem lookup_changesOf {loaded : Subscription} (h : loaded.stripeSubscriptionId.isSome) :
    ((changesOf loaded (ask retrieve attempts baseDelay loaded)).lookup loaded.id).getD
      loaded.status = syncedStatus retrieve attempts baseDelay loaded := by
  obtain ⟨stripeId, hs⟩ := Option.isSome_iff_exists.mp h
  unfold changesOf syncedStatus answerFor ask
  rw [hs, Option.getD_some, Option.bind_some]
  cases (retry (retrieve stripeId) attempts baseDelay).result with
  | error exn => rfl
  | ok answer =>
    simp only [Except.toOption, statusChange_lookup]
    split_ifs with hsame
    · exact hsame.symm
    · rfl

variable (db : Database)

/-- A linked row is loaded, and no other row is. -/
theorem lookup_changedRows {row : Subscription} (hrow : row ∈ db.subscriptions) :
    (changedRows retrieve attempts baseDelay
      (SubscriptionRepository.getAllWithStripeId db)).lookup row.id =
      if row.stripeSubscriptionId.isSome then
        (changesOf row (ask retrieve attempts baseDelay row)).lookup row.id
      else none := by
  have hloaded : ∀ r, r ∈ SubscriptionRepository.getAllWithStripeId db ↔
      r ∈ db.subscriptions ∧ r.stripeSubscriptionId.isSome := fun r => by
    simp [SubscriptionRepository.getAllWithStripeId]
  have hu : ((SubscriptionRepository.getAllWithStripeId db).map Subscription.id).Nodup :=
    db.constraints.subscriptions_pkey.sublist (List.filter_sublist.map _)
  rw [changedRows_eq_flatMap]
  split_ifs with hs
  · exact Rows.lookup_flatMap_of_unique (fun _ => changesOf_fst) hu ((hloaded row).mpr ⟨hrow, hs⟩)
  · rw [List.lookup_eq_none_iff]
    intro p hp
    obtain ⟨r, hr, hp⟩ := List.mem_flatMap.mp hp
    rw [changesOf_fst p hp]
    -- a linked row with the same key would be this row
    have hne : row.id ≠ r.id := by
      intro heq
      have hmem := (hloaded r).mp hr
      have : row = r := Rows.eq_of_unique db.constraints.subscriptions_pkey hrow hmem.1 heq
      exact hs (this ▸ hmem.2)
    simpa using hne

/-- **What one run makes of the rows.** -/
theorem runOnce_rows :
    (runOnce (some retrieve) attempts baseDelay db).1.toTables = { db.toTables with
      subscriptions := db.subscriptions.map (syncedRow retrieve attempts baseDelay) } := by
  obtain ⟨db', hok, ht⟩ := commitStatuses_eq_ok db
    (changedRows retrieve attempts baseDelay (SubscriptionRepository.getAllWithStripeId db))
  have hmap : applyStatuses (changedRows retrieve attempts baseDelay
      (SubscriptionRepository.getAllWithStripeId db)) db.subscriptions =
      db.subscriptions.map (syncedRow retrieve attempts baseDelay) := by
    rw [applyStatuses_eq_map]
    refine List.map_congr_left fun row hrow => ?_
    rw [lookup_changedRows db hrow, syncedRow]
    split_ifs with hs
    · rw [lookup_changesOf hs]
    · rw [Option.not_isSome_iff_eq_none] at hs
      simp only [syncedStatus, answerFor, hs, Option.bind_none, Option.getD_none]
  rw [runOnce_of_commit hok, ht, hmap]

end Rows

end ReconciliationService

/-! ### An uninterrupted run -/

section Steps

variable (retrieve : String → ℕ → Except Exn Json) (attempts : ℕ) (baseDelay : ℚ) (db : Database)

open Runs

/-- The calls that `_retry` is allowed in effect: with a negative delay the first one that
    fails is the last. -/
def allowedCalls : ℕ := if baseDelay < 0 then min attempts 1 else attempts

/-- The retries of one row end with what `_retry` returns. -/
theorem jobNext_retry (loaded : Subscription) (rest : List Subscription)
    (changed : List (Uuid × SubscriptionStatus)) (remaining : ℕ) :
    ∀ (attempt : ℕ) (lastExc : Exn) (delay : ℚ), 0 ≤ delay → attempt + (remaining + 1) = attempts →
    Run (jobNext retrieve attempts) Always (db, .retrieve loaded rest attempt changed)
      (db, .nextRow attempts (changed ++ changesOf loaded
        (retryFrom (retrieve (loaded.stripeSubscriptionId.getD "")) (remaining + 1) attempt
          lastExc delay)) rest) := by
  induction remaining with
  | zero =>
    intro attempt lastExc delay hdelay hatt
    refine Run.single (a := ()) trivial ?_
    cases hcall : retrieve (loaded.stripeSubscriptionId.getD "") attempt with
    | ok answer => simp [jobNext, jobStep, JobPc.answer, retryFrom, changesOf, hcall]
    | error exn =>
      have hlast : ¬ attempt + 1 < attempts := by omega
      simp [jobNext, jobStep, JobPc.answer, retryFrom, changesOf, hcall, hlast]
  | succ remaining ih =>
    intro attempt lastExc delay hdelay hatt
    cases hcall : retrieve (loaded.stripeSubscriptionId.getD "") attempt with
    | ok answer =>
      refine Run.single (a := ()) trivial ?_
      simp [jobNext, jobStep, JobPc.answer, retryFrom, changesOf, hcall]
    | error exn =>
      have hnext : jobNext retrieve attempts (db, .retrieve loaded rest attempt changed) () =
          some (db, .retrieve loaded rest (attempt + 1) changed) := by
        simp [jobNext, jobStep, JobPc.answer, hcall, show attempt + 1 < attempts by omega]
      have htail := ih (attempt + 1) exn (delay * 2) (by positivity) (by omega)
      have hresult : changesOf loaded (retryFrom (retrieve (loaded.stripeSubscriptionId.getD ""))
          (remaining + 1 + 1) attempt lastExc delay) =
          changesOf loaded (retryFrom (retrieve (loaded.stripeSubscriptionId.getD ""))
            (remaining + 1) (attempt + 1) exn (delay * 2)) := by
        rw [retryFrom, hcall]
        simp only [Nat.succ_ne_zero, if_false, hdelay.not_gt]
        rfl
      rw [hresult]
      exact (Run.single trivial hnext).trans htail

/-- With a negative delay the retries end as with one allowed call. -/
theorem changesOf_ask_of_neg (h : baseDelay < 0) (loaded : Subscription) :
    changesOf loaded (ask retrieve attempts baseDelay loaded) =
      changesOf loaded (ask retrieve (min attempts 1) 0 loaded) := by
  cases attempts with
  | zero => rfl
  | succ remaining =>
    rw [Nat.min_eq_right (Nat.succ_le_succ (Nat.zero_le remaining))]
    simp only [changesOf, ask, retry, retryFrom]
    cases retrieve (loaded.stripeSubscriptionId.getD "") 0 with
    | ok answer => rfl
    | error exn => split_ifs <;> rfl

/-- The run asks about every row as with the allowed calls and no delay. -/
theorem changedRows_allowedCalls (rows : List Subscription) :
    changedRows retrieve attempts baseDelay rows =
      changedRows retrieve (allowedCalls attempts baseDelay) (max baseDelay 0) rows := by
  by_cases h : baseDelay < 0
  · rw [allowedCalls, if_pos h, max_eq_right h.le, changedRows_eq_flatMap, changedRows_eq_flatMap]
    simp only [changesOf_ask_of_neg retrieve attempts baseDelay h]
  · rw [allowedCalls, if_neg h, max_eq_left (not_lt.mp h)]

/-- The loop over the loaded rows. -/
theorem jobNext_rows (hdelay : 0 ≤ baseDelay) (rows : List Subscription) :
    ∀ changed : List (Uuid × SubscriptionStatus),
    Run (jobNext retrieve attempts) Always (db, .nextRow attempts changed rows)
      (db, .commit (changed ++ changedRows retrieve attempts baseDelay rows)) := by
  induction rows with
  | nil => intro changed; simpa [JobPc.nextRow, changedRows_eq_flatMap] using Run.refl
  | cons loaded rest ih =>
    intro changed
    cases attempts with
    | zero =>
      have : changedRows retrieve 0 baseDelay (loaded :: rest) = [] := by
        simp [changedRows_eq_flatMap, changesOf, ask, retry, retryFrom]
      rw [this, List.append_nil]
      exact Run.refl
    | succ remaining =>
      have hretry := jobNext_retry retrieve (remaining + 1) db loaded rest changed remaining 0
        .typeError baseDelay hdelay (Nat.zero_add _)
      have hrest := hretry.trans (ih _)
      simpa [JobPc.nextRow, changedRows_eq_flatMap, ask, retry, List.flatMap_cons] using hrest

/-- **The steps are the method.** -/
theorem jobNext_run :
    Run (jobNext retrieve (allowedCalls attempts baseDelay)) Always (db, .load)
      (let r := runOnce (some retrieve) attempts baseDelay db
       (r.1, .done r.2)) := by
  have hload : jobNext retrieve (allowedCalls attempts baseDelay) (db, .load) () =
      some (db, .nextRow (allowedCalls attempts baseDelay) []
        (SubscriptionRepository.getAllWithStripeId db)) := rfl
  have hrows := jobNext_rows retrieve (allowedCalls attempts baseDelay) (max baseDelay 0) db
    (le_max_right _ _) (SubscriptionRepository.getAllWithStripeId db) []
  rw [← changedRows_allowedCalls] at hrows
  refine (Run.single trivial hload).trans (hrows.trans (Run.single (a := ()) trivial ?_))
  obtain ⟨db', hdb', -⟩ := commitStatuses_eq_ok db (changedRows retrieve attempts baseDelay
    (SubscriptionRepository.getAllWithStripeId db))
  simp [jobNext, jobStep, runOnce_of_commit hdb', hdb']

end Steps

/-! ## What one step does -/

variable {attempts : ℕ} {answer : Except Exn Json} {db db' : Database} {pc pc' : JobPc}

/-- **Effect of one step on the database.** Nothing, unless it is the final
    commit: then the changed statuses are written. -/
theorem jobStep_effect (h : jobStep attempts answer db pc = some (db', pc')) :
    (db' = db ∧ ∀ changed, pc ≠ .commit changed) ∨
      ∃ changed, pc = .commit changed ∧ pc' = .done (.ok changed.length) ∧
        db'.toTables = { db.toTables with
          subscriptions := applyStatuses changed db.subscriptions } := by
  cases pc with
  | load => cases h; simp
  | retrieve loaded rest attempt changed =>
    simp only [jobStep] at h
    split at h
    · cases h; simp
    · split_ifs at h <;> cases h <;> simp
  | commit changed =>
    obtain ⟨db₁, hok, ht⟩ := commitStatuses_eq_ok db changed
    simp only [jobStep, hok] at h
    cases h
    exact .inr ⟨changed, rfl, rfl, ht⟩
  | done synced => simp [jobStep] at h

/-- No step touches another table or the key of a subscription. -/
theorem jobStep_other (h : jobStep attempts answer db pc = some (db', pc')) :
    db'.toTables = { db.toTables with subscriptions := db'.subscriptions } ∧
      db'.subscriptions.map Subscription.id = db.subscriptions.map Subscription.id := by
  rcases jobStep_effect h with ⟨rfl, -⟩ | ⟨changed, -, -, ht⟩
  · exact ⟨rfl, rfl⟩
  · rw [ht]; simp [applyStatuses_eq_map, Function.comp_def]

end BillingEngine
