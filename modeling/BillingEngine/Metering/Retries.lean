import BillingEngine.System.Concurrent

/-!
# Concurrent retries

Any number of calls carry the same request, and so the same key. The first
commit is the record, and every other call should answer with it. A retry that
has missed the record in its key lookup still does the quota check, though, and
when the record is in the total by then, the check counts the request twice.
`RoomTwice` is the condition on one step under which this does no harm. The other
way to go wrong is a month end: a call that reads the total of a full month is
refused, while one that reads that of the next month is recorded. `SameVerdict`
excludes it.

The invariant has two phases. Until the key is stored, nothing is, so all calls
see the same total, and a call that was refused shows that none can be accepted
(`Mirrors`, first case). From then on each call that is past its lookup is one
that the quota lets through, and a call that has ended has returned the record
(second case).

Results:
* `sameVerdict_of_sameMonth`: within one month every step meets `SameVerdict`.
* `retries_mirror_of_roomTwice`: in every run whose steps all meet `SameVerdict`
  and `RoomTwice`, once the request is recorded every call that has ended has
  returned the record, and every other call can go on.
* `retry_refused`: a retry that reads the total after the record gets a 429.
-/

namespace BillingEngine

open Runs Interleaving UsageRepository SubscriptionRepository

namespace Retries

/-- The quota check for a request would pass at this moment. -/
def withinQuota (usage : UsageRequest) (now : DateTime) (db : Database)
    (subscription : Subscription) : Bool :=
  match monthBounds now, planOf db subscription with
  | .ok (periodStart, periodEnd), some plan =>
    decide (getTotalByType db usage.subscriptionId usage.usageType (some periodStart)
      (some periodEnd) + usage.quantity ≤ UsageService.limitFor plan usage.usageType)
  | _, _ => false

/-- The quota check of a call that is about to read the total would pass. -/
def findsRoom (usage : UsageRequest) (now : DateTime) (db : Database) : Session → Bool
  | .recordUsage _ (.readTotal subscription) => withinQuota usage now db subscription
  | _ => true

/-- When a call reads the total after its request has been recorded, the quota
    has room for the request a second time. -/
def RoomTwice {ι : Type*} (usage : UsageRequest) (c : System ι) (a : ι × Input) : Prop :=
  getByIdempotencyKey c.shared usage.idempotencyKey = none ∨
    findsRoom usage a.2.now c.shared (c.locals a.1) = true

instance {ι : Type*} (usage : UsageRequest) (c : System ι) (a : ι × Input) :
    Decidable (RoomTwice usage c a) :=
  inferInstanceAs (Decidable (_ ∨ _))

/-- The quota check of a call that is about to read the total comes out as it
    would at `ref`. -/
def checksAs (usage : UsageRequest) (now ref : DateTime) (db : Database) : Session → Bool
  | .recordUsage _ (.readTotal subscription) =>
    withinQuota usage now db subscription == withinQuota usage ref db subscription
  | _ => true

/-- When a call reads the total before the record, the quota check comes out for it
    as it would at `ref`. -/
def SameVerdict {ι : Type*} (usage : UsageRequest) (ref : DateTime) (c : System ι)
    (a : ι × Input) : Prop :=
  getByIdempotencyKey c.shared usage.idempotencyKey ≠ none ∨
    checksAs usage a.2.now ref c.shared (c.locals a.1) = true

instance {ι : Type*} (usage : UsageRequest) (ref : DateTime) (c : System ι) (a : ι × Input) :
    Decidable (SameVerdict usage ref c a) :=
  inferInstanceAs (Decidable (_ ∨ _))

/-- The clock is in the month of `ref`. -/
def SameMonth {ι : Type*} (ref : DateTime) (_ : System ι) (a : ι × Input) : Prop :=
  a.2.now.year = ref.year ∧ a.2.now.month = ref.month

instance {ι : Type*} (ref : DateTime) (c : System ι) (a : ι × Input) :
    Decidable (SameMonth ref c a) :=
  inferInstanceAs (Decidable (_ ∧ _))

/-- Within one month the quota check has one outcome until the record. -/
theorem sameVerdict_of_sameMonth {ι : Type*} {usage : UsageRequest} {ref : DateTime}
    {c : System ι} {a : ι × Input} (h : SameMonth ref c a) : SameVerdict usage ref c a := by
  right
  unfold checksAs
  split
  · rw [beq_iff_eq, withinQuota, withinQuota, monthBounds_congr h.1 h.2]
  · rfl

/-- The row is the request's subscription and is `ACTIVE`. -/
def Servable (usage : UsageRequest) (db : Database) (subscription : Subscription) : Prop :=
  getById db usage.subscriptionId = some subscription ∧ subscription.status = .active

/-- The columns of the event have the range of the request's numbers. -/
def ColumnsFit (usage : UsageRequest) : Prop := ∀ id now, (newEvent usage id now).Fits

/-- A call would be recorded. -/
def Accepted (usage : UsageRequest) (ref : DateTime) (db : Database) : Prop :=
  Storable usage.idempotencyKey ∧ ∃ subscription, Servable usage db subscription ∧
    withinQuota usage ref db subscription = true ∧ ColumnsFit usage

/-- What each call knows at its current point, before and after the record. -/
def Mirrors (usage : UsageRequest) (ref : DateTime) (db : Database) (pc : RecordPc) : Prop :=
  match getByIdempotencyKey db usage.idempotencyKey with
  | none =>
    match pc with
    | .lookupKey => True
    | .readSubscription => Storable usage.idempotencyKey
    | .readTotal subscription => Storable usage.idempotencyKey ∧ Servable usage db subscription
    | .readPlan subscription currentUsage => Storable usage.idempotencyKey ∧
        Servable usage db subscription ∧
        ∀ plan ∈ planOf db subscription, withinQuota usage ref db subscription =
          decide (currentUsage + usage.quantity ≤ UsageService.limitFor plan usage.usageType)
    | .insert => Storable usage.idempotencyKey ∧ ∃ subscription, Servable usage db subscription ∧
        withinQuota usage ref db subscription = true
    | .reread => False
    | .done _ => ¬ Accepted usage ref db
  | some e =>
    match pc with
    | .lookupKey => True
    | .readSubscription | .insert | .reread =>
      (∃ subscription, Servable usage db subscription) ∧ ColumnsFit usage
    | .readTotal subscription => Servable usage db subscription ∧ ColumnsFit usage
    | .readPlan subscription currentUsage => Servable usage db subscription ∧ ColumnsFit usage ∧
        ∀ plan ∈ planOf db subscription,
          currentUsage + usage.quantity ≤ UsageService.limitFor plan usage.usageType
    | .done result => result = .ok (some e)

variable {usage : UsageRequest} {ref now : DateTime} {id : Uuid} {db db' : Database}
  {pc pc' : RecordPc} {e : UsageEvent}

/-! ## One call -/

/-- The plan of a servable subscription exists. -/
theorem planOf_servable {subscription : Subscription} (h : Servable usage db subscription) :
    ∃ plan, planOf db subscription = some plan :=
  planOf_isSome (getById_eq_some_iff.mp h.1).1

/-- A step before the record that does not store it. -/
theorem mirrors_unrecorded (hk : getByIdempotencyKey db usage.idempotencyKey = none)
    (hid : id ∉ db.usageEvents.map UsageEvent.id)
    (hverdict : ∀ subscription, pc = .readTotal subscription →
      withinQuota usage now db subscription = withinQuota usage ref db subscription)
    (hpc : Mirrors usage ref db pc) (h : recordStep usage now id db pc = some (db, pc')) :
    Mirrors usage ref db pc' := by
  simp only [Mirrors, hk] at hpc ⊢
  cases pc with
  | lookupKey =>
    by_cases hstorable : Storable usage.idempotencyKey
    · rw [recordStep_lookupKey_none hstorable hk] at h
      cases h
      exact hstorable
    · rw [recordStep_lookupKey_not_storable hstorable hk] at h
      cases h
      exact fun haccepted => hstorable haccepted.1
  | readSubscription =>
    cases hsub : getById db usage.subscriptionId with
    | none =>
      rw [recordStep_readSubscription_none hsub] at h
      cases h
      rintro ⟨-, subscription, ⟨hfound, -⟩, -⟩
      rw [hsub] at hfound; cases hfound
    | some subscription =>
      by_cases hact : subscription.status = .active
      · rw [recordStep_readSubscription_active hsub hact] at h
        cases h
        exact ⟨hpc, hsub, hact⟩
      · rw [recordStep_readSubscription_inactive hsub hact] at h
        cases h
        rintro ⟨-, subscription', ⟨hfound, hact'⟩, -⟩
        rw [hsub] at hfound; cases hfound
        exact hact hact'
  | readTotal subscription =>
    have hsame := hverdict subscription rfl
    cases hbounds : monthBounds now with
    | error exn =>
      rw [recordStep_readTotal_error hbounds] at h
      cases h
      rintro ⟨-, subscription', ⟨hfound, -⟩, hquota, -⟩
      rw [hpc.2.1] at hfound; cases hfound
      rw [← hsame, withinQuota, hbounds] at hquota
      cases hquota
    | ok bounds =>
      rw [recordStep_readTotal_ok hbounds] at h
      cases h
      refine ⟨hpc.1, hpc.2, fun plan hplan => ?_⟩
      rw [← hsame, withinQuota, hbounds, hplan]
  | readPlan subscription currentUsage =>
    obtain ⟨hstorable, hserv, hquota⟩ := hpc
    obtain ⟨plan, hplan⟩ := planOf_servable hserv
    by_cases hq : currentUsage + usage.quantity > UsageService.limitFor plan usage.usageType
    · rw [recordStep_readPlan_over hplan hq] at h
      cases h
      rintro ⟨-, subscription', ⟨hfound, -⟩, hquota', -⟩
      rw [hserv.1] at hfound; cases hfound
      rw [hquota plan hplan, decide_eq_true_eq] at hquota'
      exact hq.not_ge hquota'
    · rw [recordStep_readPlan_within hplan hq] at h
      cases h
      refine ⟨hstorable, subscription, hserv, ?_⟩
      rw [hquota plan hplan, decide_eq_true_eq]
      exact not_lt.mp hq
  | insert =>
    obtain ⟨-, subscription, hserv, -⟩ := hpc
    rcases insert_cases db (newEvent usage id now) with
      ⟨db₁, hins, ht, -⟩ | ⟨hins, -, hdup⟩ | ⟨hins, hfits⟩
    · rw [recordStep_insert_ok hins] at h
      cases h
      have hlen := congrArg (fun t : Tables => t.usageEvents.length) ht
      simp at hlen
    · -- the key is new, the primary key fresh and the subscription stored
      obtain ⟨hmem, hsid⟩ := getById_eq_some_iff.mp hserv.1
      rcases hdup with hpk | hkey | hfk
      · exact absurd hpk hid
      · exact absurd hkey (getByIdempotencyKey_eq_none_iff.mp hk)
      · exact absurd (List.mem_map.mpr ⟨subscription, hmem, hsid⟩) hfk
    · rw [recordStep_insert_dataError hins] at h
      cases h
      rintro ⟨-, -, -, -, hfit⟩
      exact hfits (hfit id now)
  | reread => exact hpc.elim
  | done result => simp at h

/-- A step after the record. -/
theorem mirrors_recorded (hk : getByIdempotencyKey db usage.idempotencyKey = some e)
    (hroom : ∀ subscription, pc = .readTotal subscription →
      withinQuota usage now db subscription = true)
    (hpc : Mirrors usage ref db pc) (h : recordStep usage now id db pc = some (db, pc')) :
    Mirrors usage ref db pc' := by
  simp only [Mirrors, hk] at hpc ⊢
  cases pc with
  | lookupKey => rw [recordStep_lookupKey_some hk] at h; cases h; rfl
  | readSubscription =>
    obtain ⟨⟨subscription, hserv⟩, hfit⟩ := hpc
    rw [recordStep_readSubscription_active hserv.1 hserv.2] at h
    cases h
    exact ⟨hserv, hfit⟩
  | readTotal subscription =>
    have hquota := hroom subscription rfl
    cases hbounds : monthBounds now with
    | error exn => simp [withinQuota, hbounds] at hquota
    | ok bounds =>
      rw [recordStep_readTotal_ok hbounds] at h
      cases h
      refine ⟨hpc.1, hpc.2, fun plan hplan => ?_⟩
      rw [withinQuota, hbounds, hplan] at hquota
      exact of_decide_eq_true hquota
  | readPlan subscription currentUsage =>
    obtain ⟨hserv, hfit, hquota⟩ := hpc
    obtain ⟨plan, hplan⟩ := planOf_servable hserv
    rw [recordStep_readPlan_within hplan (not_lt.mpr (hquota plan hplan))] at h
    cases h
    exact ⟨⟨subscription, hserv⟩, hfit⟩
  | insert =>
    rcases insert_cases db (newEvent usage id now) with
      ⟨db₁, hins, ht, -, hkey⟩ | ⟨hins, -⟩ | ⟨hins, hfits⟩
    · obtain ⟨hmem, hkey'⟩ := getByIdempotencyKey_eq_some_iff.mp hk
      exact absurd (List.mem_map.mpr ⟨e, hmem, hkey'⟩) hkey
    · rw [recordStep_insert_integrityError hins] at h
      cases h
      exact hpc
    · exact absurd (hpc.2 id now) hfits
  | reread => rw [recordStep_reread, hk] at h; cases h; rfl
  | done result => simp at h

/-- The step that stores the record keeps what every call knows. -/
theorem mirrors_record (hk : getByIdempotencyKey db usage.idempotencyKey = none)
    (ht : db'.toTables = { db.toTables with
      usageEvents := db.usageEvents ++ [newEvent usage id now] })
    (hfit : ColumnsFit usage) (hinsert : Mirrors usage ref db .insert)
    (hpc : Mirrors usage ref db pc) : Mirrors usage ref db' pc := by
  have hk' : getByIdempotencyKey db' usage.idempotencyKey = some (newEvent usage id now) :=
    getByIdempotencyKey_eq_some_iff.mpr ⟨by rw [ht]; simp, rfl⟩
  have hserv' : ∀ subscription, Servable usage db subscription →
      Servable usage db' subscription := by
    intro subscription h
    rwa [Servable, getById, ht]
  have hplan' : ∀ subscription, planOf db' subscription = planOf db subscription := by
    intro subscription
    rw [planOf, PlanRepository.getById, ht]; rfl
  simp only [Mirrors, hk] at hinsert hpc
  simp only [Mirrors, hk']
  obtain ⟨hstorable, subscription, hserv, hquota⟩ := hinsert
  cases pc with
  | lookupKey => trivial
  | readSubscription => exact ⟨⟨subscription, hserv' _ hserv⟩, hfit⟩
  | readTotal loaded => exact ⟨hserv' _ hpc.2, hfit⟩
  | readPlan loaded currentUsage =>
    obtain ⟨-, hservLoaded, hsame⟩ := hpc
    refine ⟨hserv' _ hservLoaded, hfit, fun plan hplan => ?_⟩
    -- both calls have loaded the same row and read the same total
    have hloaded : loaded = subscription := by
      have := hservLoaded.1
      rw [hserv.1] at this
      exact (Option.some.inj this).symm
    rw [hplan'] at hplan
    have heq := hsame plan hplan
    rw [hloaded, hquota] at heq
    exact of_decide_eq_true heq.symm
  | insert => exact ⟨⟨subscription, hserv' _ hserv⟩, hfit⟩
  | reread => exact hpc.elim
  | done result => exact absurd ⟨hstorable, subscription, hserv, hquota, hfit⟩ hpc

/-! ## All calls -/

variable {ι : Type*} [DecidableEq ι] {driver : Driver} {c₀ c : System ι}

/-- What a retry is about to do is known at every point of a run. -/
theorem run_mirrors (hstart : ∀ i, c₀.locals i = .recordUsage usage .lookupKey)
    (hrun : Run (System.next driver)
      (fun c a => FreshIds c a ∧ SameVerdict usage ref c a ∧ RoomTwice usage c a) c₀ c) (i : ι) :
    ∃ pc, c.locals i = .recordUsage usage pc ∧ Mirrors usage ref c.shared pc := by
  refine (Interleaving.Run.assertions (G := fun _ => True)
    (L := fun _ db s => ∃ pc, s = .recordUsage usage pc ∧ Mirrors usage ref db pc)
    ?_ hrun trivial ?_).2 i
  · rintro c i input db' s' - hL ⟨hfresh, hverdict, hroom⟩ hstep
    obtain ⟨pc, hpc, hknows⟩ := hL i
    rw [hpc] at hstep
    obtain ⟨pc', hrecord, rfl⟩ := Session.step_recordUsage.mp hstep
    rcases recordStep_effect hrecord with rfl | ⟨rfl, hins, ht, rfl⟩
    · refine ⟨trivial, ⟨pc', rfl, ?_⟩, fun j _ => hL j⟩
      cases hk : getByIdempotencyKey c.shared usage.idempotencyKey with
      | none =>
        refine mirrors_unrecorded hk hfresh.usageEvents ?_ hknows hrecord
        rintro subscription rfl
        rcases hverdict with hsome | hchecks
        · exact absurd hk hsome
        · rwa [hpc, checksAs, beq_iff_eq] at hchecks
      | some e =>
        refine mirrors_recorded hk ?_ hknows hrecord
        rintro subscription rfl
        rcases hroom with hnone | hfinds
        · rw [hk] at hnone; cases hnone
        · rwa [hpc] at hfinds
    · -- the insert has succeeded, so the key was not stored before
      rcases insert_cases c.shared (newEvent usage input.id input.now) with
        ⟨db₁, -, -, hfits, hkey⟩ | ⟨herr, -⟩ | ⟨herr, -⟩
      · have hk := getByIdempotencyKey_eq_none_iff.mpr hkey
        have hfit : ColumnsFit usage := fun _ _ => hfits
        have hk' : getByIdempotencyKey db' usage.idempotencyKey =
            some (newEvent usage input.id input.now) :=
          getByIdempotencyKey_eq_some_iff.mpr ⟨by rw [ht]; simp, rfl⟩
        refine ⟨trivial, ⟨_, rfl, by simp only [Mirrors, hk']⟩, fun j _ => ?_⟩
        obtain ⟨pcj, hpcj, hknowsj⟩ := hL j
        exact ⟨pcj, hpcj, mirrors_record hk ht hfit hknows hknowsj⟩
      · rw [hins] at herr; cases herr
      · rw [hins] at herr; cases herr
  · intro j
    refine ⟨.lookupKey, hstart j, ?_⟩
    unfold Mirrors
    split <;> trivial

/-- **Retries mirror the record.** Once the request is recorded, no call has
    ended otherwise than by returning the record, and the calls that have not
    ended yet come nearer to their end with every step. -/
theorem retries_mirror_of_roomTwice (hstart : ∀ i, c₀.locals i = .recordUsage usage .lookupKey)
    (hrun : Run (System.next driver)
      (fun c a => FreshIds c a ∧ SameVerdict usage ref c a ∧ RoomTwice usage c a) c₀ c)
    (hrecorded : getByIdempotencyKey c.shared usage.idempotencyKey = some e) (i : ι) :
    c.locals i = .recordUsage usage (.done (.ok (some e))) ∨
      ∃ pc, c.locals i = .recordUsage usage pc ∧ ∀ input, ∃ db' pc',
        Session.step driver input c.shared (c.locals i) = some (db', .recordUsage usage pc') ∧
          pc'.stepsLeft < pc.stepsLeft := by
  obtain ⟨pc, hpc, hknows⟩ := run_mirrors hstart hrun i
  by_cases hdone : ∃ result, pc = .done result
  · obtain ⟨result, rfl⟩ := hdone
    simp only [Mirrors, hrecorded] at hknows
    exact .inl (by rw [hpc, hknows])
  · refine .inr ⟨pc, hpc, fun input => ?_⟩
    obtain ⟨db', pc', hstep, hlt⟩ := recordStep_progress usage input.now input.id c.shared
      (fun result h => hdone ⟨result, h⟩)
    exact ⟨db', pc', by rw [hpc]; exact Session.step_recordUsage.mpr ⟨pc', hstep, rfl⟩, hlt⟩

/-- Four calls under one key: the sample quota has room for them twice. -/
def fourCalls : UsageRequest :=
  .usage { subscriptionId := ⟨3⟩, quantity := 4, idempotencyKey := "k", quantity_pos := by decide }

def raceOfFour : System Bool :=
  Sample.pair (.recordUsage fourCalls .lookupKey) (.recordUsage fourCalls .lookupKey)

/-- The retry passes the lookup before the commit, loses the insert and re-reads. -/
theorem retries_mirror_of_roomTwice_four_calls : ∃ c e,
    Run (System.next .stringsOnly) (fun c a => FreshIds c a ∧
      SameVerdict fourCalls Sample.july c a ∧ RoomTwice fourCalls c a) raceOfFour c ∧
    c.locals true = .recordUsage fourCalls (.done (.ok (some e))) := by
  have hrun := Run.of_execGuarded_isSome (show (execGuarded (System.next .stringsOnly)
    (fun c a => FreshIds c a ∧ SameVerdict fourCalls Sample.july c a ∧
      RoomTwice fourCalls c a) raceOfFour (Sample.schedule
        [false, true, false, false, false, false, true, true, true, true, true])).isSome by decide)
  have hstart : ∀ i, raceOfFour.locals i = .recordUsage fourCalls .lookupKey := by
    intro i; cases i <;> rfl
  refine ⟨_, _, hrun, (retries_mirror_of_roomTwice hstart hrun rfl true).resolve_right ?_⟩
  rintro ⟨pc, -, hprogress⟩
  obtain ⟨db', pc', hstep, -⟩ := hprogress (Sample.input 0)
  cases hstep

/-! ## A refused retry -/

/-- A call that reads a total without room for it is refused. -/
theorem refused_of_not_withinQuota {subscription : Subscription} {now' : DateTime} {id' : Uuid}
    (hquota : withinQuota usage now db subscription = false) (hplans : db'.plans = db.plans)
    (h : recordStep usage now id db (.readTotal subscription) = some (db, pc)) :
    ∃ exn, pc = .done (.error exn) ∨
      recordStep usage now' id' db' pc = some (db', .done (.error exn)) := by
  cases hbounds : monthBounds now with
  | error exn =>
    rw [recordStep_readTotal_error hbounds] at h
    cases h
    exact ⟨exn, .inl rfl⟩
  | ok bounds =>
    rw [recordStep_readTotal_ok hbounds] at h
    cases h
    have hplan' : planOf db' subscription = planOf db subscription := by
      rw [planOf, PlanRepository.getById, hplans]; rfl
    cases hplan : planOf db subscription with
    | none => exact ⟨_, .inr (recordStep_readPlan_none (hplan'.trans hplan))⟩
    | some plan =>
      rw [withinQuota, hbounds, hplan] at hquota
      have hover := not_le.mp (of_decide_eq_false hquota)
      exact ⟨_, .inr (recordStep_readPlan_over (hplan'.trans hplan) hover)⟩

def race : System Bool :=
  Sample.pair (.recordUsage (Sample.tenCalls "k") .lookupKey)
    (.recordUsage (Sample.tenCalls "k") .lookupKey)

/-- The retry passes the lookup before the commit and reads the total after it. -/
theorem retry_refused : (∀ i, race.locals i = .recordUsage (Sample.tenCalls "k") .lookupKey) ∧
    ∃ c, Run (System.next .stringsOnly)
        (fun c a => FreshIds c a ∧ SameMonth Sample.july c a) race c ∧
      (∃ e, getByIdempotencyKey c.shared "k" = some e) ∧
      c.locals true = .recordUsage (Sample.tenCalls "k")
        (.done (.error (UsageService.quotaExceeded (Sample.tenCalls "k") 10 10))) := by
  refine ⟨by intro i; cases i <;> rfl, ?_⟩
  have hrun := Run.of_execGuarded_isSome (show (execGuarded (System.next .stringsOnly)
    (fun c a => FreshIds c a ∧ SameMonth Sample.july c a) race
    (Sample.schedule [false, true, false, false, false, false, true, true, true])).isSome
      by decide)
  exact ⟨_, hrun, ⟨_, rfl⟩, rfl⟩

end Retries

end BillingEngine
