import BillingEngine.System.Serial

/-!
# The monthly quota over serial runs

`record_usage` takes the month of its total from one clock read and the
`created_at` of the event from a later one. When a month ends in between, the
quota that was checked is that of the month before. It is kept all the same: the
later month has no events yet, because no event lies in the future, and the
earlier total is not negative, so what was checked covers the new event alone.

Results:
* `run_chronicle`: in every reachable state no event lies in the future and none
  has a negative quantity.
* `monthly_quota`: after every insert the total of the event's own calendar
  month is within the limit of the plan that the call has read.
-/

namespace BillingEngine

open Runs Ledger UsageRepository SubscriptionRepository

/-- The events of a subscription and type in the calendar month of `t`. -/
def inMonthOf (subscriptionId : Uuid) (usageType : UsageType) (t : DateTime) (e : UsageEvent) :
    Bool :=
  decide (e.subscriptionId = subscriptionId) && decide (e.usageType = usageType) &&
    decide (e.createdAt.monthNumber = t.monthNumber)

/-- Their total quantity. -/
def monthTotal (db : Database) (subscriptionId : Uuid) (usageType : UsageType) (t : DateTime) : ℤ :=
  sumWhere (inMonthOf subscriptionId usageType t) UsageEvent.quantity db.usageEvents

namespace MonthlyQuota

variable {subscriptionId : Uuid} {usageType : UsageType} {t : DateTime} {e : UsageEvent}

theorem inMonthOf_iff : inMonthOf subscriptionId usageType t e = true ↔
    e.subscriptionId = subscriptionId ∧ e.usageType = usageType ∧
      e.createdAt.monthNumber = t.monthNumber := by
  simp [inMonthOf, and_assoc]

/-- Where `month_bounds` is defined, the total of the month is the sum that
    `record_usage` reads. -/
theorem monthTotal_eq_getTotalByType {db : Database} {start stop : DateTime}
    (h : monthBounds t = .ok (start, stop)) : monthTotal db subscriptionId usageType t =
      getTotalByType db subscriptionId usageType (some start) (some stop) := by
  refine sumWhere_congr_filter (List.filter_congr fun e _ => ?_)
  rw [Bool.eq_iff_iff, inMonthOf_iff, DateTime.monthNumber_eq_iff, ← mem_monthBounds_iff h]
  simp [countsTowardsType, countsTowards, and_left_comm]

/-- The total is that of the month, whichever of its instants is given. -/
theorem monthTotal_congr (db : Database) {t' : DateTime} (h : t.monthNumber = t'.monthNumber) :
    monthTotal db subscriptionId usageType t = monthTotal db subscriptionId usageType t' := by
  have hmonth : inMonthOf subscriptionId usageType t = inMonthOf subscriptionId usageType t' := by
    funext e; simp only [inMonthOf, h]
  rw [monthTotal, hmonth, ← monthTotal]

/-- One more event counts in its own month. -/
theorem monthTotal_concat {db db' : Database} {e : UsageEvent}
    (ht : db'.usageEvents = db.usageEvents ++ [e]) :
    monthTotal db' subscriptionId usageType t = monthTotal db subscriptionId usageType t +
      if inMonthOf subscriptionId usageType t e then e.quantity else 0 := by
  rw [monthTotal, ht, sumWhere_concat, ← monthTotal]

/-- Months follow each other in time. -/
theorem monthNumber_mono {a b : DateTime} (h : a ≤ b) : a.monthNumber ≤ b.monthNumber := by
  have hma := a.month_range
  have hmb := b.month_range
  have hda := a.day_range
  have hdb := b.day_range
  have ha31 := daysInMonth_le a.year a.month
  have hb31 := daysInMonth_le b.year b.month
  have hta := a.time_range
  have htb := b.time_range
  rw [DateTime.le_iff_ticks] at h
  simp only [DateTime.ticks] at h
  simp only [DateTime.monthNumber]
  omega

/-! ## No event lies in the future -/

/-- The events are in the past and count upwards. -/
def Chronicle (s : Serial) : Prop :=
  ∀ e ∈ s.db.usageEvents, 0 ≤ e.quantity ∧ e.createdAt ≤ s.clock

theorem chronicle_step {driver : Driver} {s s' : Serial} {op : Op} (hs : Chronicle s)
    (h : Serial.next driver s op = some s') : Chronicle s' := by
  obtain ⟨hclock, hdb⟩ := Serial.next_eq_some.mp h
  have hold : ∀ e ∈ s.db.usageEvents, 0 ≤ e.quantity ∧ e.createdAt ≤ s'.clock := fun e he =>
    (hs e he).imp_right fun hle => le_trans hle (Serial.clock_le_of_readClock hclock)
  unfold Chronicle
  rw [hdb]
  rcases Op.apply_cases driver s.db op with
    ⟨usage, t₁, t₂, id, rfl, hrec⟩ | ⟨_, _, _, _, _, -, hbilled⟩ | hkeep
  · rw [hrec.tables]
    intro e he
    rcases List.mem_append.mp he with he | he
    · exact hold e he
    · rw [List.mem_singleton.mp he]
      exact ⟨usage.quantity_nonneg, le_of_eq (Serial.readClock_pair hclock).2.2.symm⟩
  · rw [hbilled.tables]; exact hold
  · rw [hkeep.usageEvents]; exact hold

variable {driver : Driver} {t₀ : DateTime} {s s' : Serial}

theorem run_chronicle (hrun : Run (Serial.next driver) Always (Serial.initial t₀) s) :
    Chronicle s :=
  hrun.invariant (fun _ _ _ hs _ hnext => chronicle_step hs hnext)
    (by intro e he; simp [Serial.initial, Database.empty] at he)

/-! ## The quota -/

variable {usage : UsageRequest} {t₁ t₂ : DateTime} {id : Uuid}

/-- The total of the event's month is at most what the quota check has seen. -/
theorem monthTotal_le_checked {db db' : Database} {start stop : DateTime}
    (hpast : ∀ e ∈ db.usageEvents, 0 ≤ e.quantity ∧ e.createdAt ≤ t₁) (hclock : t₁ ≤ t₂)
    (hbounds : monthBounds t₁ = .ok (start, stop))
    (ht : db'.usageEvents = db.usageEvents ++ [newEvent usage id t₂]) :
    monthTotal db' usage.subscriptionId usage.usageType t₂ ≤
      getTotalByType db usage.subscriptionId usage.usageType (some start) (some stop) +
        usage.quantity := by
  have hcounts : inMonthOf usage.subscriptionId usage.usageType t₂ (newEvent usage id t₂) = true :=
    inMonthOf_iff.mpr ⟨rfl, rfl, rfl⟩
  have hsum : monthTotal db' usage.subscriptionId usage.usageType t₂ =
      monthTotal db usage.subscriptionId usage.usageType t₂ + usage.quantity := by
    rw [monthTotal_concat ht, if_pos hcounts]
    rfl
  rw [hsum]
  by_cases hsame : t₁.monthNumber = t₂.monthNumber
  · -- the month that was checked
    rw [← monthTotal_congr db hsame, monthTotal_eq_getTotalByType hbounds]
  · -- a later month, which has no events yet
    have hlater : t₁.monthNumber < t₂.monthNumber := lt_of_le_of_ne (monthNumber_mono hclock) hsame
    have hempty : monthTotal db usage.subscriptionId usage.usageType t₂ = 0 := by
      refine sumWhere_eq_zero fun e he => ?_
      have := monthNumber_mono (hpast e he).2
      rw [Bool.eq_false_iff, ne_eq, inMonthOf_iff]
      omega
    have hnonneg : 0 ≤ getTotalByType db usage.subscriptionId usage.usageType (some start)
        (some stop) := sumWhere_nonneg fun e he _ => (hpast e he).1
    omega

/-- **Every insert keeps the monthly quota**, with the limit of the plan that the
    call has read, also when the month ends in the middle of the call. -/
theorem monthly_quota (hrun : Run (Serial.next driver) Always (Serial.initial t₀) s)
    (hstep : Serial.next driver s (.recordUsage usage t₁ t₂ id) = some s') {e : UsageEvent}
    (hinsert : s'.db.usageEvents = s.db.usageEvents ++ [e]) :
    e.subscriptionId = usage.subscriptionId ∧ e.usageType = usage.usageType ∧
    ∃ subscription plan, getById s.db usage.subscriptionId = some subscription ∧
      planOf s.db subscription = some plan ∧
      monthTotal s'.db e.subscriptionId e.usageType e.createdAt ≤
        UsageService.limitFor plan usage.usageType := by
  obtain ⟨hclock, hdb⟩ := Serial.next_eq_some.mp hstep
  obtain ⟨hle₁, hle₂, -⟩ := Serial.readClock_pair hclock
  have hpast : ∀ e ∈ s.db.usageEvents, 0 ≤ e.quantity ∧ e.createdAt ≤ t₁ := fun e he =>
    (run_chronicle hrun e he).imp_right fun h => le_trans h hle₁
  rcases UsageService.recordUsage_effect s.db usage t₁ t₂ id with heq | ⟨hrec, -⟩
  · rw [hdb, Op.apply, heq] at hinsert
    simp at hinsert
  · have htables := hrec.tables
    rw [hdb, Op.apply, htables] at hinsert
    obtain rfl : newEvent usage id t₂ = e := by simpa using hinsert
    obtain ⟨subscription, plan, start, stop, hsub, -, hbounds, hplan, hquota⟩ := hrec.within
    refine ⟨rfl, rfl, subscription, plan, hsub, hplan, le_trans ?_ hquota⟩
    rw [hdb, Op.apply]
    exact monthTotal_le_checked hpast hle₂ hbounds (congrArg Tables.usageEvents htables)

/-- A call that reads the total in July and inserts in August. -/
def overTheMonthEnd : Op :=
  .recordUsage (Sample.tenCalls "k") Sample.july Sample.firstOfAugust ⟨100⟩

theorem monthly_quota_at_month_end : ∃ s' e,
    Serial.next .stringsOnly Sample.ready overTheMonthEnd = some s' ∧
    s'.db.usageEvents = Sample.ready.db.usageEvents ++ [e] ∧
    monthTotal s'.db e.subscriptionId e.usageType e.createdAt ≤ 10 := by
  have hsome : (Serial.next .stringsOnly Sample.ready overTheMonthEnd).isSome := by decide
  have hstep := Option.some_get hsome
  have hinsert :
      ((Serial.next .stringsOnly Sample.ready overTheMonthEnd).get hsome).db.usageEvents =
        Sample.ready.db.usageEvents ++
          [newEvent (Sample.tenCalls "k") ⟨100⟩ Sample.firstOfAugust] := rfl
  obtain ⟨-, -, subscription, plan, hsub, hplan, hquota⟩ :=
    monthly_quota Sample.run_ready hstep.symm hinsert
  cases hsub
  cases hplan
  exact ⟨_, _, hstep.symm, hinsert, hquota⟩

end MonthlyQuota

end BillingEngine
