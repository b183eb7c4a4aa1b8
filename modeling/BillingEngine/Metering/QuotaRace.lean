import BillingEngine.Metering.Quota

/-!
# The quota under concurrency

`record_usage` reads the total in one step and inserts in another. A call whose
total leaves room for it is admitted, and from then on nothing is checked again;
so an event that is committed in between is not accounted for. `Room` is the
condition on one step that excludes this: when a call inserts, the limit still
has room for each of the calls that are admitted and have not inserted yet.

Results:
* `total_le_limit_of_room`: in every run whose steps all meet `Room`, the total
  of the month never exceeds the limit.
* `insert_without_room`: an admitted call for which there is no room left
  exceeds the limit when it inserts.
* `quota_exceeded_by_two_calls`: two calls with different keys do that.
-/

namespace BillingEngine

open Runs Interleaving UsageRepository SubscriptionRepository

namespace QuotaRace

variable (m : Meter)

/-- The quantity of a call that is about to insert an event of the meter. -/
def inserting : Session → Option ℤ
  | .recordUsage usage .insert => if m.AppliesTo usage then some usage.quantity else none
  | _ => none

/-- The quantity of a call that the quota check lets through, from the moment
    it has read the total. -/
def admitted : Session → Option ℤ
  | .recordUsage usage .insert => if m.AppliesTo usage then some usage.quantity else none
  | .recordUsage usage (.readPlan _ currentUsage) =>
    if m.AppliesTo usage ∧ currentUsage + usage.quantity ≤ m.limit then some usage.quantity
    else none
  | _ => none

/-- An insert leaves room for every other admitted call. -/
def Room {ι : Type*} (c : System ι) (a : ι × Input) : Prop :=
  ∀ q ∈ inserting m (c.locals a.1), ∀ j, j ≠ a.1 → ∀ q' ∈ admitted m (c.locals j),
    m.total c.shared + q + q' ≤ m.limit

instance {ι : Type*} [Fintype ι] [DecidableEq ι] (c : System ι) (a : ι × Input) :
    Decidable (Room m c a) := by
  unfold Room; infer_instance

/-- The clock stays in the month, the status `ACTIVE` and the limit fixed. -/
def Steady {ι : Type*} (c : System ι) (a : ι × Input) : Prop := m.Steady c.shared a.2.now

instance {ι : Type*} (c : System ι) (a : ι × Input) : Decidable (Steady m c a) :=
  inferInstanceAs (Decidable (m.Steady _ _))

/-- The subscription that a call has loaded and will compare with the limit of. -/
def loaded : Session → Option Subscription
  | .recordUsage usage (.readTotal subscription) =>
    if m.AppliesTo usage then some subscription else none
  | .recordUsage usage (.readPlan subscription _) =>
    if m.AppliesTo usage then some subscription else none
  | _ => none

/-- What a call knows: the loaded subscription has the limit, and the limit has
    room for the call once it is admitted. -/
structure Admissible (db : Database) (s : Session) : Prop where
  limit : ∀ subscription ∈ loaded m s, m.limitOf db subscription = some m.limit
  room : ∀ q ∈ admitted m s, m.total db + q ≤ m.limit

variable {m}

theorem admissible_of_isStart {db : Database} {s : Session} (h : s.IsStart) :
    Admissible m db s := by
  cases s with
  | recordUsage usage pc => cases h; exact ⟨by simp [loaded], by simp [admitted]⟩
  | _ => exact ⟨by simp [loaded], by simp [admitted]⟩

/-- A call that the meter does not apply to knows nothing. -/
theorem admissible_of_not {db : Database} {usage : UsageRequest} {pc : RecordPc}
    (h : ¬ m.AppliesTo usage) : Admissible m db (.recordUsage usage pc) := by
  cases pc <;> exact ⟨by simp [loaded, h], by simp [admitted, h]⟩

/-- Neither plans nor room get lost. -/
theorem admissible_stable {db db' : Database} {s : Session} (hplans : db'.plans = db.plans)
    (hroom : ∀ q ∈ admitted m s, m.total db + q ≤ m.limit → m.total db' + q ≤ m.limit)
    (h : Admissible m db s) : Admissible m db' s where
  limit subscription hsub := by rw [m.limitOf_congr hplans]; exact h.limit subscription hsub
  room q hq := hroom q hq (h.room q hq)

section Step

variable {usage : UsageRequest} {now : DateTime} {id : Uuid} {db db' : Database} {pc pc' : RecordPc}

/-- A step other than a successful insert keeps the events and establishes what
    the call knows next. -/
theorem admissible_recordStep (happlies : m.AppliesTo usage) (hsteady : m.Steady db now)
    (hpc : Admissible m db (.recordUsage usage pc))
    (h : recordStep usage now id db pc = some (db', pc')) :
    Admissible m db' (.recordUsage usage pc') := by
  cases pc with
  | lookupKey =>
    simp only [recordStep] at h
    split at h <;> cases h <;> exact ⟨by simp [loaded], by simp [admitted]⟩
  | readSubscription =>
    simp only [recordStep] at h
    split at h
    · cases h; exact ⟨by simp [loaded], by simp [admitted]⟩
    · rename_i subscription hsub
      rw [happlies.1] at hsub
      split_ifs at h <;> cases h
      · exact ⟨by simp [loaded], by simp [admitted]⟩
      · exact ⟨by simpa [loaded, happlies] using (hsteady.2 subscription hsub).2,
          by simp [admitted]⟩
  | readTotal subscription =>
    have hlimit := hpc.limit subscription (by simp [loaded, happlies])
    simp only [recordStep, m.bounds_of_steady hsteady] at h
    cases h
    refine ⟨by simpa [loaded, happlies] using hlimit, ?_⟩
    intro q hq
    simp only [admitted, happlies, true_and] at hq
    split_ifs at hq with hle
    · cases hq
      rwa [happlies.1, happlies.2] at hle
    · cases hq
  | readPlan subscription currentUsage =>
    have hlimit := hpc.limit subscription (by simp [loaded, happlies])
    obtain ⟨plan, hplan, hlim⟩ := Option.map_eq_some_iff.mp hlimit
    simp only [recordStep, hplan] at h
    split_ifs at h with hq <;> cases h
    · exact ⟨by simp [loaded], by simp [admitted]⟩
    · -- the check has passed, so the call was admitted when it read the total
      rw [happlies.2, hlim, gt_iff_lt, not_lt] at hq
      refine ⟨by simp [loaded], ?_⟩
      have hroom := hpc.room usage.quantity (by simp [admitted, happlies, hq])
      simpa [admitted, happlies] using hroom
  | insert =>
    simp only [recordStep] at h
    split at h <;> cases h <;> exact ⟨by simp [loaded], by simp [admitted]⟩
  | reread => cases h; exact ⟨by simp [loaded], by simp [admitted]⟩
  | done result => simp at h

/-- The total changes only by a successful insert of an event of the meter. -/
theorem total_recordStep (hsteady : m.Steady db now)
    (h : recordStep usage now id db pc = some (db', pc')) :
    m.total db' = m.total db ∨
      inserting m (.recordUsage usage pc) = some usage.quantity ∧
        m.total db' = m.total db + usage.quantity := by
  rcases recordStep_effect h with rfl | ⟨rfl, -, ht, -⟩
  · exact .inl rfl
  · have htotal := m.total_insert hsteady.1 (congrArg Tables.usageEvents ht)
    by_cases happlies : m.AppliesTo usage
    · rw [if_pos happlies] at htotal
      exact .inr ⟨by simp [inserting, happlies], htotal⟩
    · rw [if_neg happlies, add_zero] at htotal
      exact .inl htotal

end Step

/-- One step of any call: what it knows next, and what it adds to the total. -/
theorem admissible_step {driver : Driver} {input : Input} {db db' : Database} {s s' : Session}
    (hsteady : m.Steady db input.now) (hs : Admissible m db s)
    (h : Session.step driver input db s = some (db', s')) :
    Admissible m db' s' ∧
      (m.total db' = m.total db ∨ ∃ q ∈ inserting m s, m.total db' = m.total db + q) := by
  cases s with
  | recordUsage usage pc =>
    obtain ⟨pc', hstep, rfl⟩ := Session.step_recordUsage.mp h
    refine ⟨?_, (total_recordStep hsteady hstep).imp_right fun ht => ⟨_, ht⟩⟩
    by_cases happlies : m.AppliesTo usage
    · exact admissible_recordStep happlies hsteady hs hstep
    · exact admissible_of_not happlies
  | calculateBill bill pc =>
    obtain ⟨pc', hstep, rfl⟩ := Session.step_calculateBill.mp h
    exact ⟨⟨by simp [loaded], by simp [admitted]⟩,
      .inl (m.total_congr (by rw [billStep_other hstep]))⟩
  | handleWebhook event pc =>
    obtain ⟨pc', hstep, rfl⟩ := Session.step_handleWebhook.mp h
    exact ⟨⟨by simp [loaded], by simp [admitted]⟩,
      .inl (m.total_congr (by rw [(webhookStep_other hstep).1]))⟩
  | runOnce attempts pc =>
    obtain ⟨pc', hstep, rfl⟩ := Session.step_runOnce.mp h
    exact ⟨⟨by simp [loaded], by simp [admitted]⟩,
      .inl (m.total_congr (by rw [(jobStep_other hstep).1]))⟩

/-- A call that is about to insert has been admitted. -/
theorem admitted_of_inserting {s : Session} {q : ℤ} (h : q ∈ inserting m s) : q ∈ admitted m s := by
  cases s with
  | recordUsage usage pc => cases pc <;> first | exact h | cases h
  | _ => cases h

variable {ι : Type*} [DecidableEq ι] {driver : Driver} {c₀ c : System ι}

/-- **The quota holds as long as every insert leaves room for the other admitted
    calls.** -/
theorem total_le_limit_of_room (hstart : ∀ i, (c₀.locals i).IsStart)
    (hinit : m.total c₀.shared ≤ m.limit)
    (hrun : Run (System.next driver) (fun c a => Steady m c a ∧ Room m c a) c₀ c) :
    m.total c.shared ≤ m.limit := by
  refine (Interleaving.Run.assertions (G := fun db => m.total db ≤ m.limit)
    (L := fun _ => Admissible m) ?_ hrun hinit ?_).1
  · rintro c i input db' s' hG hL ⟨hsteady, hroom⟩ hstep
    have hplans := (Session.step_grows hstep).plans
    obtain ⟨hown, heq | ⟨q, hq, heq⟩⟩ := admissible_step hsteady (hL i) hstep
    · refine ⟨by rwa [heq], hown, fun j _ => admissible_stable hplans ?_ (hL j)⟩
      intro q' _ h'
      rwa [heq]
    · refine ⟨?_, hown, fun j hj => admissible_stable hplans ?_ (hL j)⟩
      · rw [heq]; exact (hL i).room q (admitted_of_inserting hq)
      · intro q' hq' _
        rw [heq]; exact hroom q hq j hj q' hq'
  · exact fun j => admissible_of_isStart (hstart j)

/-! ## Two concurrent calls -/

/-- The API calls of the sample subscription in July. -/
def july : Meter where
  subscriptionId := ⟨3⟩
  usageType := .apiCall
  periodStart := Sample.firstOfJuly
  periodEnd := Sample.firstOfAugust
  limit := 10
  month := by decide

def race : System Bool :=
  Sample.pair (.recordUsage (Sample.tenCalls "a") .lookupKey)
    (.recordUsage (Sample.tenCalls "b") .lookupKey)

/-- The second call reads the total after the first one has inserted. -/
theorem total_le_limit_of_room_in_turn : ∃ c,
    Run (System.next .stringsOnly) (fun c a => Steady july c a ∧ Room july c a) race c ∧
      c.shared.usageEvents.length = 1 ∧ july.total c.shared ≤ july.limit := by
  have hrun := Run.of_execGuarded_isSome (show (execGuarded (System.next .stringsOnly)
    (fun c a => Steady july c a ∧ Room july c a) race
    (Sample.schedule [false, true, false, true, false, false, false, true, true])).isSome
      by decide)
  have hstart : ∀ i, (race.locals i).IsStart := by intro i; cases i <;> rfl
  exact ⟨_, hrun, by decide, total_le_limit_of_room hstart (by decide) hrun⟩

/-- An admitted call for which there is no room left exceeds the limit, unless
    the database refuses the row. -/
theorem insert_without_room {i : ι} {input : Input} {c' : System ι} {q : ℤ}
    (hq : q ∈ inserting m (c.locals i)) (hfull : m.limit < m.total c.shared + q)
    (hnow : m.periodStart ≤ input.now ∧ input.now < m.periodEnd)
    (h : System.next driver c (i, input) = some c') :
    c'.shared = c.shared ∨ m.limit < m.total c'.shared := by
  obtain ⟨db', s', hstep, rfl⟩ := next_eq_some.mp h
  generalize hs : c.locals i = s at hq hstep
  cases s with
  | recordUsage usage pc =>
    obtain ⟨pc', hrecord, rfl⟩ := Session.step_recordUsage.mp hstep
    rcases recordStep_effect hrecord with heq | ⟨rfl, -, ht, -⟩
    · exact .inl heq
    · have htotal := m.total_insert hnow (congrArg Tables.usageEvents ht)
      simp only [inserting] at hq
      split_ifs at hq with happlies
      · cases hq
        rw [if_pos happlies] at htotal
        exact .inr (by rw [htotal]; exact hfull)
      · cases hq
  | _ => cases hq

/-- Both calls read the total before either of them inserts. -/
theorem quota_exceeded_by_two_calls : (∀ i, (race.locals i).IsStart) ∧
    july.total race.shared ≤ july.limit ∧
    ∃ c, Run (System.next .stringsOnly) (fun c a => FreshIds c a ∧ Steady july c a) race c ∧
      ¬ july.total c.shared ≤ july.limit := by
  refine ⟨by intro i; cases i <;> rfl, by decide, ?_⟩
  have hrun := Run.of_execGuarded_isSome (show (execGuarded (System.next .stringsOnly)
    (fun c a => FreshIds c a ∧ Steady july c a) race
    (Sample.schedule [false, false, false, true, true, true, false, false, true, true])).isSome
      by decide)
  exact ⟨_, hrun, by decide⟩

end QuotaRace

end BillingEngine
