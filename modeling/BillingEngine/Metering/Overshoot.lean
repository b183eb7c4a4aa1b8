import BillingEngine.Common.Reservations
import BillingEngine.Metering.Decision
import BillingEngine.Metering.QuotaRace

/-!
# How far the quota can be exceeded

Concurrent calls of `record_usage` can exceed the quota, because a call inserts without
looking again. By how much depends on the crowd alone: from reading the total to its
insert a call holds a reservation of its quantity, and the total and the open
reservations together pass the limit by at most what the others held when the last of
them was granted.

Results:
* `reserves_step`: what one step of any call does to the total and its reservation.
* `total_le_of_crowd`: with fewer than `k` others between check and insert at any time,
  the total of the month exceeds the limit, or what it was at the start if that is more,
  by at most `k - 1` times the largest quantity.
* `overshoot_reached`: any number of calls that each fit alone are all let through, so calls
  for the whole quota reach that bound.
-/

namespace BillingEngine

open Runs Interleaving UsageRepository SubscriptionRepository

namespace Overshoot

open QuotaRace (admitted loaded inserting)

variable (m : Meter)

/-- The quantity that a call holds between its check and its insert. -/
def reserved (s : Session) : ℤ := (admitted m s).getD 0

/-- What a call knows: the loaded subscription has the limit of the meter, and the
    quantity that it asks for is at most `most`. -/
structure Knows (most : ℤ) (db : Database) (s : Session) : Prop where
  limit : ∀ subscription ∈ loaded m s, m.limitOf db subscription = some m.limit
  quantity : ∀ usage pc, s = .recordUsage usage pc → m.AppliesTo usage → usage.quantity ≤ most

variable {m} {most : ℤ} {usage : UsageRequest} {now : DateTime} {id : Uuid} {db db' : Database}
  {pc pc' : RecordPc}

theorem reserved_readPlan (subscription : Subscription) (currentUsage : ℤ) :
    reserved m (.recordUsage usage (.readPlan subscription currentUsage)) =
      if m.AppliesTo usage ∧ currentUsage + usage.quantity ≤ m.limit then usage.quantity
      else 0 := by
  simp only [reserved, admitted]
  split_ifs <;> rfl

theorem reserved_insert : reserved m (.recordUsage usage .insert) =
    if m.AppliesTo usage then usage.quantity else 0 := by
  simp only [reserved, admitted]
  split_ifs <;> rfl

/-- No reservation is negative, and none is for more than the request. -/
theorem reserved_bounds (usage : UsageRequest) (pc : RecordPc) :
    0 ≤ reserved m (.recordUsage usage pc) ∧
      (reserved m (.recordUsage usage pc) = 0 ∨
        m.AppliesTo usage ∧ reserved m (.recordUsage usage pc) ≤ usage.quantity) := by
  have hquantity := usage.quantity_nonneg
  cases pc with
  | readPlan subscription currentUsage =>
    rw [reserved_readPlan]
    split_ifs with h
    · exact ⟨hquantity, .inr ⟨h.1, le_rfl⟩⟩
    · exact ⟨le_rfl, .inl rfl⟩
  | insert =>
    rw [reserved_insert]
    split_ifs with h
    · exact ⟨hquantity, .inr ⟨h, le_rfl⟩⟩
    · exact ⟨le_rfl, .inl rfl⟩
  | _ => exact ⟨le_rfl, .inl rfl⟩

theorem reserved_nonneg (s : Session) : 0 ≤ reserved m s := by
  cases s with
  | recordUsage usage pc => exact (reserved_bounds usage pc).1
  | _ => exact le_rfl

theorem reserved_le_of_knows (hmost : 0 ≤ most) {s : Session} (h : Knows m most db s) :
    reserved m s ≤ most := by
  cases s with
  | recordUsage usage pc =>
    rcases (reserved_bounds (m := m) usage pc).2 with hzero | ⟨happlies, hle⟩
    · rw [hzero]
      exact hmost
    · exact hle.trans (h.quantity usage pc rfl happlies)
  | _ => exact hmost

theorem reserved_of_isStart {s : Session} (h : s.IsStart) : reserved m s = 0 := by
  cases s with
  | recordUsage usage pc => obtain rfl : pc = .lookupKey := h; rfl
  | _ => rfl

/-! ## One step -/

/-- **A step of `record_usage`** reserves what the total leaves room for, and inserts
    what it has reserved. -/
theorem reserves_recordStep (hsteady : m.Steady db now)
    (hlimit : ∀ subscription ∈ loaded m (.recordUsage usage pc),
      m.limitOf db subscription = some m.limit)
    (h : recordStep usage now id db pc = some (db', pc')) :
    Reserves m.total (reserved m) m.limit db (.recordUsage usage pc) db'
      (.recordUsage usage pc') := by
  have hnonneg := reserved_nonneg (m := m) (.recordUsage usage pc)
  -- giving up what was reserved, while the total stays
  have hdrop : m.total db' = m.total db → reserved m (.recordUsage usage pc') = 0 →
      Reserves m.total (reserved m) m.limit db (.recordUsage usage pc) db'
        (.recordUsage usage pc') := by
    intro htotal hzero
    refine .inr ?_
    rw [htotal, hzero]
    omega
  cases pc with
  | lookupKey =>
    simp only [recordStep] at h
    split at h <;> cases h <;> exact hdrop rfl rfl
  | readSubscription =>
    simp only [recordStep] at h
    split at h
    · cases h; exact hdrop rfl rfl
    · split_ifs at h <;> cases h <;> exact hdrop rfl rfl
  | readTotal subscription =>
    simp only [recordStep, m.bounds_of_steady hsteady] at h
    cases h
    by_cases happlies : m.AppliesTo usage
    · have hcurrent : getTotalByType db usage.subscriptionId usage.usageType (some m.periodStart)
          (some m.periodEnd) = m.total db := by
        rw [happlies.1, happlies.2]
        rfl
      rw [hcurrent] at hdrop ⊢
      by_cases hroom : m.total db + usage.quantity ≤ m.limit
      · refine .inl ⟨rfl, ?_⟩
        rwa [reserved_readPlan, if_pos ⟨happlies, hroom⟩]
      · refine hdrop rfl ?_
        rw [reserved_readPlan, if_neg fun hand => hroom hand.2]
    · refine hdrop rfl ?_
      rw [reserved_readPlan, if_neg fun hand => happlies hand.1]
  | readPlan subscription currentUsage =>
    simp only [recordStep] at h
    split at h
    · cases h; exact hdrop rfl rfl
    · rename_i plan hplan
      split_ifs at h with hover
      · cases h; exact hdrop rfl rfl
      · cases h
        refine .inr (le_of_eq ?_)
        rw [reserved_insert, reserved_readPlan]
        by_cases happlies : m.AppliesTo usage
        · obtain ⟨plan', hplan', hlim⟩ :=
            Option.map_eq_some_iff.mp (hlimit subscription (by simp [loaded, happlies]))
          obtain rfl : plan = plan' := Option.some.inj (hplan.symm.trans hplan')
          rw [happlies.2, hlim, gt_iff_lt, not_lt] at hover
          rw [if_pos happlies, if_pos ⟨happlies, hover⟩]
        · rw [if_neg happlies, if_neg fun hand => happlies hand.1]
  | insert =>
    have hzero : reserved m (.recordUsage usage pc') = 0 := by
      simp only [recordStep] at h
      split at h <;> cases h <;> rfl
    rcases QuotaRace.total_recordStep hsteady h with htotal | ⟨hinserting, htotal⟩
    · exact hdrop htotal hzero
    · have hheld : reserved m (.recordUsage usage .insert) = usage.quantity := by
        rw [reserved, admitted]
        rw [inserting] at hinserting
        rw [hinserting]
        rfl
      refine .inr ?_
      rw [htotal, hzero, hheld]
      omega
  | reread => cases h; exact hdrop rfl rfl
  | done result => simp at h

/-- The loaded subscription keeps its limit until the call has compared with it. -/
theorem knows_recordStep (hsteady : m.Steady db now) (hs : Knows m most db (.recordUsage usage pc))
    (h : recordStep usage now id db pc = some (db', pc')) :
    Knows m most db' (.recordUsage usage pc') := by
  refine ⟨?_, ?_⟩
  · by_cases happlies : m.AppliesTo usage
    · cases pc with
      | readSubscription =>
        simp only [recordStep] at h
        split at h
        · cases h; simp [loaded]
        · rename_i subscription hsub
          rw [happlies.1] at hsub
          split_ifs at h <;> cases h
          · simp [loaded]
          · simpa [loaded, happlies] using (hsteady.2 subscription hsub).2
      | readTotal subscription =>
        have hlimit := hs.limit subscription (by simp [loaded, happlies])
        simp only [recordStep, m.bounds_of_steady hsteady] at h
        cases h
        simpa [loaded, happlies] using hlimit
      | lookupKey => simp only [recordStep] at h; split at h <;> cases h <;> simp [loaded]
      | readPlan subscription currentUsage =>
        simp only [recordStep] at h
        split at h
        · cases h; simp [loaded]
        · split_ifs at h <;> cases h <;> simp [loaded]
      | insert => simp only [recordStep] at h; split at h <;> cases h <;> simp [loaded]
      | reread => cases h; simp [loaded]
      | done result => simp at h
    · cases pc' <;> simp [loaded, happlies]
  · intro usage' pc'' heq happlies
    cases heq
    exact hs.quantity usage pc rfl happlies

/-- **A step of any call.** -/
theorem reserves_step {driver : Driver} {input : Input} {s s' : Session}
    (hsteady : m.Steady db input.now) (hs : Knows m most db s)
    (h : Session.step driver input db s = some (db', s')) :
    Reserves m.total (reserved m) m.limit db s db' s' ∧ Knows m most db' s' := by
  have hother : ∀ {s s' : Session}, m.total db' = m.total db → reserved m s = 0 →
      reserved m s' = 0 → Reserves m.total (reserved m) m.limit db s db' s' := by
    intro s s' htotal hold hnew
    exact .inr (by rw [htotal, hold, hnew])
  cases s with
  | recordUsage usage pc =>
    obtain ⟨pc', hstep, rfl⟩ := Session.step_recordUsage.mp h
    exact ⟨reserves_recordStep hsteady hs.limit hstep, knows_recordStep hsteady hs hstep⟩
  | calculateBill bill pc =>
    obtain ⟨pc', hstep, rfl⟩ := Session.step_calculateBill.mp h
    exact ⟨hother (m.total_congr (by rw [billStep_other hstep])) rfl rfl,
      ⟨by simp [loaded], by simp⟩⟩
  | handleWebhook event pc =>
    obtain ⟨pc', hstep, rfl⟩ := Session.step_handleWebhook.mp h
    exact ⟨hother (m.total_congr (by rw [(webhookStep_other hstep).1])) rfl rfl,
      ⟨by simp [loaded], by simp⟩⟩
  | runOnce attempts pc =>
    obtain ⟨pc', hstep, rfl⟩ := Session.step_runOnce.mp h
    exact ⟨hother (m.total_congr (by rw [(jobStep_other hstep).1])) rfl rfl,
      ⟨by simp [loaded], by simp⟩⟩

/-- Plans stay as they are, so what a call knows is not disturbed. -/
theorem Knows.stable {s : Session} (hplans : db'.plans = db.plans) (h : Knows m most db s) :
    Knows m most db' s where
  limit subscription hsub := by
    rw [m.limitOf_congr hplans]
    exact h.limit subscription hsub
  quantity := h.quantity

/-! ## The bound -/

variable {ι : Type*} [DecidableEq ι] {driver : Driver} {c₀ c : System ι} {k : ℕ}

/-- No call of the meter asks for more than `most`. -/
def AsksAtMost (m : Meter) (most : ℤ) (c : System ι) : Prop :=
  ∀ i usage pc, c.locals i = .recordUsage usage pc → m.AppliesTo usage → usage.quantity ≤ most

/-- **The quota is exceeded by at most what the crowd holds**, or what was used at the
    start if that is more. -/
theorem total_le_of_crowd (hstart : ∀ i, (c₀.locals i).IsStart) (hmost : 0 ≤ most)
    (hasks : AsksAtMost m most c₀)
    (hrun : Run (System.next driver)
      (fun c a => QuotaRace.Steady m c a ∧ Crowd (reserved m) k c a) c₀ c) :
    m.total c.shared ≤ max m.limit (m.total c₀.shared) + (k - 1 : ℕ) * most := by
  refine Interleaving.Run.total_le_slack m.total (reserved m) m.limit (L := Knows m most)
    reserved_nonneg (fun _ _ => reserved_le_of_knows hmost) (fun _ _ hok => hok.2) ?_ hrun ?_ ?_
    hmost
  · rintro c i input db' s' ⟨hsteady, -⟩ hL hstep
    obtain ⟨hreserves, hown⟩ := reserves_step hsteady (hL i) hstep
    exact ⟨hreserves, hown, fun j _ => (hL j).stable (Session.step_grows hstep).plans⟩
  · intro i
    refine ⟨?_, fun usage pc heq => hasks i usage pc heq⟩
    have hs := hstart i
    cases hlocal : c₀.locals i with
    | recordUsage usage pc =>
      rw [hlocal] at hs
      obtain rfl : pc = .lookupKey := hs
      simp [loaded]
    | _ => simp [loaded]
  · exact fun i => reserved_of_isStart (hstart i)

/-! ## The bound is reached -/

/-- The listed calls each pass the check alone, under new keys that can be stored, and no
    other call of the meter holds a reservation. -/
structure Racers (m : Meter) (usage : ι → UsageRequest) (racers : List ι) (db : Database)
    (c : System ι) : Prop where
  others : ∀ i ∉ racers, reserved m (c.locals i) = 0
  applies : ∀ i ∈ racers, m.AppliesTo (usage i)
  room : ∀ i ∈ racers, m.total db + (usage i).quantity ≤ m.limit
  keys : (racers.map fun i => (usage i).idempotencyKey).Nodup
  new : ∀ i ∈ racers, getByIdempotencyKey db (usage i).idempotencyKey = none
  indexable : ∀ i ∈ racers, Indexable (usage i).idempotencyKey

/-- The guard of the run. -/
abbrev Guard (m : Meter) (k : ℕ) (c : System ι) (a : ι × Input) : Prop :=
  QuotaRace.Steady m c a ∧ Crowd (reserved m) k c a

variable {usageOf : ι → UsageRequest} {racers todo : List ι} {i : ι}

omit [DecidableEq ι] in
/-- The racers are the crowd. -/
theorem Racers.crowd (h : Racers m usageOf racers db c) (hi : i ∈ racers) (input : Input) :
    Crowd (reserved m) racers.length c (i, input) := by
  classical
  intro S hmem hS
  have hsub : insert i S ⊆ racers.toFinset := by
    intro j hj
    rcases Finset.mem_insert.mp hj with rfl | hj
    · exact List.mem_toFinset.mpr hi
    · by_contra hnot
      exact hS j hj (h.others j fun hin => hnot (List.mem_toFinset.mpr hin))
  have hcard := (Finset.card_le_card hsub).trans racers.toFinset_card_le
  rw [Finset.card_insert_of_notMem hmem] at hcard
  omega

omit [DecidableEq ι] in
/-- What the racers do leaves the others alone. -/
theorem Racers.congr {c' : System ι} (h : Racers m usageOf racers db c)
    (hsame : ∀ j ∉ racers, c'.locals j = c.locals j) : Racers m usageOf racers db c' where
  others j hj := by rw [hsame j hj]; exact h.others j hj
  applies := h.applies
  room := h.room
  keys := h.keys
  new := h.new
  indexable := h.indexable

/-- A step of one call. -/
theorem exists_step (driver : Driver) (input : Input) (hlocal : c.locals i = .recordUsage usage pc)
    (hstep : recordStep usage input.now input.id c.shared pc = some (db', pc')) :
    ∃ c', System.next driver c (i, input) = some c' ∧ c'.shared = db' ∧
      c'.locals i = .recordUsage usage pc' ∧ ∀ j, j ≠ i → c'.locals j = c.locals j := by
  refine ⟨_, next_eq_some.mpr ⟨db', .recordUsage usage pc', ?_, rfl⟩, rfl, ?_, ?_⟩
  · rw [hlocal]
    exact Session.step_recordUsage.mpr ⟨pc', hstep, rfl⟩
  · exact Function.update_self ..
  · intro j hj
    exact Function.update_of_ne hj ..

/-- A racer checks while there is room. -/
theorem exists_checked (driver : Driver) (input : Input) {subscription : Subscription}
    (h : Racers m usageOf racers c.shared c) (hi : i ∈ racers)
    (hlocal : c.locals i = .recordUsage (usageOf i) .lookupKey)
    (hsteady : m.Steady c.shared input.now)
    (hsub : getById c.shared m.subscriptionId = some subscription) :
    ∃ c', Run (System.next driver) (Guard m racers.length) c c' ∧ c'.shared = c.shared ∧
      c'.locals i = .recordUsage (usageOf i) .insert ∧ ∀ j, j ≠ i → c'.locals j = c.locals j := by
  obtain ⟨hsubscription, htype⟩ := h.applies i hi
  obtain ⟨hactive, hlimit⟩ := hsteady.2 subscription hsub
  obtain ⟨plan, hplan, hlim⟩ := Option.map_eq_some_iff.mp hlimit
  rw [← hsubscription] at hsub
  -- the guard holds as long as only `i` has moved
  have hguard : ∀ c' : System ι, c'.shared = c.shared → (∀ j, j ≠ i → c'.locals j = c.locals j) →
      Guard m racers.length c' (i, input) := by
    intro c' hshared hsame
    refine ⟨?_, (h.congr fun j hj => hsame j ?_).crowd hi input⟩
    · rw [QuotaRace.Steady, hshared]
      exact hsteady
    · rintro rfl
      exact hj hi
  obtain ⟨c₁, hnext₁, hsh₁, hl₁, ho₁⟩ := exists_step driver input hlocal
    (recordStep_lookupKey_none (h.indexable i hi).storable (h.new i hi))
  rw [← hsh₁] at hsub
  obtain ⟨c₂, hnext₂, hsh₂, hl₂, ho₂⟩ := exists_step driver input hl₁
    (recordStep_readSubscription_active hsub hactive)
  obtain ⟨c₃, hnext₃, hsh₃, hl₃, ho₃⟩ := exists_step driver input hl₂
    (recordStep_readTotal_ok (m.bounds_of_steady hsteady))
  rw [← hsh₁, ← hsh₂, ← hsh₃] at hplan
  have hcurrent : getTotalByType c₂.shared (usageOf i).subscriptionId (usageOf i).usageType
      (some m.periodStart) (some m.periodEnd) = m.total c.shared := by
    rw [hsh₂, hsh₁, hsubscription, htype]
    rfl
  have hwithin : ¬ m.total c.shared + (usageOf i).quantity >
      UsageService.limitFor plan (usageOf i).usageType := by
    have hroom := h.room i hi
    rw [htype, hlim]
    omega
  rw [hcurrent] at hl₃
  obtain ⟨c₄, hnext₄, hsh₄, hl₄, ho₄⟩ := exists_step driver input hl₃
    (recordStep_readPlan_within hplan hwithin)
  have hs₂ := hsh₂.trans hsh₁
  have hs₃ := hsh₃.trans hs₂
  have hsame₂ : ∀ j, j ≠ i → c₂.locals j = c.locals j := fun j hj => (ho₂ j hj).trans (ho₁ j hj)
  have hsame₃ : ∀ j, j ≠ i → c₃.locals j = c.locals j := fun j hj => (ho₃ j hj).trans (hsame₂ j hj)
  refine ⟨c₄, ?_, hsh₄.trans hs₃, hl₄, fun j hj => (ho₄ j hj).trans (hsame₃ j hj)⟩
  exact (((Run.single (hguard c rfl fun _ _ => rfl) hnext₁).tail (hguard c₁ hsh₁ ho₁) hnext₂).tail
    (hguard c₂ hs₂ hsame₂) hnext₃).tail (hguard c₃ hs₃ hsame₃) hnext₄

/-- All of them check before anyone inserts. -/
theorem exists_all_checked (driver : Driver) {input : ι → Input} {subscription : Subscription}
    (h : Racers m usageOf racers c.shared c) (hnodup : todo.Nodup)
    (htodo : ∀ i ∈ todo, i ∈ racers)
    (hlocal : ∀ i ∈ todo, c.locals i = .recordUsage (usageOf i) .lookupKey)
    (hsteady : ∀ i ∈ todo, m.Steady c.shared (input i).now)
    (hsub : getById c.shared m.subscriptionId = some subscription) :
    ∃ c', Run (System.next driver) (Guard m racers.length) c c' ∧ c'.shared = c.shared ∧
      (∀ i ∈ todo, c'.locals i = .recordUsage (usageOf i) .insert) ∧
      ∀ j ∉ todo, c'.locals j = c.locals j := by
  induction todo generalizing c with
  | nil => exact ⟨c, .refl, rfl, by simp, fun _ _ => rfl⟩
  | cons i todo ih =>
    obtain ⟨hnot, hnodup⟩ := List.nodup_cons.mp hnodup
    obtain ⟨hi, htodo⟩ := List.forall_mem_cons.mp htodo
    obtain ⟨hfirst, hlocal⟩ := List.forall_mem_cons.mp hlocal
    obtain ⟨hnow, hsteady⟩ := List.forall_mem_cons.mp hsteady
    obtain ⟨c₁, hrun₁, hsh₁, hl₁, ho₁⟩ := exists_checked driver (input i) h hi hfirst hnow hsub
    have hne : ∀ j ∈ todo, j ≠ i := by
      rintro j hj rfl
      exact hnot hj
    have h₁ : Racers m usageOf racers c₁.shared c₁ := by
      rw [hsh₁]
      refine h.congr fun j hj => ho₁ j ?_
      rintro rfl
      exact hj hi
    obtain ⟨c₂, hrun₂, hsh₂, hl₂, ho₂⟩ := ih h₁ hnodup htodo
      (fun j hj => (ho₁ j (hne j hj)).trans (hlocal j hj)) (hsh₁ ▸ hsteady) (hsh₁ ▸ hsub)
    refine ⟨c₂, hrun₁.trans hrun₂, hsh₂.trans hsh₁, ?_, ?_⟩
    · refine List.forall_mem_cons.mpr ⟨(ho₂ i hnot).trans hl₁, hl₂⟩
    · intro j hj
      obtain ⟨hji, hj⟩ := not_or.mp (mt List.mem_cons.mpr hj)
      exact (ho₂ j hj).trans (ho₁ j hji)

theorem steady_congr (hsubs : db'.subscriptions = db.subscriptions) (hplans : db'.plans = db.plans)
    (h : m.Steady db now) : m.Steady db' now := by
  refine ⟨h.1, fun subscription hsub => ?_⟩
  rw [m.limitOf_congr hplans]
  refine h.2 subscription ?_
  rwa [getById, hsubs] at hsub

/-- What the inserts need: the keys and the ids are new, and the rows fit. -/
structure Insertable (usage : ι → UsageRequest) (input : ι → Input) (todo : List ι)
    (db : Database) : Prop where
  keys : (todo.map fun i => (usage i).idempotencyKey).Nodup
  keys_new : ∀ i ∈ todo, (usage i).idempotencyKey ∉ db.usageEvents.map UsageEvent.idempotencyKey
  ids : (todo.map fun i => (input i).id).Nodup
  ids_new : ∀ i ∈ todo, (input i).id ∉ db.usageEvents.map UsageEvent.id
  stored : ∀ i ∈ todo, (usage i).subscriptionId ∈ db.subscriptions.map Subscription.id
  fits : ∀ i ∈ todo, (usage i).quantity ≤ 2147483647

omit [DecidableEq ι] in
/-- One of them inserts, and the others still can. -/
theorem Insertable.next {input : ι → Input} (h : Insertable usageOf input (i :: todo) db) :
    ∃ db', UsageRepository.insert db (newEvent (usageOf i) (input i).id (input i).now) = .ok db' ∧
      db'.toTables = { db.toTables with usageEvents :=
        db.usageEvents ++ [newEvent (usageOf i) (input i).id (input i).now] } ∧
      Insertable usageOf input todo db' := by
  obtain ⟨hkey, hkeys⟩ := List.nodup_cons.mp h.keys
  obtain ⟨hid, hids⟩ := List.nodup_cons.mp h.ids
  have hfits := (fits_insertUsageEvent_iff db _).mpr
    (Decision.fits_newEvent (input i).id (input i).now (h.fits i (by simp)))
  have hconstraints := (constraints_insertUsageEvent_iff db
    (newEvent (usageOf i) (input i).id (input i).now)).mpr
      ⟨h.ids_new i (by simp), h.keys_new i (by simp), h.stored i (by simp)⟩
  obtain ⟨db', hdb'⟩ := commit_isOk_iff.mpr ⟨hfits, hconstraints⟩
  have ht := commit_eq_ok.mp hdb'
  refine ⟨db', hdb', ht, hkeys, fun j hj => ?_, hids, fun j hj => ?_, fun j hj => ?_,
    fun j hj => ?_⟩
  · rw [ht, List.map_append, List.mem_append, not_or]
    refine ⟨h.keys_new j (List.mem_cons_of_mem _ hj), fun hmem => hkey ?_⟩
    rw [List.mem_map]
    exact ⟨j, hj, List.mem_singleton.mp hmem⟩
  · rw [ht, List.map_append, List.mem_append, not_or]
    refine ⟨h.ids_new j (List.mem_cons_of_mem _ hj), fun hmem => hid ?_⟩
    rw [List.mem_map]
    exact ⟨j, hj, List.mem_singleton.mp hmem⟩
  · rw [ht]
    exact h.stored j (List.mem_cons_of_mem _ hj)
  · exact h.fits j (List.mem_cons_of_mem _ hj)

/-- The event that a call records. -/
abbrev recorded (usage : ι → UsageRequest) (input : ι → Input) (i : ι) : UsageEvent :=
  newEvent (usage i) (input i).id (input i).now

/-- Then all of them insert, and each returns its own event. -/
theorem exists_all_inserted (driver : Driver) {input : ι → Input}
    (h : Racers m usageOf racers db c) (hinsertable : Insertable usageOf input todo c.shared)
    (hnodup : todo.Nodup) (htodo : ∀ i ∈ todo, i ∈ racers)
    (hlocal : ∀ i ∈ todo, c.locals i = .recordUsage (usageOf i) .insert)
    (hsteady : ∀ i ∈ todo, m.Steady c.shared (input i).now) :
    ∃ c', Run (System.next driver) (Guard m racers.length) c c' ∧
      m.total c'.shared = m.total c.shared + (todo.map fun i => (usageOf i).quantity).sum ∧
      (∀ i ∈ todo, c'.locals i =
        .recordUsage (usageOf i) (.done (.ok (some (recorded usageOf input i))))) ∧
      ∀ j ∉ todo, c'.locals j = c.locals j := by
  induction todo generalizing c with
  | nil => exact ⟨c, .refl, by simp, by simp, fun _ _ => rfl⟩
  | cons i todo ih =>
    obtain ⟨hnot, hnodup⟩ := List.nodup_cons.mp hnodup
    obtain ⟨hi, htodo⟩ := List.forall_mem_cons.mp htodo
    obtain ⟨hfirst, hlocal⟩ := List.forall_mem_cons.mp hlocal
    obtain ⟨hnow, hsteady⟩ := List.forall_mem_cons.mp hsteady
    obtain ⟨db', hinsert, ht, hrest⟩ := hinsertable.next
    obtain ⟨c₁, hnext, rfl, hl₁, ho₁⟩ :=
      exists_step driver (input i) hfirst (recordStep_insert_ok hinsert)
    have hguard : Guard m racers.length c (i, input i) := ⟨hnow, h.crowd hi (input i)⟩
    have hne : ∀ j ∈ todo, j ≠ i := by
      rintro j hj rfl
      exact hnot hj
    have h₁ : Racers m usageOf racers db c₁ := by
      refine h.congr fun j hj => ho₁ j ?_
      rintro rfl
      exact hj hi
    have hsteady₁ : ∀ j ∈ todo, m.Steady c₁.shared (input j).now := fun j hj =>
      steady_congr (by rw [ht]) (by rw [ht]) (hsteady j hj)
    obtain ⟨c₂, hrun₂, htotal₂, hl₂, ho₂⟩ := ih h₁ hrest hnodup htodo
      (fun j hj => (ho₁ j (hne j hj)).trans (hlocal j hj)) hsteady₁
    refine ⟨c₂, (Run.single hguard hnext).trans hrun₂, ?_, ?_, ?_⟩
    · have htotal := m.total_insert hnow.1 (congrArg Tables.usageEvents ht)
      rw [if_pos (h.applies i hi)] at htotal
      rw [htotal₂, htotal, List.map_cons, List.sum_cons, add_assoc]
    · exact List.forall_mem_cons.mpr ⟨(ho₂ i hnot).trans hl₁, hl₂⟩
    · intro j hj
      obtain ⟨hji, hj⟩ := not_or.mp (mt List.mem_cons.mpr hj)
      exact (ho₂ j hj).trans (ho₁ j hji)

/-- **The bound is reached**: as many calls as the crowd admits are all let through, and
    each returns its event, when there is room for each of them alone. -/
theorem overshoot_reached (driver : Driver) {input : ι → Input} {subscription : Subscription}
    (h : Racers m usageOf racers c₀.shared c₀)
    (hinsertable : Insertable usageOf input racers c₀.shared)
    (hlocal : ∀ i ∈ racers, c₀.locals i = .recordUsage (usageOf i) .lookupKey)
    (hsteady : ∀ i ∈ racers, m.Steady c₀.shared (input i).now)
    (hsub : getById c₀.shared m.subscriptionId = some subscription) :
    ∃ c, Run (System.next driver)
        (fun c a => QuotaRace.Steady m c a ∧ Crowd (reserved m) racers.length c a) c₀ c ∧
      m.total c.shared = m.total c₀.shared + (racers.map fun i => (usageOf i).quantity).sum ∧
      ∀ i ∈ racers, c.locals i = .recordUsage (usageOf i)
        (.done (.ok (some (newEvent (usageOf i) (input i).id (input i).now)))) := by
  have hnodup : racers.Nodup := h.keys.of_map
  obtain ⟨c₁, hrun₁, hsh₁, hl₁, ho₁⟩ := exists_all_checked driver h hnodup
    (fun _ hj => hj) hlocal hsteady hsub
  obtain ⟨c₂, hrun₂, htotal, hl₂, -⟩ := exists_all_inserted driver (h.congr ho₁)
    (hsh₁ ▸ hinsertable) hnodup (fun _ hj => hj) hl₁ (hsh₁ ▸ hsteady)
  exact ⟨c₂, hrun₁.trans hrun₂, by rw [htotal, hsh₁], hl₂⟩

/-! ## Small crowds -/

/-- Two calls, each for the whole quota, that both check first. -/
theorem total_le_of_crowd_two : ∃ c, Run (System.next .stringsOnly)
      (fun c a => QuotaRace.Steady QuotaRace.july c a ∧ Crowd (reserved QuotaRace.july) 2 c a)
      QuotaRace.race c ∧
    QuotaRace.july.total c.shared = 20 ∧
      QuotaRace.july.total c.shared ≤ max 10 0 + (2 - 1 : ℕ) * 10 := by
  have hrun := Run.of_execGuarded_isSome (show (execGuarded (System.next .stringsOnly)
    (fun c a => QuotaRace.Steady QuotaRace.july c a ∧ Crowd (reserved QuotaRace.july) 2 c a)
    QuotaRace.race
    (Sample.schedule [false, false, false, true, true, true, false, false, true, true])).isSome
      by decide)
  have hstart : ∀ i, (QuotaRace.race.locals i).IsStart := by intro i; cases i <;> rfl
  have hasks : AsksAtMost QuotaRace.july 10 QuotaRace.race := by
    rintro i usage pc heq -
    cases i <;> cases heq <;> decide
  have hzero : QuotaRace.july.total QuotaRace.race.shared = 0 := by decide
  have hmax : max QuotaRace.july.limit (QuotaRace.july.total QuotaRace.race.shared) = max 10 0 := by
    rw [hzero]
    rfl
  have hbound := total_le_of_crowd hstart (by decide) hasks hrun
  exact ⟨_, hrun, by decide, hbound.trans_eq (congrArg (· + _) hmax)⟩

/-- Each call asks for another part of the quota. -/
def quantityOfCall : ℕ → ℤ
  | 0 => 10
  | 1 => 7
  | _ => 4

theorem quantityOfCall_pos (i : ℕ) : 0 < quantityOfCall i := by
  unfold quantityOfCall
  split <;> decide

def keyOfCall : ℕ → String
  | 0 => "a"
  | 1 => "b"
  | _ => "c"

def usageOfCall (i : ℕ) : UsageRequest :=
  .usage { subscriptionId := ⟨3⟩, quantity := quantityOfCall i, idempotencyKey := keyOfCall i,
           quantity_pos := quantityOfCall_pos i }

/-- Calls of which each fits alone. -/
def calls : System ℕ where
  shared := Sample.db
  locals i := .recordUsage (usageOfCall i) .lookupKey

/-- Three of them use twice the quota. -/
theorem overshoot_reached_three : ∃ c, Run (System.next .stringsOnly)
      (fun c a => QuotaRace.Steady QuotaRace.july c a ∧ Crowd (reserved QuotaRace.july) 3 c a)
      calls c ∧
    QuotaRace.july.total c.shared = 0 + (10 + (7 + (4 + 0))) ∧
    ∀ i ∈ [0, 1, 2], c.locals i = .recordUsage (usageOfCall i)
      (.done (.ok (some (newEvent (usageOfCall i) (Sample.input i).id Sample.july)))) := by
  have hracers : Racers QuotaRace.july usageOfCall [0, 1, 2] calls.shared calls :=
    ⟨fun _ _ => rfl, by decide, by decide, by decide, by decide, by decide⟩
  have hinsertable : Insertable usageOfCall Sample.input [0, 1, 2] calls.shared :=
    ⟨by decide, by decide, by decide, by decide, by decide, by decide⟩
  have hsteady : ∀ i ∈ [0, 1, 2], QuotaRace.july.Steady calls.shared (Sample.input i).now := by
    decide
  have hsub : getById calls.shared QuotaRace.july.subscriptionId = some Sample.subscription := rfl
  exact overshoot_reached .stringsOnly hracers hinsertable (fun _ _ => rfl) hsteady hsub

end Overshoot

end BillingEngine
