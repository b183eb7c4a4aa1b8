import BillingEngine.System.Concurrent

/-!
# Exactly-once metering

Any number of `record_usage` calls, with any keys, run at the same time as each
other and as every other kind of call. The early key lookup and the re-read
after an `IntegrityError` both answer with a stored row; what has to be ruled
out is that the re-read finds nothing. `Metered` is what each call may rely on
at its current point: from the moment it has seen its subscription, the foreign
key of its insert holds, so an `IntegrityError` with a fresh primary key can
only come from the idempotency key, and that key then stays stored.

Results:
* `metered_step`, `metered_stable`: every step establishes the assertion of the
  call that takes it and keeps those of all the others.
* `exactly_once`: one row per key, committed rows stay, and every call that
  does not raise returns the row stored under its key.
-/

namespace BillingEngine

open Runs Interleaving UsageRepository SubscriptionRepository

namespace ExactlyOnce

/-- What a call of `record_usage` may rely on at each of its points. -/
def Metered (db : Database) : Session → Prop
  | .recordUsage usage pc =>
    match pc with
    | .readTotal _ | .readPlan _ _ | .insert =>
      usage.subscriptionId ∈ db.subscriptions.map Subscription.id
    | .reread => ∃ e, getByIdempotencyKey db usage.idempotencyKey = some e
    | .done (.ok r) => ∃ e, r = some e ∧ getByIdempotencyKey db usage.idempotencyKey = some e
    | _ => True
  | _ => True

theorem metered_of_isStart {db : Database} {s : Session} (h : s.IsStart) : Metered db s := by
  cases s with
  | recordUsage usage pc => cases h; trivial
  | _ => trivial

/-- The steps of other calls do not disturb what a call relies on. -/
theorem metered_stable {db db' : Database} {s : Session} (hgrow : db.Grows db')
    (h : Metered db s) : Metered db' s := by
  cases s with
  | recordUsage usage pc =>
    have hkey : ∀ e, getByIdempotencyKey db usage.idempotencyKey = some e →
        getByIdempotencyKey db' usage.idempotencyKey = some e :=
      fun _ => getByIdempotencyKey_mono hgrow.usageEvents
    cases pc with
    | readTotal _ => exact hgrow.subscriptions.subset h
    | readPlan _ _ => exact hgrow.subscriptions.subset h
    | insert => exact hgrow.subscriptions.subset h
    | reread => exact h.imp hkey
    | done result =>
      cases result with
      | ok r => exact h.imp fun e he => ⟨he.1, hkey e he.2⟩
      | error exn => trivial
    | _ => trivial
  | _ => trivial

section Step

variable {usage : UsageRequest} {now : DateTime} {id : Uuid} {db db' : Database} {pc pc' : RecordPc}

/-- A call that gets to the insert and loses finds the winner's row. -/
theorem key_stored_of_integrityError (hid : id ∉ db.usageEvents.map UsageEvent.id)
    (hsub : usage.subscriptionId ∈ db.subscriptions.map Subscription.id)
    (h : UsageRepository.insert db (newEvent usage id now) = .error .integrityError) :
    ∃ e, getByIdempotencyKey db usage.idempotencyKey = some e := by
  rcases insert_cases db (newEvent usage id now) with ⟨db', hok, -⟩ | ⟨-, -, hdup⟩ | ⟨herr, -⟩
  · rw [h] at hok; cases hok
  · have hkey : usage.idempotencyKey ∈ db.usageEvents.map UsageEvent.idempotencyKey := by
      rcases hdup with hpk | hkey | hfk
      · exact absurd hpk hid
      · exact hkey
      · exact absurd hsub hfk
    by_contra hnone
    have : getByIdempotencyKey db usage.idempotencyKey = none :=
      Option.eq_none_iff_forall_ne_some.mpr fun e he => hnone ⟨e, he⟩
    exact getByIdempotencyKey_eq_none_iff.mp this hkey
  · rw [h] at herr; cases herr

/-- One step of `record_usage` establishes the assertion of the point it reaches. -/
theorem metered_recordStep (hid : id ∉ db.usageEvents.map UsageEvent.id)
    (hpc : Metered db (.recordUsage usage pc))
    (h : recordStep usage now id db pc = some (db', pc')) :
    Metered db' (.recordUsage usage pc') := by
  cases pc with
  | lookupKey =>
    simp only [recordStep] at h
    split at h <;> cases h
    · trivial
    · exact ⟨_, rfl, (lookupIdempotencyKey_eq_ok.mp ‹_›).1⟩
    · trivial
  | readSubscription =>
    simp only [recordStep] at h
    split at h
    · cases h; trivial
    · rename_i subscription hsub
      split_ifs at h <;> cases h
      · trivial
      · obtain ⟨hmem, hsid⟩ := getById_eq_some_iff.mp hsub
        exact List.mem_map.mpr ⟨subscription, hmem, hsid⟩
  | readTotal subscription =>
    simp only [recordStep] at h
    split at h <;> cases h
    · trivial
    · exact hpc
  | readPlan subscription currentUsage =>
    simp only [recordStep] at h
    split at h
    · cases h; trivial
    · split_ifs at h <;> cases h
      · trivial
      · exact hpc
  | insert =>
    simp only [recordStep] at h
    split at h
    · rename_i db₁ hins
      cases h
      have ht := commit_eq_ok.mp hins
      refine ⟨_, rfl, getByIdempotencyKey_eq_some_iff.mpr ⟨?_, rfl⟩⟩
      rw [ht]; simp
    · rename_i hins
      cases h
      exact key_stored_of_integrityError hid hpc hins
    · cases h; trivial
  | reread =>
    simp only [recordStep] at h
    cases h
    obtain ⟨e, he⟩ := hpc
    exact ⟨e, he, he⟩
  | done result => simp at h

end Step

theorem metered_step {driver : Driver} {input : Input} {db db' : Database} {s s' : Session}
    (hid : input.id ∉ db.usageEvents.map UsageEvent.id) (hs : Metered db s)
    (h : Session.step driver input db s = some (db', s')) : Metered db' s' := by
  cases s with
  | recordUsage usage pc =>
    obtain ⟨pc', hstep, rfl⟩ := Session.step_recordUsage.mp h
    exact metered_recordStep hid hs hstep
  | calculateBill bill pc => obtain ⟨pc', -, rfl⟩ := Session.step_calculateBill.mp h; trivial
  | handleWebhook event pc => obtain ⟨pc', -, rfl⟩ := Session.step_handleWebhook.mp h; trivial
  | runOnce attempts pc => obtain ⟨pc', -, rfl⟩ := Session.step_runOnce.mp h; trivial

variable {ι : Type*} [DecidableEq ι] {driver : Driver} {c₀ c c' : System ι}

/-- Every call's assertion holds at every point of every run. -/
theorem run_metered (hstart : ∀ i, (c₀.locals i).IsStart)
    (hrun : Run (System.next driver) FreshIds c₀ c) (i : ι) : Metered c.shared (c.locals i) := by
  refine (Interleaving.Run.assertions_of_rely (G := fun _ => True) (R := Database.Grows)
    ?_ ?_ hrun trivial ?_).2 i
  · intro c i input db s _ hs hfresh hstep
    exact ⟨trivial, metered_step hfresh.usageEvents hs hstep, Session.step_grows hstep⟩
  · intro db db' s _ hgrow hs
    exact metered_stable hgrow hs
  · exact fun j => metered_of_isStart (hstart j)

/-- **Exactly-once metering.** From any database, for any set of calls and any
    order of their steps: there is one row per key, committed rows stay as they
    are, a call that ends without an exception returns the row stored under its
    own key, and so calls with one key return one row. -/
theorem exactly_once (hstart : ∀ i, (c₀.locals i).IsStart)
    (hrun : Run (System.next driver) FreshIds c₀ c)
    (hlater : Run (System.next driver) FreshIds c c') :
    (c.shared.usageEvents.map UsageEvent.idempotencyKey).Nodup ∧
    c.shared.usageEvents <+: c'.shared.usageEvents ∧
    (∀ i usage r, c.locals i = .recordUsage usage (.done (.ok r)) →
      ∃ e ∈ c.shared.usageEvents, r = some e ∧ e.idempotencyKey = usage.idempotencyKey) ∧
    ∀ i j usage usage' r r', c.locals i = .recordUsage usage (.done (.ok r)) →
      c.locals j = .recordUsage usage' (.done (.ok r')) →
      usage.idempotencyKey = usage'.idempotencyKey → r = r' := by
  have hreturned : ∀ i usage r, c.locals i = .recordUsage usage (.done (.ok r)) →
      ∃ e, r = some e ∧ getByIdempotencyKey c.shared usage.idempotencyKey = some e := by
    intro i usage r hi
    have hm := run_metered hstart hrun i
    rwa [hi] at hm
  refine ⟨c.shared.constraints.usage_idempotency_key, (System.run_grows hlater).usageEvents, ?_, ?_⟩
  · intro i usage r hi
    obtain ⟨e, hr, he⟩ := hreturned i usage r hi
    obtain ⟨hmem, hkey⟩ := getByIdempotencyKey_eq_some_iff.mp he
    exact ⟨e, hmem, hr, hkey⟩
  · intro i j usage usage' r r' hi hj hkey
    obtain ⟨e, rfl, he⟩ := hreturned i usage r hi
    obtain ⟨e', rfl, he'⟩ := hreturned j usage' r' hj
    rw [hkey] at he
    exact he.symm.trans he'

/-- Two calls with one key that both pass the lookup: the second one loses the
    insert and re-reads. -/
def race : System Bool :=
  Sample.pair (.recordUsage (Sample.tenCalls "k") .lookupKey)
    (.recordUsage (Sample.tenCalls "k") .lookupKey)

def raceOrder : List (Bool × Input) :=
  Sample.schedule [false, true, false, true, false, true, false, true, false, true, true]

/-- The row of the first call, stored by the sixth step. -/
def raceEvent : UsageEvent := newEvent (Sample.tenCalls "k") (Sample.input 8).id Sample.july

theorem exactly_once_race : ∃ c, Run (System.next .stringsOnly) FreshIds race c ∧
    c.locals false = .recordUsage (Sample.tenCalls "k") (.done (.ok (some raceEvent))) ∧
    c.locals true = .recordUsage (Sample.tenCalls "k") (.done (.ok (some raceEvent))) ∧
    raceEvent ∈ c.shared.usageEvents := by
  have hrun := Run.of_execGuarded_isSome
    (show (execGuarded (System.next .stringsOnly) FreshIds race raceOrder).isSome by decide)
  have hstart : ∀ i, (race.locals i).IsStart := by intro i; cases i <;> rfl
  refine ⟨_, hrun, rfl, rfl, ?_⟩
  obtain ⟨e, he, hr, -⟩ := (exactly_once hstart hrun .refl).2.2.1 true (Sample.tenCalls "k") _ rfl
  cases hr
  exact he

end ExactlyOnce

end BillingEngine
