import BillingEngine.System.Concurrent

/-!
# One invoice per subscription per period

`calculate_bill` looks for an invoice of the period and, when there is none,
inserts one in a later step; no constraint backs the lookup up. So uniqueness
holds along a run exactly as long as no call inserts while another one has
passed the lookup for the same period: `Alone` is that condition on one step.

Results:
* `one_per_period_of_alone`: in every run whose steps are all `Alone`, at every
  point there is at most one invoice per subscription and period.
* `second_insert_duplicates`: a call that has passed its lookup and finds the
  period billed in the meantime inserts a second invoice.
* `two_bills_one_period`: two concurrent calls for one month do that.
-/

namespace BillingEngine

open Runs Interleaving InvoiceRepository SubscriptionRepository

/-- What an invoice is for: the subscription and the two ends of the period. -/
def Invoice.period (i : Invoice) : Uuid × Option DateTime × Option DateTime :=
  (i.subscriptionId, i.periodStart, i.periodEnd)

namespace OnePerPeriod

/-- At most one row for each `(subscription_id, period_start, period_end)`. -/
def Unique (db : Database) : Prop := (db.invoices.map Invoice.period).Nodup

instance (db : Database) : Decidable (Unique db) := inferInstanceAs (Decidable (List.Nodup _))

/-- The period that a call has looked up without a result and is about to bill. -/
def aboutToBill : Session → Option (Uuid × Option DateTime × Option DateTime)
  | .calculateBill _ (.insert subscription _ start stop _) =>
    some (subscription.id, some start, some stop)
  | _ => none

/-- The call that takes this step is not about to bill a period that another
    call is about to bill as well. -/
def Alone {ι : Type*} (c : System ι) (a : ι × Input) : Prop :=
  aboutToBill (c.locals a.1) = none ∨
    ∀ j, j ≠ a.1 → aboutToBill (c.locals j) ≠ aboutToBill (c.locals a.1)

instance {ι : Type*} [Fintype ι] [DecidableEq ι] (c : System ι) (a : ι × Input) :
    Decidable (Alone c a) :=
  inferInstanceAs (Decidable (_ ∨ _))

/-- A call of `calculate_bill` has loaded the subscription that it asked for. -/
def LoadedOwn : Session → Prop
  | .calculateBill bill pc =>
    match pc with
    | .readPlan subscription | .readTotal subscription _ | .lookupInvoice subscription _ _ _ _ =>
      subscription.id = bill.subscriptionId
    | _ => True
  | _ => True

theorem loadedOwn_of_isStart {s : Session} (h : s.IsStart) :
    LoadedOwn s ∧ aboutToBill s = none := by
  cases s with
  | calculateBill bill pc => obtain rfl : pc = .readSubscription := h; exact ⟨trivial, rfl⟩
  | _ => exact ⟨trivial, rfl⟩

theorem getBySubscriptionAndPeriod_eq_none {db : Database} {sid : Uuid} {start stop : DateTime}
    (h : getBySubscriptionAndPeriod db sid start stop = none) :
    (sid, some start, some stop) ∉ db.invoices.map Invoice.period := by
  intro hmem
  obtain ⟨i, hi, hp⟩ := List.mem_map.mp hmem
  have hnot := List.find?_eq_none.mp h i hi
  simp only [Invoice.period, Prod.mk.injEq] at hp
  exact hnot (isForPeriod_iff.mpr hp)

section Step

variable {bill : BillRequest} {now : DateTime} {id : Uuid} {db db' : Database} {pc pc' : BillPc}

/-- The periods that have an invoice. -/
def billedPeriods (db : Database) : List (Uuid × Option DateTime × Option DateTime) :=
  db.invoices.map Invoice.period

/-- **One step of `calculate_bill`**: what the call knows next, and at most the one
    invoice that it was about to bill. -/
theorem looksThenInserts_billStep (hpc : LoadedOwn (.calculateBill bill pc))
    (h : billStep bill now id db pc = some (db', pc')) :
    LooksThenInserts billedPeriods aboutToBill db (.calculateBill bill pc) db'
        (.calculateBill bill pc') ∧ LoadedOwn (.calculateBill bill pc') := by
  cases pc with
  | readSubscription =>
    simp only [billStep] at h
    split at h <;> cases h
    · exact ⟨.of_idle rfl rfl, trivial⟩
    · exact ⟨.of_idle rfl rfl, (getById_eq_some_iff.mp ‹_›).2⟩
  | readPlan subscription =>
    simp only [billStep] at h
    split at h <;> cases h
    · exact ⟨.of_idle rfl rfl, trivial⟩
    · exact ⟨.of_idle rfl rfl, hpc⟩
  | readTotal subscription plan =>
    simp only [billStep] at h
    split at h <;> cases h
    · exact ⟨.of_idle rfl rfl, trivial⟩
    · exact ⟨.of_idle rfl rfl, hpc⟩
  | lookupInvoice subscription plan start stop totalUsage =>
    simp only [billStep] at h
    split at h <;> cases h
    · exact ⟨.of_idle rfl rfl, trivial⟩
    · have hnone := getBySubscriptionAndPeriod_eq_none ‹_›
      refine ⟨.inl ⟨rfl, ?_⟩, trivial⟩
      rintro p hp
      cases hp
      rw [show subscription.id = bill.subscriptionId from hpc]
      exact .inr hnone
  | insert subscription plan start stop totalUsage =>
    simp only [billStep] at h
    split at h
    · rename_i db₁ hins
      cases h
      have ht := commit_eq_ok.mp hins
      refine ⟨.inr ⟨rfl, _, rfl, ?_⟩, trivial⟩
      rw [billedPeriods, ht, List.map_append, List.map_singleton]
      rfl
    · cases h; exact ⟨.of_idle rfl rfl, trivial⟩
  | done result => simp [billStep] at h

end Step

/-- The same for a step of any call. -/
theorem looksThenInserts_step {driver : Driver} {input : Input} {db db' : Database}
    {s s' : Session} (hs : LoadedOwn s) (h : Session.step driver input db s = some (db', s')) :
    LooksThenInserts billedPeriods aboutToBill db s db' s' ∧ LoadedOwn s' := by
  have hsame : db'.invoices = db.invoices → billedPeriods db' = billedPeriods db :=
    congrArg (List.map Invoice.period)
  cases s with
  | calculateBill bill pc =>
    obtain ⟨pc', hstep, rfl⟩ := Session.step_calculateBill.mp h
    exact looksThenInserts_billStep hs hstep
  | recordUsage usage pc =>
    obtain ⟨pc', hstep, rfl⟩ := Session.step_recordUsage.mp h
    exact ⟨.of_idle (hsame (by rw [recordStep_other hstep])) rfl, trivial⟩
  | handleWebhook event pc =>
    obtain ⟨pc', hstep, rfl⟩ := Session.step_handleWebhook.mp h
    exact ⟨.of_idle (hsame (by rw [(webhookStep_other hstep).1])) rfl, trivial⟩
  | runOnce attempts pc =>
    obtain ⟨pc', hstep, rfl⟩ := Session.step_runOnce.mp h
    exact ⟨.of_idle (hsame (by rw [(jobStep_other hstep).1])) rfl, trivial⟩

variable {ι : Type*} [DecidableEq ι] {driver : Driver} {c₀ c : System ι}

/-- **One invoice per period, as long as no two calls are about to bill it.** -/
theorem one_per_period_of_alone (hstart : ∀ i, (c₀.locals i).IsStart) (hinit : Unique c₀.shared)
    (hrun : Run (System.next driver) Alone c₀ c) : Unique c.shared :=
  Interleaving.Run.nodup_of_alone (fun _ _ _ _ _ hs h => looksThenInserts_step hs h) hrun
    (fun j => (loadedOwn_of_isStart (hstart j)).1) (fun j => (loadedOwn_of_isStart (hstart j)).2)
    hinit

/-! ## Two concurrent calls -/

def july : BillRequest where
  subscriptionId := ⟨3⟩
  periodStart := none
  periodEnd := none

def race : System Bool :=
  Sample.pair (.calculateBill july .readSubscription) (.calculateBill july .readSubscription)

/-- The second call starts its lookup after the first one has inserted. -/
theorem one_per_period_of_alone_in_turn : ∃ c, Run (System.next .stringsOnly) Alone race c ∧
    c.shared.invoices.length = 1 ∧ Unique c.shared := by
  have hrun := Run.of_execGuarded_isSome (show (execGuarded (System.next .stringsOnly) Alone race
    (Sample.schedule [false, true, false, true, false, true, false, false, true])).isSome by decide)
  have hstart : ∀ i, (race.locals i).IsStart := by intro i; cases i <;> rfl
  exact ⟨_, hrun, by decide, one_per_period_of_alone hstart (by decide) hrun⟩

/-- A call that is about to bill a period that has been billed in the meantime
    inserts a second invoice, unless the database refuses the row. -/
theorem second_insert_duplicates {i : ι} {input : Input} {c' : System ι}
    {p : Uuid × Option DateTime × Option DateTime} (hp : aboutToBill (c.locals i) = some p)
    (hmem : p ∈ c.shared.invoices.map Invoice.period)
    (h : System.next driver c (i, input) = some c') :
    c'.shared = c.shared ∨ ¬ Unique c'.shared := by
  obtain ⟨db', s', hstep, rfl⟩ := next_eq_some.mp h
  generalize hs : c.locals i = s at hp hstep
  cases s with
  | calculateBill bill pc =>
    obtain ⟨pc', hbill, rfl⟩ := Session.step_calculateBill.mp hstep
    rcases billStep_effect hbill with heq | ⟨subscription, plan, start, stop, totalUsage, rfl, ht⟩
    · exact .inl heq
    · cases hp
      refine .inr fun hu => ?_
      rw [Unique, ht] at hu
      exact (nodup_map_concat.mp hu).2 hmem
  | _ => cases hp

/-- Both calls look before either of them inserts. -/
theorem two_bills_one_period : (∀ i, (race.locals i).IsStart) ∧ Unique race.shared ∧
    ∃ c, Run (System.next .stringsOnly) FreshIds race c ∧ ¬ Unique c.shared := by
  refine ⟨by intro i; cases i <;> rfl, by decide, ?_⟩
  have hrun := Run.of_execGuarded_isSome (show (execGuarded (System.next .stringsOnly) FreshIds race
    (Sample.schedule [false, false, false, false, true, true, true, true, false, true])).isSome
      by decide)
  exact ⟨_, hrun, by decide⟩

end OnePerPeriod

end BillingEngine
