import BillingEngine.Common.Reservations
import BillingEngine.Webhooks.OnePerTenant

/-!
# How many subscriptions one tenant can get

The checkout handler looks for the tenant's subscription and inserts one with its
commit when it has found none. Checkouts that look before the first of them commits
all insert; one that looks later updates a row.

Results:
* `subscriptions_le_of_crowd`: with fewer than `k` other checkouts of a tenant between
  lookup and commit at any time, the tenant has at most `k` subscriptions, or as many as at
  the start if that is more.
-/

namespace BillingEngine

open Runs Interleaving

namespace OnePerTenant

variable {ι : Type*} [DecidableEq ι] {driver : Driver} {c₀ c : System ι} {k : ℕ}

/-- **At most as many subscriptions as checkouts between lookup and commit**, and no more
    than there were if the tenant has one already. -/
theorem subscriptions_le_of_crowd (tenantId : Uuid) (hk : 0 < k)
    (hstart : ∀ i, (c₀.locals i).IsStart)
    (hrun : Run (System.next driver) (Crowd (holds aboutToInsert tenantId) k) c₀ c) :
    (c.shared.subscriptions.map Subscription.tenantId).count tenantId ≤
      max ((c₀.shared.subscriptions.map Subscription.tenantId).count tenantId) k :=
  Interleaving.Run.count_le_slack (L := fun _ => True) tenantId hk
    (fun _ _ _ _ _ _ h => ⟨looksThenInserts_step h, trivial⟩) hrun (fun _ => trivial)
    (fun i => aboutToInsert_of_isStart (hstart i))

/-- Two checkouts look before either of them commits, and both insert. -/
theorem subscriptions_le_of_crowd_two : ∃ c, Run (System.next .stringsOnly)
      (Crowd (holds aboutToInsert ⟨1⟩) 2) race c ∧
    c.shared.subscriptions.length = 2 ∧
      (c.shared.subscriptions.map Subscription.tenantId).count ⟨1⟩ ≤ max 0 2 := by
  have hrun := Run.of_execGuarded_isSome (show (execGuarded (System.next .stringsOnly)
    (Crowd (holds aboutToInsert ⟨1⟩) 2) race
    (Sample.schedule [false, true, false, true, false, true])).isSome by decide)
  exact ⟨_, hrun, by decide, subscriptions_le_of_crowd _ (by decide) race_isStart hrun⟩

end OnePerTenant

end BillingEngine
