import BillingEngine.Python.Json

/-!
# Enumerations (`app/constants/usage_type.py`, `subscription_status.py`)

`fromStripeStatus` is defined on every decoded value because the webhook handler
and the reconciliation job pass on whatever the Stripe object holds under
`"status"`; everything that is not one of the five listed strings is `ACTIVE`.
-/

namespace BillingEngine

/-- `UsageType`: the two billable activity types every plan meters separately. -/
inductive UsageType where
  | apiCall
  | tokens
deriving DecidableEq

/-- `SubscriptionStatus` -/
inductive SubscriptionStatus where
  | active
  | cancelled
  | pastDue
  | trialing
deriving DecidableEq

/-- `status.value` -/
def SubscriptionStatus.value : SubscriptionStatus → String
  | active => "active"
  | cancelled => "cancelled"
  | pastDue => "past_due"
  | trialing => "trialing"

/-- `from_stripe_status(stripe_status)` (`subscription_status.py`, lines 11–19). -/
def fromStripeStatus : Json → SubscriptionStatus
  | .str s =>
    if s = "trialing" then .trialing
    else if s = "past_due" ∨ s = "unpaid" then .pastDue
    else if s = "canceled" ∨ s = "incomplete_expired" then .cancelled
    else .active
  | _ => .active

end BillingEngine
