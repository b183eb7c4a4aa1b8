import Mathlib

/-!
# Exceptions

The exceptions that end a call: those of Python and of the database driver that
the services can meet, and the `HTTPException` subclasses of
`app/core/exceptions.py`. A function that may raise returns `Except Exn`.
-/

namespace BillingEngine

/-- An exception as its class and its payload. -/
inductive Exn where
  /-- `KeyError(key)` -/
  | keyError (key : String)
  | indexError
  | typeError
  | attributeError
  /-- `ValueError(message)` -/
  | valueError (message : String)
  /-- `sqlalchemy.exc.IntegrityError`: a unique, primary or foreign key constraint. -/
  | integrityError
  /-- `sqlalchemy.exc.DataError`: a value out of the range of its column type. -/
  | dataError
  /-- Any other error of the database driver, such as a value it cannot adapt. -/
  | driverError
  /-- An error of a Stripe API call. -/
  | stripeError
  /-- FastAPI's `ResponseValidationError`: what the endpoint returned is not of the
      declared response type. -/
  | responseValidation
  /-- `fastapi.HTTPException(status_code, detail)` -/
  | httpException (statusCode : ℕ) (detail : String)
  /-- `ResourceNotFoundException(detail)` -/
  | resourceNotFound (detail : String)
  /-- `QuotaExceededException(detail, retry_after)` -/
  | quotaExceeded (detail : String) (retryAfter : ℕ)
  /-- `SubscriptionNotActiveException(detail)` -/
  | subscriptionNotActive (detail : String)
deriving DecidableEq

namespace Exn

/-- The HTTP status of the response; an exception that is not an
    `HTTPException` becomes a 500. -/
def statusCode : Exn → ℕ
  | httpException statusCode _ => statusCode
  | resourceNotFound _ => 404
  | quotaExceeded _ _ => 429
  | subscriptionNotActive _ => 402
  | _ => 500

/-- The response headers: `{"Retry-After": str(retry_after)}` for a quota error. -/
def headers : Exn → List (String × String)
  | quotaExceeded _ retryAfter => [("Retry-After", toString retryAfter)]
  | _ => []

/-- The default `retry_after` of `QuotaExceededException`. -/
def defaultRetryAfter : ℕ := 3600

end Exn

/-- A block that returns has run its first call and the rest. -/
theorem bind_eq_ok {α β : Type} {x : Except Exn α} {f : α → Except Exn β} {b : β} :
    x >>= f = .ok b ↔ ∃ a, x = .ok a ∧ f a = .ok b := by
  cases x <;> simp [bind, Except.bind]

theorem map_eq_ok {α β : Type} {x : Except Exn α} {f : α → β} {b : β} :
    f <$> x = .ok b ↔ ∃ a, x = .ok a ∧ f a = b := by
  cases x <;> simp [Functor.map, Except.map]

theorem toOption_eq_some {α : Type} {x : Except Exn α} {a : α} :
    x.toOption = some a ↔ x = .ok a := by
  cases x <;> simp [Except.toOption]

theorem toOption_eq_none {α : Type} {x : Except Exn α} :
    x.toOption = none ↔ ∃ exn, x = .error exn := by
  cases x <;> simp [Except.toOption]

end BillingEngine
