import BillingEngine.Services.Stripe

/-!
# `StripeService.create_checkout_session` (`app/services/stripe_service.py`, lines 49–85)

The plan goes to Stripe twice: as its price in the line items, and as its key in
the metadata, which Stripe sends back with `checkout.session.completed`. Stripe is
a function of the parameters of `checkout.Session.create`: the url of the created
session or an exception.

Results: `createCheckoutSession_eq_ok` (what a call that returns has sent) and
`checkoutFields_eq` (what the webhook handler reads back from the metadata).
-/

namespace BillingEngine

/-- The settings that the call reads (`app/core/config.py`, lines 14–17). -/
structure StripeSettings where
  stripeApiKey : Option String := none
  stripeSuccessUrl : String := "http://localhost:8000/success"
  stripeCancelUrl : String := "http://localhost:8000/cancel"

/-- One entry of `line_items`. -/
structure LineItem where
  price : String
  quantity : ℕ
deriving DecidableEq

/-- The parameters of `checkout.Session.create`; `customer` may be left out. -/
structure SessionParams where
  mode : String
  lineItems : List LineItem
  successUrl : String
  cancelUrl : String
  clientReferenceId : String
  metadata : List (String × String)
  customer : Option String
deriving DecidableEq

namespace StripeService

open SubscriptionRepository

/-- A text that is neither `None` nor empty. -/
def truthyText (text : Option String) : Option String := text.filter (· ≠ "")

/-- The `session_params` of lines 70–83. -/
def sessionParams (settings : StripeSettings) (tenantId planId : Uuid) (price : String)
    (existing : Option Subscription) : SessionParams where
  mode := "subscription"
  lineItems := [{ price, quantity := 1 }]
  successUrl := settings.stripeSuccessUrl
  cancelUrl := settings.stripeCancelUrl
  clientReferenceId := tenantId.str
  metadata := [("tenant_id", tenantId.str), ("plan_id", planId.str)]
  customer := existing.bind fun s => truthyText s.stripeCustomerId

/-- `create_checkout_session(tenant_id, plan_id)` -/
def createCheckoutSession (settings : StripeSettings) (create : SessionParams → Except Exn String)
    (db : Database) (tenantId planId : Uuid) : Except Exn String :=
  match truthyText settings.stripeApiKey with
  | none => .error (.httpException 500 "STRIPE_API_KEY is not configured")
  | some _ =>
    match PlanRepository.getById db planId with
    | none => .error (.httpException 404 "Plan not found")
    | some plan =>
      match truthyText plan.stripePriceId with
      | none => .error (.httpException 500 (s!"Plan '{plan.name}' has no Stripe price id. " ++
          "Create a test-mode price and set plan.stripe_price_id."))
      | some price =>
        create (sessionParams settings tenantId planId price (getByTenant db tenantId))

theorem truthyText_eq_some {text : Option String} {t : String} :
    truthyText text = some t ↔ text = some t ∧ t ≠ "" := by
  rw [truthyText, Option.filter_eq_some_iff]
  simp

variable {settings : StripeSettings} {create : SessionParams → Except Exn String} {db : Database}
  {tenantId planId : Uuid} {price url : String}

/-- **What a call that returns has sent.** -/
theorem createCheckoutSession_eq_ok
    (h : createCheckoutSession settings create db tenantId planId = .ok url) :
    ∃ plan price, PlanRepository.getById db planId = some plan ∧
      plan.stripePriceId = some price ∧ price ≠ "" ∧
      create (sessionParams settings tenantId planId price (getByTenant db tenantId)) =
        .ok url := by
  unfold createCheckoutSession at h
  split at h
  · cases h
  · split at h
    · cases h
    · rename_i plan hplan
      split at h
      · cases h
      · rename_i price hprice
        obtain ⟨hprice, hne⟩ := truthyText_eq_some.mp hprice
        exact ⟨plan, price, hplan, hprice, hne, h⟩

/-! ## The metadata on its way back -/

/-- The session object has the metadata of the parameters. -/
def Echoes (params : SessionParams) (sessionObj : Json) : Prop :=
  ∃ fields, sessionObj.get "metadata" = .ok (.obj fields) ∧
    ∀ p ∈ params.metadata, fields.lookup p.1 = some (.str p.2)

/-- What the handler reads from a session that has been paid for. -/
theorem checkoutFields_eq {driver : Driver} {sessionObj : Json} {existing : Option Subscription}
    {stripeId : String}
    (hechoes : Echoes (sessionParams settings tenantId planId price existing) sessionObj)
    (hlink : sessionObj.get "subscription" = .ok (.str stripeId)) (hne : stripeId ≠ "") :
    checkoutFields driver sessionObj =
      (fun customer => { tenantId, planId, customer, subscription := some stripeId }) <$>
        optionalText driver sessionObj "customer" := by
  obtain ⟨metadata, hmetadata, hall⟩ := hechoes
  have htenant : metadata.lookup "tenant_id" = some (.str tenantId.str) :=
    hall ("tenant_id", tenantId.str) (by simp [sessionParams])
  have hplan : metadata.lookup "plan_id" = some (.str planId.str) :=
    hall ("plan_id", planId.str) (by simp [sessionParams])
  have htruthy : (Json.obj metadata).truthy = true := by
    cases metadata with
    | nil => simp at htenant
    | cons => rfl
  have hsubscription : optionalText driver sessionObj "subscription" = .ok (some stripeId) := by
    simp [optionalText, hlink, Json.truthy, hne, driver.bindText_str, bind, Except.bind, pure,
      Except.pure]
  unfold checkoutFields
  simp only [hmetadata, htruthy, Json.getItem, htenant, hplan, toUuid, Uuid.parse_str,
    hsubscription, bind, Except.bind, if_true]
  rfl

/-- A session that has been paid for is about the same tenant and plan. -/
theorem checkoutFields_of_echoes {driver : Driver} {sessionObj : Json} {fields : CheckoutFields}
    {existing : Option Subscription} {stripeId : String}
    (hechoes : Echoes (sessionParams settings tenantId planId price existing) sessionObj)
    (hlink : sessionObj.get "subscription" = .ok (.str stripeId)) (hne : stripeId ≠ "")
    (hfields : checkoutFields driver sessionObj = .ok fields) :
    fields.tenantId = tenantId ∧ fields.planId = planId ∧ fields.subscription = some stripeId := by
  rw [checkoutFields_eq hechoes hlink hne] at hfields
  obtain ⟨customer, -, rfl⟩ := map_eq_ok.mp hfields
  exact ⟨rfl, rfl, rfl⟩

end StripeService

end BillingEngine
