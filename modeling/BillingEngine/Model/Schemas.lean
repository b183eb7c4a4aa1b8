import BillingEngine.Model.Tables

/-!
# Request and response schemas (`app/schemas/`)

A value of a request type is a body that pydantic has validated: the field
constraints and what the after-validator of `TokenUsageCreate` establishes are
fields of the structure. `TokenUsageCreate` inherits `usage_type` as a field
with another default, so a caller may still send either type.
-/

namespace BillingEngine

/-- `UsageCreate`, the body of `POST /usage`. -/
structure UsageCreate where
  subscriptionId : Uuid
  quantity : ℤ
  usageType : UsageType := .apiCall
  idempotencyKey : String
  /-- `Field(gt=0)` -/
  quantity_pos : 0 < quantity

/-- `TokenUsageCreate`, the body of `POST /generate`. -/
structure TokenUsageCreate where
  subscriptionId : Uuid
  usageType : UsageType := .tokens
  idempotencyKey : String
  cachedInputTokens : ℤ
  inputTokens : ℤ
  outputTokens : ℤ
  reasoningTokens : ℤ
  quantity : ℤ
  /-- `Field(ge=0)` of the four token counts -/
  tokens_nonneg : 0 ≤ cachedInputTokens ∧ 0 ≤ inputTokens ∧ 0 ≤ outputTokens ∧ 0 ≤ reasoningTokens
  /-- `_derive_quantity` -/
  quantity_eq : quantity = cachedInputTokens + inputTokens + outputTokens + reasoningTokens

/-- What `record_usage` is called with: either body. -/
inductive UsageRequest where
  | usage (body : UsageCreate)
  | tokens (body : TokenUsageCreate)

namespace UsageRequest

def subscriptionId : UsageRequest → Uuid
  | usage body => body.subscriptionId
  | tokens body => body.subscriptionId

def quantity : UsageRequest → ℤ
  | usage body => body.quantity
  | tokens body => body.quantity

def usageType : UsageRequest → UsageType
  | usage body => body.usageType
  | tokens body => body.usageType

def idempotencyKey : UsageRequest → String
  | usage body => body.idempotencyKey
  | tokens body => body.idempotencyKey

/-- `getattr(usage, "cached_input_tokens", 0)` -/
def cachedInputTokens : UsageRequest → ℤ
  | usage _ => 0
  | tokens body => body.cachedInputTokens

/-- `getattr(usage, "input_tokens", 0)` -/
def inputTokens : UsageRequest → ℤ
  | usage _ => 0
  | tokens body => body.inputTokens

/-- `getattr(usage, "output_tokens", 0)` -/
def outputTokens : UsageRequest → ℤ
  | usage _ => 0
  | tokens body => body.outputTokens

/-- `getattr(usage, "reasoning_tokens", 0)` -/
def reasoningTokens : UsageRequest → ℤ
  | usage _ => 0
  | tokens body => body.reasoningTokens

/-- Every admitted request asks for a non-negative quantity. -/
theorem quantity_nonneg (r : UsageRequest) : 0 ≤ r.quantity := by
  cases r with
  | usage body => exact le_of_lt body.quantity_pos
  | tokens body =>
    have h := body.tokens_nonneg
    have := body.quantity_eq
    simp only [quantity]; omega

/-- No count of a request is larger than its quantity. -/
theorem tokens_le_quantity (r : UsageRequest) :
    (0 ≤ r.cachedInputTokens ∧ r.cachedInputTokens ≤ r.quantity) ∧
      (0 ≤ r.inputTokens ∧ r.inputTokens ≤ r.quantity) ∧
      (0 ≤ r.outputTokens ∧ r.outputTokens ≤ r.quantity) ∧
      (0 ≤ r.reasoningTokens ∧ r.reasoningTokens ≤ r.quantity) := by
  cases r with
  | usage body =>
    have hpos := body.quantity_pos
    simp only [cachedInputTokens, inputTokens, outputTokens, reasoningTokens, quantity]
    omega
  | tokens body =>
    have hnonneg := body.tokens_nonneg
    have hsum := body.quantity_eq
    simp only [cachedInputTokens, inputTokens, outputTokens, reasoningTokens, quantity]
    omega

end UsageRequest

/-- `PlanCreate` -/
structure PlanCreate where
  name : String
  price : ℤ
  usageLimit : ℤ
  apiCallLimit : ℤ := 0
  tokensLimit : ℤ := 0
  stripePriceId : Option String := none
  stripeProductId : Option String := none

/-- `TenantCreate` -/
structure TenantCreate where
  name : String
  email : String

/-- `SubscriptionCreate` -/
structure SubscriptionCreate where
  tenantId : Uuid
  planId : Uuid

/-- `TenantResponse` -/
structure TenantResponse where
  id : Uuid
  name : String
  email : String
  isActive : Bool
deriving DecidableEq

/-- `TenantResponse.model_validate(tenant)` -/
def TenantResponse.ofTenant (t : Tenant) : TenantResponse where
  id := t.id
  name := t.name
  email := t.email
  isActive := t.isActive

/-- `PlanResponse` -/
structure PlanResponse where
  id : Uuid
  name : String
  price : ℤ
  usageLimit : ℤ
  apiCallLimit : ℤ
  tokensLimit : ℤ
  stripePriceId : Option String
  stripeProductId : Option String
  isActive : Bool
deriving DecidableEq

/-- `PlanResponse.model_validate(plan)` -/
def PlanResponse.ofPlan (p : Plan) : PlanResponse where
  id := p.id
  name := p.name
  price := p.price
  usageLimit := p.usageLimit
  apiCallLimit := p.apiCallLimit
  tokensLimit := p.tokensLimit
  stripePriceId := p.stripePriceId
  stripeProductId := p.stripeProductId
  isActive := p.isActive

/-- `SubscriptionResponse` -/
structure SubscriptionResponse where
  id : Uuid
  tenantId : Uuid
  planId : Uuid
  status : String
deriving DecidableEq

/-- `SubscriptionResponse.model_validate(subscription)` -/
def SubscriptionResponse.ofSubscription (s : Subscription) : SubscriptionResponse where
  id := s.id
  tenantId := s.tenantId
  planId := s.planId
  status := s.status.value

/-- `UsageResponse` -/
structure UsageResponse where
  id : Uuid
  subscriptionId : Uuid
  usageType : UsageType
  quantity : ℤ
deriving DecidableEq

/-- `UsageResponse.model_validate(event)` -/
def UsageResponse.ofEvent (e : UsageEvent) : UsageResponse where
  id := e.id
  subscriptionId := e.subscriptionId
  usageType := e.usageType
  quantity := e.quantity

/-- `UsageRollupResponse`; `cost_cents` is the exact value of the float. -/
structure UsageRollupResponse where
  subscriptionId : Uuid
  planId : Uuid
  usedApiCalls : ℤ
  apiCallLimit : ℤ
  usedTokens : ℤ
  tokensLimit : ℤ
  costMicro : ℤ
  costCents : ℚ
deriving DecidableEq

/-- `BillingResponse`, the dictionary built by `BillingService._to_dict`. -/
structure BillingResponse where
  subscriptionId : Uuid
  planPrice : ℤ
  usageLimit : ℤ
  totalUsage : ℤ
  overage : ℤ
  amountDue : ℤ
deriving DecidableEq

/-- `InvoiceResponse` -/
structure InvoiceResponse where
  id : Uuid
  subscriptionId : Uuid
  planPrice : ℤ
  usageLimit : ℤ
  totalUsage : ℤ
  overage : ℤ
  amountDue : ℤ
  createdAt : DateTime
deriving DecidableEq

/-- `InvoiceResponse.model_validate(invoice)` -/
def InvoiceResponse.ofInvoice (i : Invoice) : InvoiceResponse where
  id := i.id
  subscriptionId := i.subscriptionId
  planPrice := i.planPrice
  usageLimit := i.usageLimit
  totalUsage := i.totalUsage
  overage := i.overage
  amountDue := i.amountDue
  createdAt := i.createdAt

end BillingEngine
