import BillingEngine.Metering.ExactlyOnce
import BillingEngine.Services.Cost

/-!
# What a successful call has metered

A call of `record_usage` that does not raise returns the row stored under its
key. That the row is about the usage of the request itself is not checked on any
of the three ways to it: the first request under a key is the one that is
metered, and all the others are answered with its event. Keys are chosen by the
callers and shared by both endpoints, so a key that is used again for other
usage leaves that usage out of the ledger.

Results:
* `run_sourced`: every stored event was there at the start or carries the usage of
  a request of the run under its key.
* `success_metered`: so a successful call has metered its own usage if no other
  usage is sent under its key, and `generate` charges for it.
* `reused_key`: a key that is used again.
-/

namespace BillingEngine

open Runs Interleaving UsageRepository

namespace Success

/-- What is metered. -/
structure Metering where
  subscriptionId : Uuid
  usageType : UsageType
  quantity : ℤ
  cachedInputTokens : ℤ
  inputTokens : ℤ
  outputTokens : ℤ
  reasoningTokens : ℤ
deriving DecidableEq

/-- The usage that a request asks to meter. -/
def requested (usage : UsageRequest) : Metering where
  subscriptionId := usage.subscriptionId
  usageType := usage.usageType
  quantity := usage.quantity
  cachedInputTokens := usage.cachedInputTokens
  inputTokens := usage.inputTokens
  outputTokens := usage.outputTokens
  reasoningTokens := usage.reasoningTokens

/-- The usage that an event carries. -/
def carried (e : UsageEvent) : Metering where
  subscriptionId := e.subscriptionId
  usageType := e.usageType
  quantity := e.quantity
  cachedInputTokens := e.cachedInputTokens
  inputTokens := e.inputTokens
  outputTokens := e.outputTokens
  reasoningTokens := e.reasoningTokens

variable {ι : Type*} [DecidableEq ι] {driver : Driver} {c₀ c : System ι} {usage : UsageRequest}
  {e : UsageEvent}

/-- No other usage is stored or sent under the key of the request. -/
structure KeyForOneUsage (c₀ : System ι) (usage : UsageRequest) : Prop where
  stored : ∀ e ∈ c₀.shared.usageEvents, e.idempotencyKey = usage.idempotencyKey →
    carried e = requested usage
  sent : ∀ j usage' pc, c₀.locals j = .recordUsage usage' pc →
    usage'.idempotencyKey = usage.idempotencyKey → requested usage' = requested usage

/-! ## Where the events come from -/

/-- The event carries the usage of a request of the run, under its key. -/
def FromRequest (c₀ : System ι) (e : UsageEvent) : Prop :=
  ∃ j usage pc, c₀.locals j = .recordUsage usage pc ∧ carried e = requested usage ∧
    e.idempotencyKey = usage.idempotencyKey

/-- The requests are those of the start, and the events are from there or from them. -/
structure Sourced (c₀ c : System ι) : Prop where
  requests : ∀ j usage pc, c.locals j = .recordUsage usage pc →
    ∃ pc', c₀.locals j = .recordUsage usage pc'
  events : ∀ e ∈ c.shared.usageEvents, e ∈ c₀.shared.usageEvents ∨ FromRequest c₀ e

/-- A step of a call keeps the events, or it is an insert of `record_usage`. -/
theorem step_usageEvents {input : Input} {db db' : Database} {s s' : Session}
    (h : Session.step driver input db s = some (db', s')) :
    db'.usageEvents = db.usageEvents ∨ ∃ usage pc, s = .recordUsage usage pc ∧
      db'.usageEvents = db.usageEvents ++ [newEvent usage input.id input.now] := by
  cases s with
  | recordUsage usage pc =>
    obtain ⟨pc', hs, -⟩ := Session.step_recordUsage.mp h
    rcases recordStep_effect hs with rfl | ⟨-, -, ht, -⟩
    · exact .inl rfl
    · exact .inr ⟨usage, pc, rfl, by rw [ht]⟩
  | calculateBill bill pc =>
    obtain ⟨pc', hs, -⟩ := Session.step_calculateBill.mp h
    exact .inl (by rw [billStep_other hs])
  | handleWebhook event pc =>
    obtain ⟨pc', hs, -⟩ := Session.step_handleWebhook.mp h
    exact .inl (by rw [(webhookStep_other hs).1])
  | runOnce attempts pc =>
    obtain ⟨pc', hs, -⟩ := Session.step_runOnce.mp h
    exact .inl (by rw [(jobStep_other hs).1])

/-- A call keeps its request. -/
theorem step_request {input : Input} {db db' : Database} {s : Session} {pc' : RecordPc}
    (h : Session.step driver input db s = some (db', .recordUsage usage pc')) :
    ∃ pc, s = .recordUsage usage pc := by
  cases s with
  | recordUsage usage' pc =>
    obtain ⟨_, -, heq⟩ := Session.step_recordUsage.mp h
    cases heq
    exact ⟨pc, rfl⟩
  | calculateBill bill pc => obtain ⟨_, -, heq⟩ := Session.step_calculateBill.mp h; cases heq
  | handleWebhook event pc => obtain ⟨_, -, heq⟩ := Session.step_handleWebhook.mp h; cases heq
  | runOnce attempts pc => obtain ⟨_, -, heq⟩ := Session.step_runOnce.mp h; cases heq

theorem run_sourced {ok : System ι → ι × Input → Prop} (hrun : Run (System.next driver) ok c₀ c) :
    Sourced c₀ c := by
  refine hrun.invariant (P := Sourced c₀) ?_ ⟨fun _ _ pc h => ⟨pc, h⟩, fun _ => .inl⟩
  rintro c ⟨i, input⟩ c' hs - hnext
  obtain ⟨db, s, hstep, rfl⟩ := next_eq_some.mp hnext
  constructor
  · intro j usage pc hj
    dsimp only at hj
    by_cases hji : j = i
    · subst hji
      rw [Function.update_self] at hj
      subst hj
      obtain ⟨pc₀, hpc₀⟩ := step_request hstep
      exact hs.requests j usage pc₀ hpc₀
    · rw [Function.update_of_ne hji] at hj
      exact hs.requests j usage pc hj
  · intro e he
    rcases step_usageEvents hstep with hsame | ⟨usage, pc, hi, hnew⟩
    · rw [hsame] at he
      exact hs.events e he
    · rw [hnew, List.mem_append, List.mem_singleton] at he
      rcases he with hold | rfl
      · exact hs.events e hold
      · obtain ⟨pc₀, hpc₀⟩ := hs.requests i usage pc hi
        exact .inr ⟨i, usage, pc₀, hpc₀, rfl, rfl⟩

/-! ## Success -/

/-- The cost of an event is that of the usage it carries. -/
theorem costOf_of_carried {request : TokenUsageCreate}
    (h : carried e = requested (.tokens request)) : (GenerateService.respond e).costMicro =
      CostService.calculateTokenCost request.cachedInputTokens request.inputTokens
        request.outputTokens request.reasoningTokens := by
  simp only [carried, requested, Metering.mk.injEq] at h
  obtain ⟨-, -, -, hcached, hinput, houtput, hreasoning⟩ := h
  simp only [GenerateService.respond, GenerateService.costOf, hcached, hinput, houtput, hreasoning]
  rfl

/-- **Success means metered**, for a key that stands for one usage: the call has
    returned the event stored under its key, the event carries the request's own
    usage, and the cost that `generate` answers is that of its own token counts.
    In any case the event carries the usage of some request under that key. -/
theorem success_metered (hstart : ∀ i, (c₀.locals i).IsStart)
    (hrun : Run (System.next driver) FreshIds c₀ c) {i : ι} {r : Option UsageEvent}
    (hdone : c.locals i = .recordUsage usage (.done (.ok r))) :
    ∃ e ∈ c.shared.usageEvents, r = some e ∧ e.idempotencyKey = usage.idempotencyKey ∧
      (e ∈ c₀.shared.usageEvents ∨ FromRequest c₀ e) ∧
      (KeyForOneUsage c₀ usage → carried e = requested usage ∧
        ∀ request, usage = .tokens request → (GenerateService.respond e).costMicro =
          CostService.calculateTokenCost request.cachedInputTokens request.inputTokens
            request.outputTokens request.reasoningTokens) := by
  have hmetered := ExactlyOnce.run_metered hstart hrun i
  rw [hdone] at hmetered
  obtain ⟨e, rfl, hstored⟩ := hmetered
  obtain ⟨hmem, hkey⟩ := getByIdempotencyKey_eq_some_iff.mp hstored
  have hsource := (run_sourced hrun).events e hmem
  refine ⟨e, hmem, rfl, hkey, hsource, fun hone => ?_⟩
  have hcarried : carried e = requested usage := by
    rcases hsource with hold | ⟨j, usage', pc, hj, hcarried, hkey'⟩
    · exact hone.stored e hold hkey
    · rw [hcarried, hone.sent j usage' pc hj (by rw [← hkey', hkey])]
  refine ⟨hcarried, ?_⟩
  rintro request rfl
  exact costOf_of_carried hcarried

/-- Both calls of the race send the same usage. -/
theorem success_metered_race : ∃ c, Run (System.next .stringsOnly) FreshIds ExactlyOnce.race c ∧
    c.locals true =
      .recordUsage (Sample.tenCalls "k") (.done (.ok (some ExactlyOnce.raceEvent))) ∧
    carried ExactlyOnce.raceEvent = requested (Sample.tenCalls "k") := by
  have hrun := Run.of_execGuarded_isSome
    (show (execGuarded (System.next .stringsOnly) FreshIds ExactlyOnce.race
      ExactlyOnce.raceOrder).isSome by decide)
  have hstart : ∀ i, (ExactlyOnce.race.locals i).IsStart := by intro i; cases i <;> rfl
  have hone : KeyForOneUsage ExactlyOnce.race (Sample.tenCalls "k") := by
    refine ⟨fun e he => absurd he List.not_mem_nil, fun j usage' pc hj _ => ?_⟩
    cases j <;> cases hj <;> rfl
  refine ⟨_, hrun, rfl, ?_⟩
  obtain ⟨e, -, hr, -, -, hcarried⟩ := success_metered (i := true) hstart hrun rfl
  cases hr
  exact (hcarried hone).1

/-- A response of two input tokens and one output token. -/
def threeTokens : TokenUsageCreate where
  subscriptionId := ⟨3⟩
  idempotencyKey := "k"
  cachedInputTokens := 0
  inputTokens := 2
  outputTokens := 1
  reasoningTokens := 0
  quantity := 3
  tokens_nonneg := by decide
  quantity_eq := rfl

/-- The key has been used for ten calls already. -/
def reuse : System Bool :=
  Sample.pair (.recordUsage (Sample.tenCalls "k") .lookupKey)
    (.recordUsage (.tokens threeTokens) .lookupKey)

/-- The second request succeeds with the event of the first: its tokens are not in the
    ledger, and `generate` charges nothing for them. -/
theorem reused_key : ∃ c e, Run (System.next .stringsOnly) FreshIds reuse c ∧
    c.locals true = .recordUsage (.tokens threeTokens) (.done (.ok (some e))) ∧
    c.shared.usageEvents = [e] ∧ e.usageType = .apiCall ∧ e.quantity = 10 ∧
    (GenerateService.respond e).costMicro = 0 ∧
    CostService.calculateTokenCost threeTokens.cachedInputTokens threeTokens.inputTokens
      threeTokens.outputTokens threeTokens.reasoningTokens ≠ 0 := by
  have hrun := Run.of_execGuarded_isSome
    (show (execGuarded (System.next .stringsOnly) FreshIds reuse
      (Sample.schedule [false, false, false, false, false, true])).isSome by decide)
  exact ⟨_, newEvent (Sample.tenCalls "k") (Sample.input 4).id Sample.july, hrun, rfl, rfl, rfl,
    rfl, by decide +kernel, by decide +kernel⟩

end Success

end BillingEngine
