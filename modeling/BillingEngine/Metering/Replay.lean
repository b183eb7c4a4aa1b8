import BillingEngine.Services.Cost
import BillingEngine.System.Serial

/-!
# A recorded request is replayed

The key lookup is the first thing that `record_usage` does, before the status of
the subscription, the clock and the quota matter, and events are only appended.
So the event that was once returned under a key is returned under it for good,
by both methods, and `generate` computes the cost from the breakdown that is
stored in it.

Results:
* `stored_of_returned`: a returned event is stored under the key of the request.
* `replays_of_stored`: a stored event is what every call with its key returns.
* `replays_forever`: whatever happens after a call has returned an event.
-/

namespace BillingEngine

open Runs UsageRepository

namespace Replay

/-- Every call with the key returns the event and changes nothing. -/
structure Replays (db : Database) (key : String) (event : UsageEvent) : Prop where
  recordUsage : ∀ usage nowBounds nowInsert id, usage.idempotencyKey = key →
    UsageService.recordUsage db usage nowBounds nowInsert id = (db, .ok (some event))
  generate : ∀ request nowBounds nowInsert id, request.idempotencyKey = key →
    GenerateService.generate db request nowBounds nowInsert id =
      (db, .ok (GenerateService.respond event))

variable {driver : Driver} {db : Database} {usage : UsageRequest} {t₁ t₂ : DateTime} {id : Uuid}
  {event : UsageEvent}

theorem stored_of_returned
    (h : (UsageService.recordUsage db usage t₁ t₂ id).2 = .ok (some event)) :
    getByIdempotencyKey (UsageService.recordUsage db usage t₁ t₂ id).1 usage.idempotencyKey =
      some event := by
  rcases UsageService.recordUsage_cases db usage t₁ t₂ id with
    ⟨existing, hkey, heq⟩ | ⟨_, heq⟩ | heq | ⟨db', hrec, heq⟩ <;> rw [heq] at h ⊢ <;> cases h
  · exact hkey
  · refine getByIdempotencyKey_eq_some_iff.mpr ⟨?_, rfl⟩
    rw [hrec.tables]
    simp

theorem replays_of_stored {key : String} (h : getByIdempotencyKey db key = some event) :
    Replays db key event where
  recordUsage := by
    rintro usage nowBounds nowInsert id rfl
    simp only [UsageService.recordUsage, lookupIdempotencyKey_of_some h]
  generate := by
    rintro request nowBounds nowInsert id rfl
    have hkey : lookupIdempotencyKey db (UsageRequest.tokens request).idempotencyKey =
        .ok (some event) := lookupIdempotencyKey_of_some h
    simp only [GenerateService.generate, UsageService.recordUsage, hkey]

/-- What `generate` answers is about the event that `record_usage` has returned. -/
theorem generate_eq_ok {request : TokenUsageCreate} {response : GenerateResponse}
    (h : (GenerateService.generate db request t₁ t₂ id).2 = .ok response) :
    ∃ event, (UsageService.recordUsage db (.tokens request) t₁ t₂ id).2 = .ok (some event) ∧
      response = GenerateService.respond event := by
  unfold GenerateService.generate at h
  split at h <;> cases h
  rename_i db' event heq
  exact ⟨event, by rw [heq], rfl⟩

/-- **A recorded request replays identically forever**: after `record_usage` has
    returned an event, or `generate` has answered about it, and after anything that
    comes then, both return the same under its key and change nothing. -/
theorem replays_forever {s u v : Serial}
    (hcall : Serial.next driver s (.recordUsage usage t₁ t₂ id) = some u)
    (hrun : Run (Serial.next driver) Always u v) :
    (∀ event, (UsageService.recordUsage s.db usage t₁ t₂ id).2 = .ok (some event) →
      Replays v.db usage.idempotencyKey event) ∧
    ∀ request response, usage = .tokens request →
      (GenerateService.generate s.db request t₁ t₂ id).2 = .ok response →
      ∃ event, response = GenerateService.respond event ∧
        Replays v.db usage.idempotencyKey event := by
  have hdb : u.db = (UsageService.recordUsage s.db usage t₁ t₂ id).1 :=
    (Serial.next_eq_some.mp hcall).2
  have hreplays : ∀ event, (UsageService.recordUsage s.db usage t₁ t₂ id).2 = .ok (some event) →
      Replays v.db usage.idempotencyKey event := by
    intro event hreturned
    have hstored := stored_of_returned hreturned
    rw [← hdb] at hstored
    exact replays_of_stored (getByIdempotencyKey_mono (Serial.run_grows hrun).1 hstored)
  refine ⟨hreplays, ?_⟩
  rintro request response rfl hanswer
  obtain ⟨event, hreturned, rfl⟩ := generate_eq_ok hanswer
  exact ⟨event, rfl, hreplays event hreturned⟩

/-- The whole quota of July is recorded under one key. -/
def recorded : Serial :=
  (Serial.next .stringsOnly Sample.ready
    (.recordUsage (Sample.tenCalls "k") Sample.july Sample.july ⟨10⟩)).get (by decide)

/-- A refused request, a plan without any calls, a bill, and the end of the month. -/
def muchLater : Serial :=
  (exec (Serial.next .stringsOnly) recorded
    [.recordUsage (Sample.tenCalls "l") Sample.july Sample.july ⟨11⟩,
      .editPlans fun plan => { plan with apiCallLimit := 0 },
      .calculateBill ⟨3⟩ Sample.july Sample.july ⟨12⟩,
      .advance Sample.firstOfAugust]).get (by decide)

theorem replays_forever_muchLater :
    Replays muchLater.db "k" (newEvent (Sample.tenCalls "k") ⟨10⟩ Sample.july) :=
  (replays_forever (Option.some_get _).symm (Run.of_exec_isSome _)).1 _ rfl

end Replay

end BillingEngine
