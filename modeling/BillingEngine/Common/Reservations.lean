import BillingEngine.Common.Interleaving

/-!
# Check, then act, without a lock

A process checks that the total of a store leaves room for what it is about to add, and
adds it in a later step. From the check on it holds a reservation, of which no other
process knows. So the limit can be exceeded, but only by reservations that were granted
before the last check and not yet used: what counts is how many processes are between
check and act at a time.

Results:
* `Run.booked_le_slack`: in every run in which fewer than `k` others hold a reservation
  whenever a process moves, the total and the open reservations together exceed the limit
  by at most `k - 1` reservations.
* `Run.total_le_slack`: so the total passes the limit, or what it was at the start if that
  is more, by no more than that.
* `Run.count_le_slack`: if the check is that a key is not there yet, the crowd inserts
  the key at most `k` times, and not at all if it was there at the start.
-/

namespace Interleaving

open Runs

variable {ι σ ℓ α : Type*} [DecidableEq ι] {step : α → σ → ℓ → Option (σ × ℓ)}
  {c₀ c : Config ι σ ℓ}

/-- A step grants a reservation for which the total leaves room, or it adds to the total
    no more than it gives up of its reservation. -/
def Reserves (total : σ → ℤ) (reserved : ℓ → ℤ) (limit : ℤ) (sh : σ) (l : ℓ) (sh' : σ) (l' : ℓ) :
    Prop :=
  (total sh' = total sh ∧ total sh + reserved l' ≤ limit) ∨
    total sh' + reserved l' ≤ total sh + reserved l

/-- Fewer than `k` processes other than the one that moves hold a reservation. -/
def Crowd (reserved : ℓ → ℤ) (k : ℕ) (c : Config ι σ ℓ) (a : ι × α) : Prop :=
  ∀ S : Finset ι, a.1 ∉ S → (∀ j ∈ S, reserved (c.locals j) ≠ 0) → S.card < k

/-- More room grants at least as much. -/
theorem Reserves.mono {total : σ → ℤ} {reserved : ℓ → ℤ} {limit limit' : ℤ} {sh sh' : σ}
    {l l' : ℓ} (h : Reserves total reserved limit sh l sh' l') (hle : limit ≤ limit') :
    Reserves total reserved limit' sh l sh' l' :=
  h.imp_left fun ⟨htotal, hroom⟩ => ⟨htotal, hroom.trans hle⟩

instance [Fintype ι] (reserved : ℓ → ℤ) (k : ℕ) (c : Config ι σ ℓ) (a : ι × α) :
    Decidable (Crowd reserved k c a) :=
  decidable_of_iff
    (((Finset.univ.erase a.1).filter fun j => reserved (c.locals j) ≠ 0).card < k) <| by
    constructor
    · intro h S hmem hS
      refine lt_of_le_of_lt (Finset.card_le_card fun j hj => ?_) h
      simp only [Finset.mem_filter, Finset.mem_erase, Finset.mem_univ, and_true]
      exact ⟨fun heq => hmem (heq ▸ hj), hS j hj⟩
    · intro h
      exact h _ (by simp) fun j hj => (Finset.mem_filter.mp hj).2

section Bound

variable {total : σ → ℤ} {reserved : ℓ → ℤ} {limit most : ℤ} {k : ℕ} {L : σ → ℓ → Prop}
  {ok : Config ι σ ℓ → ι × α → Prop}

omit [DecidableEq ι] in
/-- What a crowd holds. -/
theorem Crowd.sum_le {a : ι × α} {S : Finset ι} (h : Crowd reserved k c a) (hmem : a.1 ∉ S)
    (hnonneg : ∀ l, 0 ≤ reserved l) (hmost : ∀ j, reserved (c.locals j) ≤ most) :
    ∑ j ∈ S, reserved (c.locals j) ≤ (k - 1 : ℕ) * most := by
  have hzero : 0 ≤ most := (hnonneg _).trans (hmost a.1)
  set T := S.filter fun j => reserved (c.locals j) ≠ 0 with hT
  have hcard : T.card < k := by
    refine h T ?_ ?_
    · intro hin
      exact hmem (Finset.mem_filter.mp hin).1
    · intro j hj
      exact (Finset.mem_filter.mp hj).2
  calc ∑ j ∈ S, reserved (c.locals j)
      = ∑ j ∈ T, reserved (c.locals j) := (Finset.sum_filter_ne_zero S).symm
    _ ≤ T.card • most := Finset.sum_le_card_nsmul T _ most fun j _ => hmost j
    _ = (T.card : ℤ) * most := nsmul_eq_mul _ _
    _ ≤ (k - 1 : ℕ) * most := by
      refine mul_le_mul_of_nonneg_right ?_ hzero
      exact_mod_cast Nat.le_sub_one_of_lt hcard

/-- **Rule for check, then act.** `L` is what a process knows; `most` bounds the
    reservations. -/
theorem Run.booked_le_slack (total : σ → ℤ) (reserved : ℓ → ℤ) (hnonneg : ∀ l, 0 ≤ reserved l)
    (hmost : ∀ sh l, L sh l → reserved l ≤ most) (hok : ∀ c a, ok c a → Crowd reserved k c a)
    (hstep : ∀ c i a sh l, ok c (i, a) → (∀ j, L c.shared (c.locals j)) →
      step a c.shared (c.locals i) = some (sh, l) →
      Reserves total reserved limit c.shared (c.locals i) sh l ∧ L sh l ∧
        ∀ j, j ≠ i → L sh (c.locals j))
    (hrun : Run (next step) ok c₀ c) (hL : ∀ j, L c₀.shared (c₀.locals j))
    (hinit : ∀ S : Finset ι, total c₀.shared + ∑ j ∈ S, reserved (c₀.locals j) ≤
      limit + (k - 1 : ℕ) * most) :
    (∀ S : Finset ι, total c.shared + ∑ j ∈ S, reserved (c.locals j) ≤
      limit + (k - 1 : ℕ) * most) ∧ ∀ j, L c.shared (c.locals j) := by
  refine hrun.invariant (P := fun c => (∀ S : Finset ι, total c.shared +
    ∑ j ∈ S, reserved (c.locals j) ≤ limit + (k - 1 : ℕ) * most) ∧
      ∀ j, L c.shared (c.locals j)) ?_ ⟨hinit, hL⟩
  rintro c ⟨i, a⟩ c' ⟨hbound, hL⟩ hguard hnext
  obtain ⟨sh, l, hs, rfl⟩ := next_eq_some.mp hnext
  obtain ⟨hreserves, hown, hothers⟩ := hstep c i a sh l hguard hL hs
  constructor
  · intro S
    -- the reservations of the others, and what `i` holds after the step
    have hrest : ∑ j ∈ S.erase i, reserved (Function.update c.locals i l j) =
        ∑ j ∈ S.erase i, reserved (c.locals j) := by
      refine Finset.sum_congr rfl fun j hj => ?_
      rw [Function.update_of_ne (Finset.ne_of_mem_erase hj)]
    have hsum : ∑ j ∈ S, reserved (Function.update c.locals i l j) ≤
        reserved l + ∑ j ∈ S.erase i, reserved (c.locals j) := by
      by_cases hi : i ∈ S
      · rw [← Finset.add_sum_erase S _ hi, hrest, Function.update_self]
      · rw [← hrest, Finset.erase_eq_of_notMem hi]
        have := hnonneg l
        omega
    have hnot : i ∉ S.erase i := Finset.notMem_erase i S
    rcases hreserves with ⟨htotal, hroom⟩ | hbooked
    · have hcrowd := (hok c (i, a) hguard).sum_le hnot hnonneg fun j => hmost _ _ (hL j)
      dsimp only
      omega
    · have hbefore := hbound (insert i (S.erase i))
      rw [Finset.sum_insert hnot] at hbefore
      dsimp only
      omega
  · intro j
    by_cases hj : j = i
    · subst hj
      simpa using hown
    · simpa [Function.update_of_ne hj] using hothers j hj

/-- **The total**, from a start without reservations. -/
theorem Run.total_le_slack (total : σ → ℤ) (reserved : ℓ → ℤ) (limit : ℤ)
    (hnonneg : ∀ l, 0 ≤ reserved l)
    (hmost : ∀ sh l, L sh l → reserved l ≤ most) (hok : ∀ c a, ok c a → Crowd reserved k c a)
    (hstep : ∀ c i a sh l, ok c (i, a) → (∀ j, L c.shared (c.locals j)) →
      step a c.shared (c.locals i) = some (sh, l) →
      Reserves total reserved limit c.shared (c.locals i) sh l ∧ L sh l ∧
        ∀ j, j ≠ i → L sh (c.locals j))
    (hrun : Run (next step) ok c₀ c) (hL : ∀ j, L c₀.shared (c₀.locals j))
    (hstart : ∀ j, reserved (c₀.locals j) = 0) (hzero : 0 ≤ most) :
    total c.shared ≤ max limit (total c₀.shared) + (k - 1 : ℕ) * most := by
  have hslack : 0 ≤ ((k - 1 : ℕ) : ℤ) * most := mul_nonneg (Int.natCast_nonneg _) hzero
  have hinit : ∀ S : Finset ι, total c₀.shared + ∑ j ∈ S, reserved (c₀.locals j) ≤
      max limit (total c₀.shared) + (k - 1 : ℕ) * most := by
    intro S
    rw [Finset.sum_eq_zero fun j _ => hstart j]
    omega
  have hbooked := (Run.booked_le_slack total reserved hnonneg hmost hok ?_ hrun hL hinit).1 ∅
  · rwa [Finset.sum_empty, add_zero] at hbooked
  · intro c i a sh l hguard hL hs
    obtain ⟨hreserves, hknows⟩ := hstep c i a sh l hguard hL hs
    exact ⟨hreserves.mono (le_max_left _ _), hknows⟩

end Bound

/-! ## Keys -/

section Keys

variable {κ : Type*} [DecidableEq κ] [BEq κ] [LawfulBEq κ] {keys : σ → List κ}
  {pending : ℓ → Option κ} {L : ℓ → Prop} {k : ℕ}

/-- What a process that is about to insert `p` holds of it. -/
def holds (pending : ℓ → Option κ) (p : κ) (l : ℓ) : ℤ := if pending l = some p then 1 else 0

theorem LooksThenInserts.reserves {sh sh' : σ} {l l' : ℓ}
    (h : LooksThenInserts keys pending sh l sh' l') (p : κ) :
    Reserves (fun sh => ((keys sh).count p : ℤ)) (holds pending p) 1 sh l sh' l' := by
  have hnonneg : 0 ≤ holds pending p l := by
    unfold holds
    split_ifs <;> decide
  rcases h with ⟨hkeys, hpending⟩ | ⟨hnone, p', hp', hkeys⟩
  · by_cases hp : pending l' = some p
    · rcases hpending p hp with hold | hnew
      · refine .inr (le_of_eq ?_)
        simp only [holds, hkeys, hp, hold]
      · refine .inl ⟨by simp only [hkeys], ?_⟩
        simp only [holds, hp, if_true, List.count_eq_zero_of_not_mem hnew]
        decide
    · refine .inr ?_
      simp only [hkeys]
      rw [show holds pending p l' = 0 from if_neg hp]
      omega
  · refine .inr (le_of_eq ?_)
    simp only [holds, hkeys, hnone, hp', List.count_append, List.count_singleton, Option.some.injEq]
    by_cases heq : p' = p <;> simp [heq]

omit [DecidableEq κ] in
/-- A key that is there is not inserted again by those who have yet to look. -/
theorem Run.count_eq_of_mem {ok : Config ι σ ℓ → ι × α → Prop} {p : κ}
    (hstep : ∀ a sh l sh' l', L l → step a sh l = some (sh', l') →
      LooksThenInserts keys pending sh l sh' l' ∧ L l')
    (hrun : Run (next step) ok c₀ c) (hL : ∀ j, L (c₀.locals j))
    (hstart : ∀ j, pending (c₀.locals j) ≠ some p) (hmem : p ∈ keys c₀.shared) :
    (keys c.shared).count p = (keys c₀.shared).count p := by
  suffices hinv : (keys c.shared).count p = (keys c₀.shared).count p ∧
      ∀ j, pending (c.locals j) ≠ some p ∧ L (c.locals j) from hinv.1
  refine hrun.invariant (P := fun c => (keys c.shared).count p = (keys c₀.shared).count p ∧
    ∀ j, pending (c.locals j) ≠ some p ∧ L (c.locals j)) ?_ ⟨rfl, fun j => ⟨hstart j, hL j⟩⟩
  rintro c ⟨i, a⟩ c' ⟨hcount, hidle⟩ - hnext
  obtain ⟨sh, l, hs, rfl⟩ := next_eq_some.mp hnext
  obtain ⟨hlooks, hown⟩ := hstep a c.shared (c.locals i) sh l (hidle i).2 hs
  have hthere : p ∈ keys c.shared := by
    rw [← List.count_pos_iff, hcount]
    exact List.count_pos_iff.mpr hmem
  have hothers : ∀ j, j ≠ i → Function.update c.locals i l j = c.locals j :=
    fun j hj => Function.update_of_ne hj ..
  rcases hlooks with ⟨hkeys, hpending⟩ | ⟨hnone, p', hp', hkeys⟩
  · refine ⟨by dsimp only; rw [hkeys, hcount], fun j => ?_⟩
    by_cases hj : j = i
    · subst hj
      dsimp only
      rw [Function.update_self]
      refine ⟨fun hp => ?_, hown⟩
      rcases hpending p hp with hold | hnew
      · exact (hidle j).1 hold
      · exact hnew hthere
    · dsimp only
      rw [hothers j hj]
      exact hidle j
  · have hne : p' ≠ p := by
      rintro rfl
      exact (hidle i).1 hp'
    refine ⟨?_, fun j => ?_⟩
    · dsimp only
      rw [hkeys, List.count_append, hcount, List.count_singleton, beq_eq_false_iff_ne.mpr hne]
      rfl
    · by_cases hj : j = i
      · subst hj
        dsimp only
        rw [Function.update_self, hnone]
        exact ⟨nofun, hown⟩
      · dsimp only
        rw [hothers j hj]
        exact hidle j

/-- **Rule for check, then insert, in a crowd.** `L` is what a process knows. -/
theorem Run.count_le_slack (p : κ) (hk : 0 < k)
    (hstep : ∀ a sh l sh' l', L l → step a sh l = some (sh', l') →
      LooksThenInserts keys pending sh l sh' l' ∧ L l')
    (hrun : Run (next step) (Crowd (holds pending p) k) c₀ c) (hL : ∀ j, L (c₀.locals j))
    (hstart : ∀ j, pending (c₀.locals j) = none) :
    (keys c.shared).count p ≤ max ((keys c₀.shared).count p) k := by
  by_cases hmem : p ∈ keys c₀.shared
  · rw [Run.count_eq_of_mem hstep hrun hL (fun j => by rw [hstart j]; nofun) hmem]
    exact le_max_left _ _
  have hfirst : (keys c₀.shared).count p = 0 := List.count_eq_zero_of_not_mem hmem
  have hnonneg : ∀ l, 0 ≤ holds pending p l := by
    intro l
    unfold holds
    split_ifs <;> decide
  have hmost : ∀ (sh : σ) l, L l → holds pending p l ≤ 1 := by
    intro sh l _
    unfold holds
    split_ifs <;> decide
  have hidle : ∀ j, holds pending p (c₀.locals j) = 0 := by
    intro j
    exact if_neg (by rw [hstart j]; simp)
  have hbound := Run.total_le_slack (fun sh => ((keys sh).count p : ℤ)) (holds pending p) 1
    hnonneg hmost (fun _ _ h => h) (fun c i a sh l _ hL hs => ?_) hrun hL hidle (by decide)
  · rw [hfirst] at hbound
    omega
  · obtain ⟨hlooks, hown⟩ := hstep a c.shared (c.locals i) sh l (hL i) hs
    exact ⟨hlooks.reserves p, hown, fun j _ => hL j⟩

end Keys

end Interleaving
