import BillingEngine.Common.Runs

/-!
# A stored copy that two writers keep up to date

A source takes one value after another: `versions` lists them, the last one is
the current value. A copy of it is stored. The *follower* applies the changes in
order, version 1 first: it looks at the copy, and when it applies the change it
writes the new value, unless the copy already had it when it looked. The
*reconciler* runs once: it loads the copy, may later be told the current value,
and at the end writes what it was told, unless that is what it had loaded.
Neither of them looks at the copy again when it writes.

Results:
* `Cell.Inv.next`: the invariant of a cell, for writes that meet `Current`.
* `Cell.Start.fresh`: the copy never falls behind a change that has been applied.
* `Cell.Start.agrees`: once everything is over, the copy is the current value.
-/

namespace Mirror

open Runs

/-- What the reconciler does next. -/
inductive Reconciler (ν : Type*) where
  | load
  | ask (loaded : ν)
  | write (pending : Option ν)
  | done

/-- One copy and its two writers; a pending write of `none` leaves the copy alone. -/
structure Cell (ν : Type*) where
  versions : List ν
  value : ν
  handled : ℕ
  follower : Option (Option ν)
  reconciler : Reconciler ν
  answered : Bool

/-- The steps of the source, the follower and the reconciler. -/
inductive Action (ν : Type*) where
  | change (new : ν)
  | look | apply | abort
  | load | answer | giveUp | write

variable {ν : Type*}

namespace Cell

/-- What has to be written to turn `old` into `new`. -/
def update [DecidableEq ν] (old new : ν) : Option ν := if new = old then none else some new

@[simp] theorem update_getD [DecidableEq ν] (old new : ν) : (update old new).getD old = new := by
  unfold update; split_ifs with h <;> simp [h]

/-- One step. -/
def next [DecidableEq ν] (c : Cell ν) : Action ν → Option (Cell ν)
  | .change new => some { c with versions := c.versions ++ [new] }
  | .look =>
    match c.follower, c.versions[c.handled + 1]? with
    | none, some new => some { c with follower := some (update c.value new) }
    | _, _ => none
  | .apply =>
    match c.follower with
    | some pending =>
      some { c with value := pending.getD c.value, handled := c.handled + 1, follower := none }
    | none => none
  | .abort => some { c with follower := none }
  | .load =>
    match c.reconciler with
    | .load => some { c with reconciler := .ask c.value }
    | _ => none
  | .answer =>
    match c.reconciler, c.versions.getLast? with
    | .ask loaded, some current =>
      some { c with reconciler := .write (update loaded current), answered := true }
    | _, _ => none
  | .giveUp =>
    match c.reconciler with
    | .ask _ => some { c with reconciler := .write none }
    | _ => none
  | .write =>
    match c.reconciler with
    | .write pending => some { c with value := pending.getD c.value, reconciler := .done }
    | _ => none

/-- `v` is the value of a version from number `lo` on. -/
def Shows (c : Cell ν) (lo : ℕ) (v : ν) : Prop := v ∈ c.versions.drop lo

/-- The number of changes that count as applied: a follower that found the copy
    right has nothing left to write. -/
def seen (c : Cell ν) : ℕ :=
  match c.follower with
  | some none => c.handled + 1
  | _ => c.handled

/-- The reconciler writes nothing older than the changes seen. -/
def Current (c : Cell ν) : Action ν → Prop
  | .write => ∀ v, c.reconciler = .write (some v) → c.Shows c.seen v
  | _ => True

/-- Nothing has happened yet. -/
structure Start (c : Cell ν) : Prop where
  handled : c.handled = 0
  follower : c.follower = none
  reconciler : c.reconciler = .load
  answered : c.answered = false

/-- The invariant; `sync` says that the copy was right at the start. -/
structure Inv (sync : Prop) (c : Cell ν) : Prop where
  fresh : 0 < c.handled ∨ sync → c.Shows c.handled c.value
  follower : ∀ pending, c.follower = some pending → c.Shows (c.handled + 1) (pending.getD c.value)
  unanswered : c.reconciler = .load ∨ (∃ loaded, c.reconciler = .ask loaded) → c.answered = false
  loaded : ∀ loaded, c.reconciler = .ask loaded → c.handled = 0 → c.value = loaded
  answer : ∀ v, c.reconciler = .write (some v) → c.Shows 0 v
  unchanged : c.reconciler = .write none → c.answered = true → c.handled = 0 → c.Shows 0 c.value
  written : c.reconciler = .done → c.answered = true → c.Shows c.handled c.value

section Lemmas

variable {c c' : Cell ν} {lo lo' : ℕ} {v : ν} {sync : Prop}

theorem Shows.mono (h : c.Shows lo v) (hle : lo' ≤ lo) : c.Shows lo' v :=
  List.drop_subset_drop_left c.versions hle h

/-- Later versions do not take away the earlier ones. -/
theorem Shows.extend (h : c.Shows lo v) (hpre : c.versions <+: c'.versions) : c'.Shows lo v :=
  (hpre.drop lo).subset h

theorem shows_next (h : c.versions[lo]? = some v) : c.Shows lo v := by
  rw [Shows, List.drop_eq_getElem_cons (List.getElem?_eq_some_iff.mp h).1]
  simp [(List.getElem?_eq_some_iff.mp h).2]

theorem shows_last (h : c.versions.getLast? = some v) : c.Shows 0 v := by
  rw [Shows, List.drop_zero]
  exact List.mem_of_getLast? h

theorem handled_le_seen (c : Cell ν) : c.handled ≤ c.seen := by
  unfold seen; split <;> omega

theorem Start.inv (h : c.Start) : Inv (c.Shows 0 c.value) c where
  fresh := by rw [h.handled]; simp
  follower := by simp [h.follower]
  unanswered _ := h.answered
  loaded := by simp [h.reconciler]
  answer := by simp [h.reconciler]
  unchanged := by simp [h.reconciler]
  written := by simp [h.reconciler]

variable [DecidableEq ν]

/-! ### The steps -/

theorem next_look (hf : c.follower = none) (hv : c.versions[c.handled + 1]? = some v) :
    c.next .look = some { c with follower := some (update c.value v) } := by
  simp only [next, hf, hv]

theorem next_apply {pending : Option ν} (hf : c.follower = some pending) :
    c.next .apply = some { c with
      value := pending.getD c.value, handled := c.handled + 1, follower := none } := by
  simp only [next, hf]

theorem next_load (hr : c.reconciler = .load) :
    c.next .load = some { c with reconciler := .ask c.value } := by
  simp only [next, hr]

theorem next_answer {loaded : ν} (hr : c.reconciler = .ask loaded)
    (hv : c.versions.getLast? = some v) :
    c.next .answer = some { c with reconciler := .write (update loaded v), answered := true } := by
  simp only [next, hr, hv]

theorem next_giveUp {loaded : ν} (hr : c.reconciler = .ask loaded) :
    c.next .giveUp = some { c with reconciler := .write none } := by
  simp only [next, hr]

theorem next_write {pending : Option ν} (hr : c.reconciler = .write pending) :
    c.next .write = some { c with value := pending.getD c.value, reconciler := .done } := by
  simp only [next, hr]

/-! ### The invariant along a run -/

/-- **The invariant of a cell.** -/
theorem Inv.next {a : Action ν} (h : Inv sync c) (hcur : c.Current a) (hnext : c.next a = some c') :
    Inv sync c' := by
  cases a with
  | change new =>
    cases hnext
    have hpre : c.versions <+: c.versions ++ [new] := List.prefix_append _ _
    exact ⟨fun hs => (h.fresh hs).extend hpre, fun p hp => (h.follower p hp).extend hpre,
      h.unanswered, h.loaded, fun v hv => (h.answer v hv).extend hpre,
      fun hr ha h0 => (h.unchanged hr ha h0).extend hpre,
      fun hr ha => (h.written hr ha).extend hpre⟩
  | look =>
    simp only [Cell.next] at hnext
    split at hnext
    · rename_i new hf hnew
      cases hnext
      refine ⟨h.fresh, fun p hp => ?_, h.unanswered, h.loaded, h.answer, h.unchanged, h.written⟩
      cases hp
      rw [update_getD]
      exact shows_next hnew
    · cases hnext
  | apply =>
    simp only [Cell.next] at hnext
    split at hnext
    · rename_i pending hf
      cases hnext
      have hshow := h.follower pending hf
      exact ⟨fun _ => hshow, by simp, h.unanswered, by simp, h.answer, by simp, fun _ _ => hshow⟩
    · cases hnext
  | abort =>
    cases hnext
    exact ⟨h.fresh, by simp, h.unanswered, h.loaded, h.answer, h.unchanged, h.written⟩
  | load =>
    simp only [Cell.next] at hnext
    split at hnext
    · rename_i hr
      cases hnext
      refine ⟨h.fresh, h.follower, fun _ => h.unanswered (.inl hr), fun l hl _ => ?_, by simp,
        by simp, by simp⟩
      cases hl
      rfl
    · cases hnext
  | answer =>
    simp only [Cell.next] at hnext
    split at hnext
    · rename_i loaded current hr hlast
      cases hnext
      have hshow : c.Shows 0 current := shows_last hlast
      refine ⟨h.fresh, h.follower, by simp, by simp, fun v hv => ?_, fun hv _ h0 => ?_, by simp⟩
      · simp only [update, Reconciler.write.injEq] at hv
        split_ifs at hv
        cases hv
        exact hshow
      · -- the copy is what was loaded, and that is what the source answered
        simp only [update, Reconciler.write.injEq] at hv
        split_ifs at hv with heq
        have hval := h.loaded loaded hr h0
        rw [hval, ← heq]
        exact hshow
    · cases hnext
  | giveUp =>
    simp only [Cell.next] at hnext
    split at hnext
    · rename_i loaded hr
      cases hnext
      have ha := h.unanswered (.inr ⟨loaded, hr⟩)
      exact ⟨h.fresh, h.follower, by simp, by simp, by simp, by simp [ha], by simp⟩
    · cases hnext
  | write =>
    simp only [Cell.next] at hnext
    split at hnext
    · rename_i pending hr
      cases hnext
      cases pending with
      | none =>
        refine ⟨h.fresh, h.follower, by simp, by simp, by simp, by simp, fun _ ha => ?_⟩
        obtain h0 | hpos := Nat.eq_zero_or_pos c.handled
        · exact (h.unchanged hr ha h0).mono h0.le
        · exact h.fresh (.inl hpos)
      | some v =>
        have hshow := hcur v hr
        have hle := c.handled_le_seen
        refine ⟨fun _ => hshow.mono hle, fun p hp => ?_, by simp, by simp, by simp, by simp,
          fun _ _ => hshow.mono hle⟩
        cases p with
        | none =>
          have hf : c.follower = some none := hp
          have hseen : c.seen = c.handled + 1 := by simp only [seen, hf]
          exact hseen ▸ hshow
        | some w => exact h.follower (some w) hp
    · cases hnext

theorem Start.run_inv {c₀ : Cell ν} (hstart : c₀.Start) (hrun : Run Cell.next Current c₀ c) :
    Inv (c₀.Shows 0 c₀.value) c :=
  hrun.invariant (fun _ _ _ h hok hnext => h.next hok hnext) hstart.inv

/-- **Nothing applied is undone.** -/
theorem Start.fresh {c₀ : Cell ν} (hstart : c₀.Start) (hrun : Run Cell.next Current c₀ c)
    (h : 0 < c.handled) : c.Shows c.handled c.value :=
  (hstart.run_inv hrun).fresh (.inl h)

/-- **Once everything is over the copy is right**, if anything could tell. -/
theorem Start.agrees {c₀ : Cell ν} (hstart : c₀.Start) (hrun : Run Cell.next Current c₀ c)
    (hdone : c.reconciler = .done) (hall : c.handled + 1 = c.versions.length)
    (hknown : 0 < c.handled ∨ c.answered = true ∨ c₀.Shows 0 c₀.value) :
    c.versions.getLast? = some c.value := by
  have hinv := hstart.run_inv hrun
  have hshow : c.Shows c.handled c.value := by
    rcases hknown with hpos | ha | hsync
    · exact hinv.fresh (.inl hpos)
    · exact hinv.written hdone ha
    · exact hinv.fresh (.inr hsync)
  -- only one version is as new
  have hlt : c.handled < c.versions.length := by omega
  rw [Shows, List.drop_eq_getElem_cons hlt, hall, List.drop_length, List.mem_singleton] at hshow
  rw [List.getLast?_eq_getElem?, ← hall, Nat.add_sub_cancel, hshow, List.getElem?_eq_getElem hlt]

end Lemmas

end Cell

end Mirror
