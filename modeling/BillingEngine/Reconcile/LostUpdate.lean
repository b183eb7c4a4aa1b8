import BillingEngine.System.StripeSync

/-!
# Reconciliation and newer webhooks

The job writes at the end what Stripe answered earlier, without another look at
the row. For a linked row it is the reconciler of a mirrored copy, whose
follower is the delivery about its subscription. The copy is kept as long as the
job writes no status that is older than what the deliveries have handled, and
nothing in the code sees to that.

Results:
* `step_cell`: every step of the system is a run of the cell of every linked row.
* `kept_of_current`: with current writes no handled change is undone, and at the
  end every row that anything was heard about has Stripe's status.
* `undone_of_not_current`: a write that is not current undoes a change.
* `webhook_undone`: one run that ends with Stripe active and the row past due.
-/

namespace BillingEngine

open Runs StripeService ReconciliationService SubscriptionRepository Mirror StripeSync

namespace LostUpdate

variable {driver : Driver} {attempts : ℕ} {w w' w₀ : World} {m : Move} {stripeId : String}
  {row : Subscription} {rid : Uuid}

/-! ## What has been handled -/

/-- `status` is that of a version from number `lo` on. -/
def Shows (w : World) (stripeId : String) (lo : ℕ) (status : SubscriptionStatus) : Prop :=
  status ∈ ((w.versions stripeId).drop lo).map Change.status

/-- The number of changes handled, with the one of a delivery that has read the
    row and found the status in place. -/
def seen (w : World) (stripeId : String) : ℕ :=
  match (w.delivery stripeId).bind fun d => pendingStatus d.2 with
  | some none => w.handled stripeId + 1
  | _ => w.handled stripeId

/-- Every status that is going to be written to a linked row is as new as what has
    been handled. -/
def UpToDate (w : World) (changed : List (Uuid × SubscriptionStatus)) : Prop :=
  ∀ row ∈ w.db.subscriptions, ∀ stripeId ∈ row.stripeSubscriptionId, stripeId ≠ "" →
    ∀ status ∈ changed.lookup row.id, Shows w stripeId (seen w stripeId) status

/-- The final commit writes nothing older than what has been handled. -/
def Current (w : World) : Move → Prop
  | .job _ => ∀ changed, w.job = .commit changed → UpToDate w changed
  | _ => True

section Decidable

instance (w : World) (stripeId : String) (lo : ℕ) (status : SubscriptionStatus) :
    Decidable (Shows w stripeId lo status) :=
  inferInstanceAs (Decidable (_ ∈ _))

instance (w : World) (changed : List (Uuid × SubscriptionStatus)) :
    Decidable (UpToDate w changed) :=
  inferInstanceAs <| Decidable <| ∀ row ∈ w.db.subscriptions,
    ∀ stripeId ∈ row.stripeSubscriptionId, stripeId ≠ "" →
      ∀ status ∈ changed.lookup row.id, Shows w stripeId (seen w stripeId) status

instance (w : World) : ∀ m, Decidable (Current w m)
  | .job _ =>
    match hjob : w.job with
    | .commit changed => decidable_of_iff (UpToDate w changed) (by simp [Current, hjob])
    | .load | .retrieve .. | .done _ => isTrue (by simp [Current, hjob])
  | .change .. | .deliver .. | .handle .. => isTrue trivial

end Decidable

/-! ## A linked row as a mirrored copy -/

/-- What the job has in hand about the row `rid`. -/
def held (rid : Uuid) (rows : List Subscription) (changed : List (Uuid × SubscriptionStatus)) :
    Reconciler SubscriptionStatus :=
  match rows.find? fun l => decide (l.id = rid) with
  | some loaded => .ask loaded.status
  | none => .write (changed.lookup rid)

/-- The job from the point of view of the row `rid`. -/
def reconciler (rid : Uuid) : JobPc → Reconciler SubscriptionStatus
  | .load => .load
  | .retrieve loaded rest _ changed => held rid (loaded :: rest) changed
  | .commit changed => .write (changed.lookup rid)
  | .done _ => .done

/-- A row that is linked to `stripeId`, with its writers. -/
def cell (w : World) (stripeId : String) (row : Subscription) : Cell SubscriptionStatus where
  versions := (w.versions stripeId).map Change.status
  value := row.status
  handled := w.handled stripeId
  follower := (w.delivery stripeId).bind fun d => pendingStatus d.2
  reconciler := reconciler row.id w.job
  answered := decide (row.id ∈ w.answered)

theorem shows_iff {lo : ℕ} {status : SubscriptionStatus} :
    Shows w stripeId lo status ↔ (cell w stripeId row).Shows lo status := by
  rw [Shows, Cell.Shows, cell, List.map_drop]

theorem seen_cell : (cell w stripeId row).seen = seen w stripeId := by
  simp only [Cell.seen, seen, cell]
  rcases (w.delivery stripeId).bind fun d => pendingStatus d.2 with _ | _ | status <;> rfl

/-! ### Deliveries -/

theorem cell_setDelivery (d : Option (StripeEvent × WebhookPc)) :
    cell { w with delivery := Function.update w.delivery stripeId d } stripeId row =
      { cell w stripeId row with follower := d.bind fun d => pendingStatus d.2 } := by
  simp [cell]

theorem cell_setDelivery_of_ne {stripeId' : String} (h : stripeId ≠ stripeId')
    (d : Option (StripeEvent × WebhookPc)) :
    cell { w with delivery := Function.update w.delivery stripeId' d } stripeId row =
      cell w stripeId row := by
  simp [cell, Function.update_of_ne h]

theorem run_abort (c : Cell SubscriptionStatus) :
    Run Cell.next Cell.Current c { c with follower := none } :=
  .single (a := .abort) trivial rfl

/-- A step of the delivery about the row. -/
theorem handle_cell {ids : NewIds} {now : DateTime} (h : Base w)
    (hnext : next driver attempts w (.handle stripeId ids now) = some w')
    (hrow : row ∈ w.db.subscriptions) (hs : row.stripeSubscriptionId = some stripeId)
    (hne : stripeId ≠ "") :
    ∃ row' ∈ w'.db.subscriptions, row'.id = row.id ∧ row'.stripeSubscriptionId = some stripeId ∧
      Run Cell.next Cell.Current (cell w stripeId row) (cell w' stripeId row') := by
  obtain ⟨c, event, pc, hd, hc, hw, hcases⟩ := handle_cases h hnext
  have hfollower : (cell w stripeId row).follower = pendingStatus pc := by simp [cell, hd]
  have hlinked : Linked w.db row.id stripeId := linked_iff.mpr ⟨row, hrow, rfl, hs⟩
  rcases hcases with ⟨pc', -, rfl, hpc'⟩ | rfl | ⟨pending, db, rfl, hdb, rfl⟩
  · refine ⟨row, hrow, rfl, hs, ?_⟩
    rw [cell_setDelivery]
    rcases hpc' with hsame | hnone | ⟨hnone, loaded, hloaded, hlook⟩
    · rw [Option.bind_some, hsame, ← hfollower]
      exact .refl
    · rw [Option.bind_some, hnone]
      exact run_abort _
    · -- the row that the delivery reads is this one
      obtain ⟨hmem, hs'⟩ := getByStripeSubscriptionId_eq_some_iff.mp hloaded
      obtain rfl := Rows.eq_of_unique_filterMap w.db.constraints.subscriptions_stripe_id hmem hrow
        hs' hs
      rw [Option.bind_some, hlook]
      have hversion : (cell w stripeId loaded).versions[(cell w stripeId loaded).handled + 1]? =
          some c.status := by simp [cell, hc]
      exact .single (a := .look) trivial (Cell.next_look (hfollower.trans hnone) hversion)
  · refine ⟨row, hrow, rfl, hs, ?_⟩
    rw [cell_setDelivery]
    exact run_abort _
  · cases pending with
    | none => exact (hw.resolve_left hne row.id hlinked).elim
    | insert => exact hw.elim
    | update rid patch =>
      obtain rfl := hw.1.id_eq hlinked
      refine ⟨patch.apply row, ?_, rfl, by simp [SubscriptionPatch.apply, hw.2, hs], ?_⟩
      · rw [hdb, PendingWrite.applyTo, List.mem_map]
        exact ⟨row, hrow, if_pos rfl⟩
      · refine .single (a := .apply) trivial ((Cell.next_apply hfollower).trans ?_)
        simp only [cell, Function.update_self, Option.bind_none]
        rfl

/-- A step of a delivery about another row. -/
theorem handle_cell_of_ne {stripeId' : String} {ids : NewIds} {now : DateTime} (h : Base w)
    (hnext : next driver attempts w (.handle stripeId' ids now) = some w')
    (hrow : row ∈ w.db.subscriptions) (hs : row.stripeSubscriptionId = some stripeId)
    (hne : stripeId ≠ stripeId') :
    row ∈ w'.db.subscriptions ∧ cell w' stripeId row = cell w stripeId row := by
  obtain ⟨c, event, pc, hd, hc, hw, hcases⟩ := handle_cases h hnext
  rcases hcases with ⟨pc', -, rfl, -⟩ | rfl | ⟨pending, db, rfl, hdb, rfl⟩
  · exact ⟨hrow, cell_setDelivery_of_ne hne _⟩
  · exact ⟨hrow, cell_setDelivery_of_ne hne _⟩
  · refine ⟨?_, by simp [cell, Function.update_of_ne hne]⟩
    cases pending with
    | none => rwa [hdb]
    | insert => exact hw.elim
    | update rid patch =>
      have hid : row.id ≠ rid := by
        rintro rfl
        exact hne ((linked_iff.mpr ⟨row, hrow, rfl, hs⟩ : Linked w.db row.id stripeId).stripeId_eq
          hw.1)
      rw [hdb, PendingWrite.applyTo, List.mem_map]
      exact ⟨row, hrow, if_neg hid⟩

/-! ### The job -/

section Job

variable {rows rest : List Subscription} {changed : List (Uuid × SubscriptionStatus)}
  {loaded : Subscription}

theorem held_cons_self : held loaded.id (loaded :: rest) changed = .ask loaded.status := by
  simp [held]

theorem held_cons_of_ne (h : loaded.id ≠ rid) :
    held rid (loaded :: rest) changed = held rid rest changed := by
  simp [held, h]

theorem held_of_not_mem (h : rid ∉ rows.map Subscription.id) :
    held rid rows changed = .write (changed.lookup rid) := by
  have hnone : rows.find? (fun l => decide (l.id = rid)) = none := by
    rw [Rows.find?_eq_none]
    intro l hl hid
    exact h (hid ▸ List.mem_map_of_mem hl)
  simp only [held, hnone]

/-- Statuses of other rows do not matter. -/
theorem held_append_of_ne {l : List (Uuid × SubscriptionStatus)} (h : ∀ p ∈ l, p.1 ≠ rid) :
    held rid rows (changed ++ l) = held rid rows changed := by
  have hnone : l.lookup rid = none :=
    List.lookup_eq_none_iff.mpr fun p hp => by simpa using (h p hp).symm
  simp only [held, List.lookup_append, hnone, Option.or_none]

theorem lookup_eq_none_of_fst {ids : List Uuid} (hchanged : ∀ p ∈ changed, p.1 ∈ ids)
    (h : rid ∉ ids) : changed.lookup rid = none :=
  List.lookup_eq_none_iff.mpr fun p hp => by
    have hne : rid ≠ p.1 := fun heq => h (heq ▸ hchanged p hp)
    simpa using hne

/-- Going on with the next row; with no attempts the job asks about none. -/
theorem run_nextRow (attempts : ℕ) (c : Cell SubscriptionStatus) (rid : Uuid)
    (rows : List Subscription) (changed : List (Uuid × SubscriptionStatus))
    (hfree : rid ∈ rows.map Subscription.id → changed.lookup rid = none) :
    Run Cell.next Cell.Current { c with reconciler := held rid rows changed }
      { c with reconciler := reconciler rid (.nextRow attempts changed rows) } := by
  cases rows with
  | nil => exact .refl
  | cons loaded rest =>
    unfold JobPc.nextRow
    split_ifs
    · cases hfind : (loaded :: rest).find? fun l => decide (l.id = rid) with
      | none =>
        simp only [held, hfind]
        exact .refl
      | some l =>
        obtain ⟨hmem, rfl⟩ := Rows.find?_mem hfind
        simp only [held, hfind, reconciler, hfree (List.mem_map_of_mem hmem)]
        exact .single (a := .giveUp) trivial (Cell.next_giveUp rfl)
    · exact .refl

theorem cell_setJob (job : JobPc) (ids : List Uuid) :
    cell { w with job := job, answered := w.answered ++ ids } stripeId row =
      { cell w stripeId row with
        reconciler := reconciler row.id job, answered := decide (row.id ∈ w.answered ++ ids) } :=
  rfl

/-- Loading the rows. -/
theorem load_cell (hjob : w.job = .load) (hrow : row ∈ w.db.subscriptions)
    (hs : row.stripeSubscriptionId = some stripeId) :
    Run Cell.next Cell.Current (cell w stripeId row) (cell { w with
      job := .nextRow attempts [] (getAllWithStripeId w.db), answered := w.answered ++ [] }
      stripeId row) := by
  have hload : (cell w stripeId row).reconciler = .load := by simp [cell, hjob, reconciler]
  have hmem : row ∈ getAllWithStripeId w.db := List.mem_filter.mpr ⟨hrow, by simp [hs]⟩
  have hnodup : ((getAllWithStripeId w.db).map Subscription.id).Nodup :=
    w.db.constraints.subscriptions_pkey.sublist (List.filter_sublist.map _)
  have hheld : held row.id (getAllWithStripeId w.db) [] = .ask row.status := by
    simp only [held, Rows.find?_eq_some_of_unique hnodup hmem]
  refine (Run.single (a := .load) trivial (Cell.next_load hload)).trans ?_
  have hrun := run_nextRow attempts (cell w stripeId row) row.id (getAllWithStripeId w.db) []
    fun _ => rfl
  rw [hheld] at hrun
  rw [cell_setJob, List.append_nil]
  exact hrun

/-- A call about this row or another one. -/
theorem retrieve_cell {attempt : ℕ} (h : Base w)
    (hjob : w.job = .retrieve loaded rest attempt changed)
    (hrow : row ∈ w.db.subscriptions) (hs : row.stripeSubscriptionId = some stripeId)
    (hcases : (∃ stripeId c, loaded.stripeSubscriptionId = some stripeId ∧
        (w.versions stripeId).getLast? = some c ∧ w' = { w with
          job := .nextRow attempts (changed ++ statusChange loaded c.object) rest
          answered := w.answered ++ [loaded.id] }) ∨
      w' = { w with
        job := .retrieve loaded rest (attempt + 1) changed, answered := w.answered ++ [] } ∨
      w' = { w with job := .nextRow attempts changed rest, answered := w.answered ++ [] }) :
    Run Cell.next Cell.Current (cell w stripeId row) (cell w' stripeId row) := by
  have honce := h.once
  have hchanged := h.changed
  have hrows := h.rows
  simp only [hjob, todo, StripeSync.changed, List.map_cons] at honce hchanged hrows
  obtain ⟨-, htodo, hdisjoint⟩ := List.nodup_append'.mp honce
  have hfree : ∀ r ∈ (loaded :: rest).map Subscription.id, r ∉ w.answered := fun r hr ha =>
    hdisjoint ha hr
  have hcell : cell w stripeId row =
      { cell w stripeId row with reconciler := held row.id (loaded :: rest) changed } := by
    simp [cell, hjob, reconciler]
  by_cases hid : loaded.id = row.id
  · -- the call is about this row: nothing is known about it yet
    have hnone : changed.lookup row.id = none :=
      lookup_eq_none_of_fst hchanged (hfree _ (by simp [hid]))
    have hrest : row.id ∉ rest.map Subscription.id := hid ▸ (List.nodup_cons.mp htodo).1
    have hask : (cell w stripeId row).reconciler = .ask loaded.status := by
      rw [hcell, ← hid, held_cons_self]
    rcases hcases with ⟨stripeId', c, hs', hlast, rfl⟩ | rfl | rfl
    · obtain ⟨stripeId'', hs'', hlinked⟩ := hrows loaded (by simp)
      obtain rfl : stripeId' = stripeId'' := by rw [hs'] at hs''; exact Option.some.inj hs''
      obtain rfl := (hid ▸ linked_iff.mpr ⟨row, hrow, rfl, hs⟩ :
        Linked w.db loaded.id stripeId).stripeId_eq hlinked
      have hcurrent : (cell w stripeId row).versions.getLast? = some c.status := by
        simp [cell, hlast]
      refine (Run.single (a := .answer) trivial (Cell.next_answer hask hcurrent)).trans ?_
      have hlookup : (changed ++ statusChange loaded c.object).lookup row.id =
          Cell.update loaded.status c.status := by
        rw [List.lookup_append, hnone, Option.none_or, ← hid, statusChange_lookup]
        rfl
      have hrun := run_nextRow attempts { cell w stripeId row with answered := true } row.id rest
        (changed ++ statusChange loaded c.object) fun hmem => absurd hmem hrest
      rw [held_of_not_mem hrest, hlookup] at hrun
      rw [cell_setJob, show decide (row.id ∈ w.answered ++ [loaded.id]) = true by simp [hid]]
      exact hrun
    · rw [cell_setJob, List.append_nil, hcell]
      exact .refl
    · refine (Run.single (a := .giveUp) trivial (Cell.next_giveUp hask)).trans ?_
      have hrun := run_nextRow attempts (cell w stripeId row) row.id rest changed
        fun hmem => absurd hmem hrest
      rw [held_of_not_mem hrest, hnone] at hrun
      rw [cell_setJob, List.append_nil]
      exact hrun
  · rw [hcell, held_cons_of_ne hid]
    have hnone : row.id ∈ rest.map Subscription.id → changed.lookup row.id = none := fun hmem =>
      lookup_eq_none_of_fst hchanged (hfree _ (by simp [hmem]))
    rcases hcases with ⟨stripeId', c, hs', hlast, rfl⟩ | rfl | rfl
    · have hother : ∀ p ∈ statusChange loaded c.object, p.1 ≠ row.id := fun p hp =>
        statusChange_fst hp ▸ hid
      have hrun := run_nextRow attempts (cell w stripeId row) row.id rest
        (changed ++ statusChange loaded c.object) fun hmem => by
          rw [List.lookup_append, hnone hmem, Option.none_or]
          exact List.lookup_eq_none_iff.mpr fun p hp => by simpa using (hother p hp).symm
      rw [held_append_of_ne hother] at hrun
      have hanswered : decide (row.id ∈ w.answered ++ [loaded.id]) =
          decide (row.id ∈ w.answered) := by simp [Ne.symm hid]
      rw [cell_setJob, hanswered]
      exact hrun
    · rw [cell_setJob, List.append_nil]
      simp only [reconciler, held_cons_of_ne hid]
      exact .refl
    · rw [cell_setJob, List.append_nil]
      exact run_nextRow attempts (cell w stripeId row) row.id rest changed hnone

/-- The final commit. -/
theorem commit_cell {failure : Option Exn} {db : Database} (hjob : w.job = .commit changed)
    (hcur : Current w (.job failure)) (hrow : row ∈ w.db.subscriptions)
    (hs : row.stripeSubscriptionId = some stripeId) (hne : stripeId ≠ "") :
    Run Cell.next Cell.Current (cell w stripeId row) (cell { w with
        db := db, job := .done (.ok changed.length), answered := w.answered ++ [] } stripeId
      { row with status := (changed.lookup row.id).getD row.status }) := by
  have hwrite : (cell w stripeId row).reconciler = .write (changed.lookup row.id) := by
    simp [cell, hjob, reconciler]
  refine .single (a := .write) (fun status hstatus => ?_) ((Cell.next_write hwrite).trans ?_)
  · rw [hwrite, Reconciler.write.injEq] at hstatus
    rw [seen_cell, ← shows_iff]
    exact hcur changed hjob row hrow stripeId hs hne status hstatus
  · rw [List.append_nil]
    rfl

/-- A step of the job. -/
theorem job_cell {failure : Option Exn} (h : Base w) (hcur : Current w (.job failure))
    (hnext : next driver attempts w (.job failure) = some w')
    (hrow : row ∈ w.db.subscriptions) (hs : row.stripeSubscriptionId = some stripeId)
    (hne : stripeId ≠ "") :
    ∃ row' ∈ w'.db.subscriptions, row'.id = row.id ∧ row'.stripeSubscriptionId = some stripeId ∧
      Run Cell.next Cell.Current (cell w stripeId row) (cell w' stripeId row') := by
  rcases job_cases h hnext with ⟨hjob, rfl⟩ | ⟨loaded, rest, attempt, changed, hjob, hcases⟩ |
    ⟨changed, db, hjob, hdb, rfl⟩
  · exact ⟨row, hrow, rfl, hs, load_cell hjob hrow hs⟩
  · have hdb : w'.db = w.db := by rcases hcases with ⟨_, _, _, _, rfl⟩ | rfl | rfl <;> rfl
    exact ⟨row, hdb ▸ hrow, rfl, hs, retrieve_cell h hjob hrow hs hcases⟩
  · refine ⟨{ row with status := (changed.lookup row.id).getD row.status }, ?_, rfl, hs,
      commit_cell hjob hcur hrow hs hne⟩
    rw [hdb, applyStatuses_eq_map]
    exact List.mem_map_of_mem hrow

end Job

/-- **Every step is a run of the cell.** -/
theorem step_cell (h : Base w) (hcur : Current w m) (hnext : next driver attempts w m = some w')
    (hrow : row ∈ w.db.subscriptions) (hs : row.stripeSubscriptionId = some stripeId)
    (hne : stripeId ≠ "") :
    ∃ row' ∈ w'.db.subscriptions, row'.id = row.id ∧ row'.stripeSubscriptionId = some stripeId ∧
      Run Cell.next Cell.Current (cell w stripeId row) (cell w' stripeId row') := by
  cases m with
  | change stripeId' new =>
    cases hnext
    refine ⟨row, hrow, rfl, hs, ?_⟩
    by_cases heq : stripeId = stripeId'
    · subst heq
      refine .single (a := .change new.status) trivial ?_
      simp [Cell.next, cell]
    · have hcell : cell { w with
          versions := Function.update w.versions stripeId' (w.versions stripeId' ++ [new]) }
          stripeId row = cell w stripeId row := by
        simp [cell, Function.update_of_ne heq]
      rw [hcell]
      exact .refl
  | deliver stripeId' eventId =>
    simp only [next] at hnext
    split at hnext
    · rename_i c hd hc hmarker
      cases hnext
      refine ⟨row, hrow, rfl, hs, ?_⟩
      by_cases heq : stripeId = stripeId'
      · subst heq
        rw [cell_setDelivery]
        exact run_abort _
      · rw [cell_setDelivery_of_ne heq]
        exact .refl
    · cases hnext
  | handle stripeId' ids now =>
    by_cases heq : stripeId = stripeId'
    · subst heq
      exact handle_cell h hnext hrow hs hne
    · obtain ⟨hrow', hcell⟩ := handle_cell_of_ne h hnext hrow hs heq
      exact ⟨row, hrow', rfl, hs, hcell ▸ .refl⟩
  | job failure => exact job_cell h hcur hnext hrow hs hne

/-! ## Runs -/

/-- The run starts: nothing is delivered and the job has not begun. -/
structure Start (w : World) : Prop where
  handled : ∀ stripeId, w.handled stripeId = 0
  delivery : ∀ stripeId, w.delivery stripeId = none
  job : w.job = .load
  answered : w.answered = []

theorem Start.base (h : Start w) : Base w where
  delivery stripeId event pc hd := by rw [h.delivery] at hd; cases hd
  rows := by simp [h.job, todo]
  once := by simp [h.job, todo, h.answered]
  changed := by simp [h.job, StripeSync.changed]
  load _ := h.answered

theorem Start.cell (h : Start w) : (LostUpdate.cell w stripeId row).Start where
  handled := h.handled stripeId
  follower := by simp [LostUpdate.cell, h.delivery]
  reconciler := by simp [LostUpdate.cell, h.job, reconciler]
  answered := by simp [LostUpdate.cell, h.answered]

/-- The rows are linked as they were at the start. -/
theorem run_base (hstart : Start w₀) (hrun : Run (next driver attempts) Current w₀ w) :
    Base w ∧ links w.db = links w₀.db :=
  hrun.invariant
    (P := fun w => Base w ∧ links w.db = links w₀.db)
    (fun _ _ _ h _ hnext =>
      have hstep := h.1.next hnext
      ⟨hstep.1, hstep.2.trans h.2⟩)
    ⟨hstart.base, rfl⟩

/-- **Every run is a run of the cell of each linked row.** -/
theorem run_cell (hstart : Start w₀) (hrun : Run (next driver attempts) Current w₀ w)
    (hrow : row ∈ w.db.subscriptions) (hs : row.stripeSubscriptionId = some stripeId)
    (hne : stripeId ≠ "") :
    ∃ row₀ ∈ w₀.db.subscriptions, row₀.id = row.id ∧
      Run Cell.next Cell.Current (cell w₀ stripeId row₀) (cell w stripeId row) := by
  have hlinked : Linked w₀.db row.id stripeId := by
    rw [Linked, ← (run_base hstart hrun).2]
    exact linked_iff.mpr ⟨row, hrow, rfl, hs⟩
  obtain ⟨row₀, hrow₀, hid₀, hs₀⟩ := linked_iff.mp hlinked
  obtain ⟨c, hc, -, row', hrow', hid', -, rfl⟩ := hrun.simulation
    (R := fun w c => Base w ∧ ∃ row' ∈ w.db.subscriptions, row'.id = row.id ∧
      row'.stripeSubscriptionId = some stripeId ∧ cell w stripeId row' = c)
    (fun w m w' c hrel hok hnext => by
      obtain ⟨hbase, row', hrow', hid', hs', hcell⟩ := hrel
      obtain ⟨row'', hrow'', hid'', hs'', hstep⟩ := step_cell hbase hok hnext hrow' hs' hne
      exact ⟨_, hcell ▸ hstep, (hbase.next hnext).1, row'', hrow'', hid''.trans hid', hs'', rfl⟩)
    ⟨hstart.base, row₀, hrow₀, hid₀, hs₀, rfl⟩
  obtain rfl := Rows.eq_of_unique w.db.constraints.subscriptions_pkey hrow' hrow hid'
  exact ⟨row₀, hrow₀, hid₀, hc⟩

/-- **With current writes the rows keep up.** No change that has been handled is
    undone; and when the job and all deliveries are over, a row has the status
    that Stripe has, if a delivery or an answer told it or it was right before. -/
theorem kept_of_current (hstart : Start w₀) (hrun : Run (next driver attempts) Current w₀ w)
    (hrow : row ∈ w.db.subscriptions) (hs : row.stripeSubscriptionId = some stripeId)
    (hne : stripeId ≠ "") :
    (0 < w.handled stripeId → Shows w stripeId (w.handled stripeId) row.status) ∧
      (∀ synced, w.job = .done synced →
        w.handled stripeId + 1 = (w.versions stripeId).length →
        (0 < w.handled stripeId ∨ row.id ∈ w.answered ∨
          ∃ row₀ ∈ w₀.db.subscriptions, row₀.id = row.id ∧ Shows w₀ stripeId 0 row₀.status) →
        ∃ c, (w.versions stripeId).getLast? = some c ∧ row.status = c.status) := by
  obtain ⟨row₀, hrow₀, hid₀, hcell⟩ := run_cell hstart hrun hrow hs hne
  refine ⟨fun hpos => shows_iff.mpr (hstart.cell.fresh hcell hpos), ?_⟩
  intro synced hdone hall hknown
  have hlast := hstart.cell.agrees hcell (by simp [cell, hdone, reconciler])
    (by simpa [cell] using hall) ?_
  · simp only [cell, List.getLast?_map, Option.map_eq_some_iff] at hlast
    obtain ⟨c, hc, hstatus⟩ := hlast
    exact ⟨c, hc, hstatus.symm⟩
  · refine hknown.imp_right (Or.imp (fun h => by simpa [cell] using h) ?_)
    rintro ⟨row', hrow', hid', hshow⟩
    obtain rfl := Rows.eq_of_unique w₀.db.constraints.subscriptions_pkey hrow' hrow₀
      (hid'.trans hid₀.symm)
    exact shows_iff.mp hshow

/-- **A write that is not current undoes a change**: right after it some linked
    row shows less than its deliveries have seen to. -/
theorem undone_of_not_current {failure : Option Exn} (h : Base w)
    (hstale : ¬ Current w (.job failure))
    (hnext : next driver attempts w (.job failure) = some w') :
    ∃ row ∈ w'.db.subscriptions, ∃ stripeId, row.stripeSubscriptionId = some stripeId ∧
      ¬ Shows w' stripeId (seen w' stripeId) row.status := by
  simp only [Current, UpToDate] at hstale
  push Not at hstale
  obtain ⟨changed, hjob, row, hrow, stripeId, hs, -, status, hstatus, hshow⟩ := hstale
  rcases job_cases h hnext with ⟨hjob', -⟩ | ⟨loaded, rest, attempt, changed', hjob', -⟩ |
    ⟨changed', db, hjob', hdb, rfl⟩
  · rw [hjob] at hjob'; cases hjob'
  · rw [hjob] at hjob'; cases hjob'
  · rw [hjob] at hjob'
    cases hjob'
    refine ⟨{ row with status := (changed.lookup row.id).getD row.status }, ?_, stripeId, hs, ?_⟩
    · rw [hdb, applyStatuses_eq_map]
      exact List.mem_map_of_mem hrow
    · rw [Option.mem_def.mp hstatus]
      exact hshow

/-! ## Two runs -/

/-- The subscription object with the given status. -/
def changeTo (stripeId status : String) : Change stripeId where
  object := .obj [("id", .str stripeId), ("status", .str status)]
  deleted := false
  hasId := rfl
  canceled h := by cases h

/-- Every Stripe subscription is active. -/
def world : World where
  db := Sample.db
  versions stripeId := [changeTo stripeId "active"]
  handled _ := 0
  delivery _ := none
  job := .load
  answered := []

theorem start_world : Start world := ⟨fun _ => rfl, fun _ => rfl, rfl, rfl⟩

/-- A whole delivery of the next change. -/
def delivery (eventId : String) (marker : Uuid) : List Move :=
  [.deliver "sub_1" eventId, .handle "sub_1" ⟨marker, ⟨0⟩⟩ Sample.july,
    .handle "sub_1" ⟨marker, ⟨0⟩⟩ Sample.july]

/-- The payment fails after the job has loaded the row, and the event about it
    arrives before the job asks. -/
theorem kept_of_current_delivered : ∃ w, Run (next .stringsOnly 3) Current world w ∧
    w.job = .done (.ok 1) ∧ ∀ row ∈ w.db.subscriptions, row.stripeSubscriptionId = some "sub_1" →
      ∃ c, (w.versions "sub_1").getLast? = some c ∧ row.status = c.status := by
  have hrun := Run.of_execGuarded_isSome (show (execGuarded (next .stringsOnly 3) Current world
    ([.job none, .change "sub_1" (changeTo "sub_1" "past_due")] ++ delivery "evt_1" ⟨100⟩ ++
      [.job none, .job none])).isSome by decide)
  refine ⟨_, hrun, by decide, fun row hrow hs => ?_⟩
  exact (kept_of_current start_world hrun hrow hs (by decide)).2 (.ok 1) (by decide)
    (by decide) (.inl (by decide))

/-- The payment fails, the job is told so, the payment succeeds, both events are
    handled, and then the job commits. -/
theorem webhook_undone : Start world ∧ ∃ w, Run (next .stringsOnly 3) Always world w ∧
    w.job = .done (.ok 1) ∧ 0 < w.handled "sub_1" ∧
    w.handled "sub_1" + 1 = (w.versions "sub_1").length ∧
    ((w.versions "sub_1").getLast?.map Change.status) = some .active ∧
    ∃ row ∈ w.db.subscriptions, row.stripeSubscriptionId = some "sub_1" ∧ row.status = .pastDue ∧
      ¬ Shows w "sub_1" (w.handled "sub_1") row.status := by
  have hrun := Run.of_exec_isSome (show (exec (next .stringsOnly 3) world
    ([.job none, .change "sub_1" (changeTo "sub_1" "past_due"), .job none,
        .change "sub_1" (changeTo "sub_1" "active")] ++
      delivery "evt_1" ⟨100⟩ ++ delivery "evt_2" ⟨101⟩ ++ [.job none])).isSome by decide)
  exact ⟨start_world, _, hrun, by decide, by decide, by decide, by decide, by decide⟩

end LostUpdate

end BillingEngine
