import BillingEngine.Common.Mirror
import BillingEngine.Services.Reconciliation
import BillingEngine.Services.Stripe

/-!
# One reconciliation run among webhook deliveries

Stripe changes its subscriptions one change after another. Every change sends
an event with the new object; the events about one subscription are delivered in
order, each again until a delivery of it succeeds, while those about different
subscriptions interleave freely with each other and with the queries, the Stripe
calls and the final commit of one `run_once`. A retrieve returns the object as
it is at that moment, or raises.

A delivery starts with its marker lookup. One that finds its marker is a
repetition: it ends there and is not part of the model.

Results:
* `processStep_event`: what the first query of a delivery leaves to do.
* `webhookStep_cases`: what one step of a delivery does, seen from its row.
* `Base.next`: the invariant of what the deliveries and the job hold in memory.
-/

namespace BillingEngine

open StripeService ReconciliationService SubscriptionRepository

namespace StripeSync

/-- What a change left of a subscription at Stripe; a deleted subscription is
    `"canceled"`. -/
structure Change (stripeId : String) where
  object : Json
  deleted : Bool
  hasId : HasId object stripeId
  canceled : deleted = true → object.getAttr "status" = .str "canceled"

namespace Change

variable {stripeId : String} (c : Change stripeId)

/-- The status that the object stands for. -/
def status : SubscriptionStatus := fromStripeStatus (c.object.getAttr "status")

/-- The event of the change. -/
def event (eventId : String) : StripeEvent where
  id := eventId
  type := if c.deleted then "customer.subscription.deleted" else "customer.subscription.updated"
  data := .obj [("object", c.object)]

end Change

/-- Stripe, the database, the deliveries in progress and the job. The changes of
    a subscription are numbered from 1; version 0 is what the run starts from. -/
structure World where
  db : Database
  versions : (stripeId : String) → List (Change stripeId)
  /-- how many changes of a subscription have been handled -/
  handled : String → ℕ
  delivery : String → Option (StripeEvent × WebhookPc)
  job : JobPc
  /-- the rows for which the job got an answer -/
  answered : List Uuid

inductive Move where
  | change (stripeId : String) (new : Change stripeId)
  | deliver (stripeId eventId : String)
  | handle (stripeId : String) (ids : NewIds) (now : DateTime)
  | job (failure : Option Exn)

namespace World

variable (w : World)

/-- A delivery goes on, has succeeded, or has failed and will be repeated. -/
def afterHandle (stripeId : String) (event : StripeEvent) : Database × WebhookPc → World
  | (db, .done (.ok ())) => { w with
      db := db
      handled := Function.update w.handled stripeId (w.handled stripeId + 1)
      delivery := Function.update w.delivery stripeId none }
  | (db, .done (.error _)) => { w with
      db := db
      delivery := Function.update w.delivery stripeId none }
  | (db, pc) => { w with
      db := db
      delivery := Function.update w.delivery stripeId (some (event, pc)) }

/-- The object of a subscription as it is now. -/
def current (stripeId : String) : Except Exn Json :=
  match (w.versions stripeId).getLast? with
  | some c => .ok c.object
  | none => .error .stripeError

/-- What the call that the job makes next returns. -/
def answer : Option Exn → Except Exn Json
  | some exn => .error exn
  | none =>
    match w.job with
    | .retrieve loaded _ _ _ => w.current (loaded.stripeSubscriptionId.getD "")
    | _ => .ok .null

/-- The row that an answer is about. -/
def answeredRow (failure : Option Exn) : List Uuid :=
  match w.job, w.answer failure with
  | .retrieve loaded _ _ _, .ok _ => [loaded.id]
  | _, _ => []

end World

/-- One step of Stripe, of a delivery or of the job. -/
def next (driver : Driver) (attempts : ℕ) (w : World) : Move → Option World
  | .change stripeId new => some { w with
      versions := Function.update w.versions stripeId (w.versions stripeId ++ [new]) }
  | .deliver stripeId eventId =>
    match w.delivery stripeId, (w.versions stripeId)[w.handled stripeId + 1]?,
        WebhookEventRepository.getByEventId w.db eventId with
    | none, some c, none => some { w with
        delivery := Function.update w.delivery stripeId (some (c.event eventId, .process)) }
    | _, _, _ => none
  | .handle stripeId ids now =>
    match w.delivery stripeId with
    | none => none
    | some (event, pc) =>
      (webhookStep driver event ids now w.db pc).map (w.afterHandle stripeId event)
  | .job failure =>
    (jobStep attempts (w.answer failure) w.db w.job).map fun (db, pc) =>
      { w with db := db, job := pc, answered := w.answered ++ w.answeredRow failure }

/-! ## Links

No step changes which row a Stripe subscription belongs to. -/

/-- The link of every row, in order. -/
def links (db : Database) : List (Uuid × Option String) :=
  db.subscriptions.map fun s => (s.id, s.stripeSubscriptionId)

/-- The row `rid` belongs to the Stripe subscription `stripeId`. -/
def Linked (db : Database) (rid : Uuid) (stripeId : String) : Prop :=
  (rid, some stripeId) ∈ links db

section Links

variable {db : Database} {rid rid' : Uuid} {stripeId stripeId' : String}

theorem linked_iff : Linked db rid stripeId ↔
    ∃ row ∈ db.subscriptions, row.id = rid ∧ row.stripeSubscriptionId = some stripeId := by
  simp [Linked, links, Prod.ext_iff]

theorem Linked.id_eq (h : Linked db rid stripeId) (h' : Linked db rid' stripeId) : rid = rid' := by
  obtain ⟨row, hrow, rfl, hs⟩ := linked_iff.mp h
  obtain ⟨row', hrow', rfl, hs'⟩ := linked_iff.mp h'
  rw [Rows.eq_of_unique_filterMap db.constraints.subscriptions_stripe_id hrow hrow' hs hs']

theorem Linked.stripeId_eq (h : Linked db rid stripeId) (h' : Linked db rid stripeId') :
    stripeId = stripeId' := by
  obtain ⟨row, hrow, rfl, hs⟩ := linked_iff.mp h
  obtain ⟨row', hrow', hid, hs'⟩ := linked_iff.mp h'
  obtain rfl := Rows.eq_of_unique db.constraints.subscriptions_pkey hrow' hrow hid
  rw [hs] at hs'
  cases hs'
  rfl

end Links

/-! ## A delivery -/

/-- What the pending write of a delivery does to the status of its row: nothing
    is decided before the row is read, and `some none` leaves the status alone. -/
def pendingStatus : WebhookPc → Option (Option SubscriptionStatus)
  | .readPlan loaded status _ => some (Mirror.Cell.update loaded.status status)
  | .commit (.update _ patch) => some patch.status
  | _ => none

/-- A delivery about `stripeId` writes at most to the row that is linked to it. -/
def Writes (db : Database) (stripeId : String) : WebhookPc → Prop
  | .process | .rollback _ => True
  | .readPlan loaded _ _ => Linked db loaded.id stripeId
  | .commit .none => stripeId = "" ∨ ∀ rid, ¬ Linked db rid stripeId
  | .commit (.update rid patch) => Linked db rid stripeId ∧ patch.stripeSubscriptionId = none
  | .commit (.insert ..) | .lookupMarker | .done _ => False

section Delivery

variable {driver : Driver} {db db' : Database} {stripeId eventId : String} {c : Change stripeId}
  {ids : NewIds} {now : DateTime} {pc pc' : WebhookPc} {loaded : Subscription}

theorem Change.cancelled_eq_status (h : c.deleted = true) : .cancelled = c.status := by
  rw [Change.status, c.canceled h]; rfl

/-- The write that an update leaves pending. -/
theorem statusUpdate_spec (loaded : Subscription) (status : SubscriptionStatus)
    (plan : Option Plan) : ∃ patch, statusUpdate loaded status plan = .update loaded.id patch ∧
      patch.status = Mirror.Cell.update loaded.status status ∧ patch.stripeSubscriptionId = none :=
  ⟨_, rfl, rfl, by simp [SubscriptionPatch.diff]⟩

theorem processStep_of_updated (h : c.deleted = false) :
    processStep driver db (c.event eventId) = statusStep driver db c.object := by
  simp [processStep, Change.event, h, Json.getItem, bind, Except.bind]

theorem processStep_of_deleted (h : c.deleted = true) :
    processStep driver db (c.event eventId) =
      (cancelSubscription driver db c.object).map .commit := by
  have hdata : (c.event eventId).data.getItem "object" = .ok c.object := rfl
  have htype : (c.event eventId).type = "customer.subscription.deleted" := by
    rw [Change.event, if_pos h]
  rw [processStep, hdata, htype]
  simp only [bind, Except.bind, String.reduceEq, if_false, if_true]
  cases cancelSubscription driver db c.object <;> rfl

/-- **The first query of a delivery.** Without a linked row there is nothing to
    write; otherwise the status of the object is to be written to the row. -/
theorem processStep_event (h : processStep driver db (c.event eventId) = .ok pc) :
    (stripeId = "" ∨ getByStripeSubscriptionId db stripeId = none) ∧ pc = .commit .none ∨
      ∃ loaded, getByStripeSubscriptionId db stripeId = some loaded ∧
        ((∃ priceId, pc = .readPlan loaded c.status priceId) ∨
          ∃ patch, pc = .commit (.update loaded.id patch) ∧
            patch.status = Mirror.Cell.update loaded.status c.status ∧
            patch.stripeSubscriptionId = none) := by
  have hlinked := linkedSubscription_of_hasId driver db c.hasId
  obtain hrow | ⟨loaded, hrow⟩ := Option.eq_none_or_eq_some
    (if stripeId = "" then none else getByStripeSubscriptionId db stripeId)
  · left
    rw [hrow] at hlinked
    refine ⟨by split_ifs at hrow with hne <;> [exact .inl hne; exact .inr hrow], ?_⟩
    cases hdel : c.deleted with
    | false =>
      rw [processStep_of_updated hdel, statusStep, hlinked] at h
      cases h
      rfl
    | true =>
      rw [processStep_of_deleted hdel, cancelSubscription, hlinked] at h
      cases h
      rfl
  · right
    rw [hrow] at hlinked
    split_ifs at hrow
    refine ⟨loaded, hrow, ?_⟩
    cases hdel : c.deleted with
    | false =>
      rw [processStep_of_updated hdel] at h
      rcases statusStep_ok h with ⟨hnone, -⟩ | ⟨loaded', hsome, hpc⟩
      · rw [hlinked] at hnone; cases hnone
      · rw [hlinked] at hsome; cases hsome
        rcases hpc with ⟨priceId, rfl⟩ | rfl
        · exact .inl ⟨priceId, rfl⟩
        · obtain ⟨patch, hpatch, hstatus, hid⟩ := statusUpdate_spec loaded c.status none
          exact .inr ⟨patch, by rw [← hpatch]; rfl, hstatus, hid⟩
    | true =>
      rw [processStep_of_deleted hdel, cancelSubscription, hlinked] at h
      cases h
      refine .inr ⟨_, rfl, ?_, by simp [SubscriptionPatch.diff]⟩
      simp only [SubscriptionPatch.diff, ← Change.cancelled_eq_status hdel]
      rfl

/-- **One step of a delivery**, seen from its row: it decides on a status when
    it reads the row, keeps to it until it fails or commits, and commits it. -/
theorem webhookStep_cases (hw : Writes db stripeId pc)
    (h : webhookStep driver (c.event eventId) ids now db pc = some (db', pc')) :
    (db' = db ∧ (Writes db stripeId pc' ∨ ∃ exn, pc' = .done (.error exn)) ∧
      (pendingStatus pc' = pendingStatus pc ∨ pendingStatus pc' = none ∨
        pendingStatus pc = none ∧ ∃ loaded, getByStripeSubscriptionId db stripeId = some loaded ∧
          pendingStatus pc' = some (Mirror.Cell.update loaded.status c.status))) ∨
      pc' = .done (.ok ()) ∧ ∃ pending, pc = .commit pending ∧
        db'.subscriptions = pending.applyTo ids.subscription now db.subscriptions := by
  cases pc with
  | lookupMarker => exact hw.elim
  | process =>
    left
    simp only [webhookStep] at h
    split at h
    · rename_i pc₁ hstep
      cases h
      rcases processStep_event hstep with ⟨hnone, rfl⟩ | ⟨loaded, hrow, hpc⟩
      · refine ⟨rfl, .inl ?_, .inl rfl⟩
        refine hnone.imp_right fun hnone rid hlinked => ?_
        obtain ⟨row, hrow, -, hs⟩ := linked_iff.mp hlinked
        rw [getByStripeSubscriptionId_eq_some_iff.mpr ⟨hrow, hs⟩] at hnone
        cases hnone
      · have hlinked : Linked db loaded.id stripeId := by
          obtain ⟨hmem, hs⟩ := getByStripeSubscriptionId_eq_some_iff.mp hrow
          exact linked_iff.mpr ⟨loaded, hmem, rfl, hs⟩
        rcases hpc with ⟨priceId, rfl⟩ | ⟨patch, rfl, hstatus, hid⟩
        · exact ⟨rfl, .inl hlinked, .inr (.inr ⟨rfl, loaded, hrow, rfl⟩)⟩
        · exact ⟨rfl, .inl ⟨hlinked, hid⟩, .inr (.inr ⟨rfl, loaded, hrow, by rw [← hstatus]; rfl⟩)⟩
    · cases h
      exact ⟨rfl, .inl trivial, .inl rfl⟩
  | readPlan loaded status priceId =>
    left
    simp only [webhookStep] at h
    cases h
    obtain ⟨patch, hpatch, hstatus, hid⟩ :=
      statusUpdate_spec loaded status (PlanRepository.getByStripePriceId db priceId)
    rw [hpatch]
    exact ⟨rfl, .inl ⟨hw, hid⟩, .inl (congrArg some hstatus)⟩
  | commit pending =>
    simp only [webhookStep] at h
    split at h
    · rename_i db₁ hcommit
      cases h
      refine .inr ⟨rfl, pending, rfl, ?_⟩
      rw [commit_eq_ok.mp hcommit]
    · cases h
      exact .inl ⟨rfl, .inl trivial, .inr (.inl rfl)⟩
  | rollback exn =>
    cases h
    exact .inl ⟨rfl, .inr ⟨exn, rfl⟩, .inl rfl⟩
  | done result => exact hw.elim

/-- A delivery keeps every link. -/
theorem links_applyTo {pending : PendingWrite} (hw : Writes db stripeId (.commit pending))
    (h : db'.subscriptions = pending.applyTo ids.subscription now db.subscriptions) :
    links db' = links db := by
  rw [links, h]
  cases pending with
  | none => rfl
  | insert => exact hw.elim
  | update rid patch =>
    simp only [PendingWrite.applyTo, List.map_map, links]
    refine List.map_congr_left fun row _ => ?_
    simp only [Function.comp_apply]
    split_ifs <;> simp [SubscriptionPatch.apply, hw.2]

end Delivery

/-! ## The job -/

/-- The loaded rows that the job is not through with. -/
def todo : JobPc → List Subscription
  | .retrieve loaded rest _ _ => loaded :: rest
  | _ => []

/-- The statuses that the job is going to write. -/
def changed : JobPc → List (Uuid × SubscriptionStatus)
  | .retrieve _ _ _ changed => changed
  | .commit changed => changed
  | _ => []

section Job

variable {attempts : ℕ} {answer : Except Exn Json} {db db' : Database} {pc pc' : JobPc}

theorem nextRow_eq (attempts : ℕ) (rows : List Subscription)
    (changed : List (Uuid × SubscriptionStatus)) :
    JobPc.nextRow attempts changed rows = .commit changed ∨
      todo (.nextRow attempts changed rows) = rows ∧
        StripeSync.changed (.nextRow attempts changed rows) = changed := by
  cases rows with
  | nil => exact .inl rfl
  | cons loaded rest =>
    unfold JobPc.nextRow
    split_ifs
    · exact .inl rfl
    · exact .inr ⟨rfl, rfl⟩

/-- One step of the job. -/
theorem jobStep_cases (h : jobStep attempts answer db pc = some (db', pc')) :
    (pc = .load ∧ db' = db ∧ pc' = .nextRow attempts [] (getAllWithStripeId db)) ∨
      (∃ loaded rest attempt changed, pc = .retrieve loaded rest attempt changed ∧ db' = db ∧
        ((∃ object, answer = .ok object ∧
            pc' = .nextRow attempts (changed ++ statusChange loaded object) rest) ∨
          (∃ exn, answer = .error exn) ∧ (pc' = .retrieve loaded rest (attempt + 1) changed ∨
            pc' = .nextRow attempts changed rest))) ∨
      ∃ changed, pc = .commit changed ∧ pc' = .done (.ok changed.length) ∧
        db'.subscriptions = applyStatuses changed db.subscriptions := by
  cases pc with
  | load => cases h; exact .inl ⟨rfl, rfl, rfl⟩
  | retrieve loaded rest attempt changed =>
    refine .inr (.inl ⟨loaded, rest, attempt, changed, rfl, ?_⟩)
    simp only [jobStep] at h
    split at h
    · rename_i object
      cases h
      exact ⟨rfl, .inl ⟨object, rfl, rfl⟩⟩
    · rename_i exn
      split_ifs at h <;> cases h
      · exact ⟨rfl, .inr ⟨⟨exn, rfl⟩, .inl rfl⟩⟩
      · exact ⟨rfl, .inr ⟨⟨exn, rfl⟩, .inr rfl⟩⟩
  | commit changed =>
    obtain ⟨db₁, hok, ht⟩ := commitStatuses_eq_ok db changed
    simp only [jobStep, hok] at h
    cases h
    exact .inr (.inr ⟨changed, rfl, rfl, by rw [ht]⟩)
  | done synced => simp [jobStep] at h

theorem links_applyStatuses {changed : List (Uuid × SubscriptionStatus)}
    (h : db'.subscriptions = applyStatuses changed db.subscriptions) : links db' = links db := by
  simp [links, h, applyStatuses_eq_map, Function.comp_def]

end Job

/-! ## What is held in memory -/

/-- A delivery carries the change that is due and writes to its own row; the job
    goes through linked rows, each once, and changes only those it got an answer
    about. -/
structure Base (w : World) : Prop where
  delivery : ∀ stripeId event pc, w.delivery stripeId = some (event, pc) →
    Writes w.db stripeId pc ∧ ∃ (c : Change stripeId) (eventId : String),
      event = c.event eventId ∧ (w.versions stripeId)[w.handled stripeId + 1]? = some c
  rows : ∀ loaded ∈ todo w.job, ∃ stripeId, loaded.stripeSubscriptionId = some stripeId ∧
    Linked w.db loaded.id stripeId
  once : (w.answered ++ (todo w.job).map Subscription.id).Nodup
  changed : ∀ p ∈ changed w.job, p.1 ∈ w.answered
  load : w.job = .load → w.answered = []

section Base

variable {driver : Driver} {attempts : ℕ} {w w' : World} {m : Move} {stripeId : String}
  {event : StripeEvent} {db : Database} {pc : WebhookPc}

theorem Writes.congr (hw : Writes w.db stripeId pc) (h : links db = links w.db) :
    Writes db stripeId pc := by
  unfold Writes Linked at *
  rw [h]
  exact hw

theorem afterHandle_of_writes (h : Writes w.db stripeId pc) :
    w.afterHandle stripeId event (db, pc) = { w with
      db := db, delivery := Function.update w.delivery stripeId (some (event, pc)) } := by
  cases pc <;> first | rfl | exact h.elim

theorem Base.change (h : Base w) (new : Change stripeId) :
    Base { w with
      versions := Function.update w.versions stripeId (w.versions stripeId ++ [new]) } where
  delivery stripeId' event pc hd := by
    obtain ⟨hw, c, eventId, he, hc⟩ := h.delivery stripeId' event pc hd
    refine ⟨hw, c, eventId, he, ?_⟩
    by_cases heq : stripeId' = stripeId
    · subst heq
      dsimp only
      rw [Function.update_self, List.getElem?_append_left (List.getElem?_eq_some_iff.mp hc).1, hc]
    · dsimp only
      rw [Function.update_of_ne heq, hc]
  rows := h.rows
  once := h.once
  changed := h.changed
  load := h.load

/-- Everything but the delivery about `stripeId` stays as it is; that one ends
    or goes on with the same change. -/
theorem Base.setDelivery (h : Base w) {d : Option (StripeEvent × WebhookPc)}
    (hd : ∀ event pc, d = some (event, pc) → Writes w.db stripeId pc ∧
      ∃ (c : Change stripeId) (eventId : String),
        event = c.event eventId ∧ (w.versions stripeId)[w.handled stripeId + 1]? = some c) :
    Base { w with delivery := Function.update w.delivery stripeId d } where
  delivery stripeId' event pc hd' := by
    dsimp only at hd'
    by_cases heq : stripeId' = stripeId
    · subst heq
      rw [Function.update_self] at hd'
      exact hd event pc hd'
    · rw [Function.update_of_ne heq] at hd'
      exact h.delivery stripeId' event pc hd'
  rows := h.rows
  once := h.once
  changed := h.changed
  load := h.load

/-- The change of a delivery that has succeeded is handled. -/
theorem Base.finish (h : Base w) (hlinks : links db = links w.db) :
    Base { w with
      db := db
      handled := Function.update w.handled stripeId (w.handled stripeId + 1)
      delivery := Function.update w.delivery stripeId none } where
  delivery stripeId' event pc hd := by
    dsimp only at hd ⊢
    by_cases heq : stripeId' = stripeId
    · subst heq
      rw [Function.update_self] at hd
      cases hd
    · rw [Function.update_of_ne heq] at hd ⊢
      obtain ⟨hw, hc⟩ := h.delivery stripeId' event pc hd
      exact ⟨hw.congr hlinks, hc⟩
  rows loaded hl := by
    obtain ⟨stripeId', hs, hlinked⟩ := h.rows loaded hl
    exact ⟨stripeId', hs, by rwa [Linked, hlinks]⟩
  once := h.once
  changed := h.changed
  load := h.load

/-- A step of the job. -/
theorem Base.setJob (h : Base w) (hlinks : links db = links w.db) {job : JobPc} {rows : List Uuid}
    (htodo : ∀ loaded ∈ todo job, ∃ stripeId, loaded.stripeSubscriptionId = some stripeId ∧
      Linked w.db loaded.id stripeId)
    (honce : (w.answered ++ rows ++ (todo job).map Subscription.id).Nodup)
    (hchanged : ∀ p ∈ StripeSync.changed job, p.1 ∈ w.answered ++ rows) (hload : job ≠ .load) :
    Base { w with db := db, job := job, answered := w.answered ++ rows } where
  delivery stripeId event pc hd := by
    obtain ⟨hw, hc⟩ := h.delivery stripeId event pc hd
    exact ⟨hw.congr hlinks, hc⟩
  rows loaded hl := by
    obtain ⟨stripeId, hs, hlinked⟩ := htodo loaded hl
    exact ⟨stripeId, hs, by rwa [Linked, hlinks]⟩
  once := honce
  changed := hchanged
  load hj := absurd hj hload

/-! ### The steps of the system -/

/-- A step of a delivery: it goes on with the same change, fails, or succeeds. -/
theorem handle_cases {ids : NewIds} {now : DateTime} (h : Base w)
    (hnext : next driver attempts w (.handle stripeId ids now) = some w') :
    ∃ (c : Change stripeId) (event : StripeEvent) (pc : WebhookPc),
      w.delivery stripeId = some (event, pc) ∧
      (w.versions stripeId)[w.handled stripeId + 1]? = some c ∧ Writes w.db stripeId pc ∧
      ((∃ pc', Base { w with delivery := Function.update w.delivery stripeId (some (event, pc')) } ∧
          w' = { w with delivery := Function.update w.delivery stripeId (some (event, pc')) } ∧
          (pendingStatus pc' = pendingStatus pc ∨ pendingStatus pc' = none ∨
            pendingStatus pc = none ∧
              ∃ loaded, getByStripeSubscriptionId w.db stripeId = some loaded ∧
                pendingStatus pc' = some (Mirror.Cell.update loaded.status c.status))) ∨
        w' = { w with delivery := Function.update w.delivery stripeId none } ∨
        ∃ pending db, pc = .commit pending ∧
          db.subscriptions = pending.applyTo ids.subscription now w.db.subscriptions ∧
          w' = { w with
            db := db
            handled := Function.update w.handled stripeId (w.handled stripeId + 1)
            delivery := Function.update w.delivery stripeId none }) := by
  simp only [next] at hnext
  split at hnext
  · cases hnext
  · rename_i event pc hd
    obtain ⟨⟨db, pc'⟩, hstep, rfl⟩ := Option.map_eq_some_iff.mp hnext
    obtain ⟨hw, c, eventId, rfl, hc⟩ := h.delivery stripeId event pc hd
    refine ⟨c, _, pc, hd, hc, hw, ?_⟩
    rcases webhookStep_cases hw hstep with ⟨rfl, hpc', hstatus⟩ | ⟨rfl, pending, rfl, hdb⟩
    · rcases hpc' with hw' | ⟨exn, rfl⟩
      · refine .inl ⟨pc', h.setDelivery fun event' pc'' heq => ?_, afterHandle_of_writes hw',
          hstatus⟩
        cases heq
        exact ⟨hw', c, eventId, rfl, hc⟩
      · exact .inr (.inl rfl)
    · exact .inr (.inr ⟨pending, db, rfl, hdb, rfl⟩)

/-- A step of the job: it loads, gets an answer or not, or commits. -/
theorem job_cases {failure : Option Exn}
    (h : Base w) (hnext : next driver attempts w (.job failure) = some w') :
    (w.job = .load ∧ w' = { w with
      job := .nextRow attempts [] (getAllWithStripeId w.db), answered := w.answered ++ [] }) ∨
    (∃ loaded rest attempt changed, w.job = .retrieve loaded rest attempt changed ∧
      ((∃ stripeId c, loaded.stripeSubscriptionId = some stripeId ∧
          (w.versions stripeId).getLast? = some c ∧ w' = { w with
            job := .nextRow attempts (changed ++ statusChange loaded c.object) rest
            answered := w.answered ++ [loaded.id] }) ∨
        w' = { w with
          job := .retrieve loaded rest (attempt + 1) changed, answered := w.answered ++ [] } ∨
        w' = { w with job := .nextRow attempts changed rest, answered := w.answered ++ [] })) ∨
    ∃ changed db, w.job = .commit changed ∧
      db.subscriptions = applyStatuses changed w.db.subscriptions ∧
      w' = { w with
        db := db, job := .done (.ok changed.length), answered := w.answered ++ [] } := by
  obtain ⟨⟨db, pc⟩, hstep, rfl⟩ := Option.map_eq_some_iff.mp hnext
  rcases jobStep_cases hstep with ⟨hjob, rfl, rfl⟩ |
    ⟨loaded, rest, attempt, changed, hjob, rfl, hpc⟩ | ⟨changed, hjob, rfl, hdb⟩
  · exact .inl ⟨hjob, by simp only [World.answeredRow, hjob]⟩
  · refine .inr (.inl ⟨loaded, rest, attempt, changed, hjob, ?_⟩)
    rcases hpc with ⟨object, hanswer, rfl⟩ | ⟨⟨exn, hanswer⟩, hpc⟩
    · left
      obtain ⟨stripeId, hs, -⟩ := h.rows loaded (by simp [hjob, todo])
      have hrow : w.answeredRow failure = [loaded.id] := by
        simp only [World.answeredRow, hjob, hanswer]
      cases failure with
      | some exn => cases hanswer
      | none =>
        simp only [World.answer, hjob, hs, Option.getD_some] at hanswer
        unfold World.current at hanswer
        split at hanswer
        · rename_i c hlast
          cases hanswer
          exact ⟨stripeId, c, hs, hlast, by rw [hrow]⟩
        · cases hanswer
    · right
      have hrow : w.answeredRow failure = [] := by simp only [World.answeredRow, hjob, hanswer]
      rw [hrow]
      exact hpc.imp (by rintro rfl; rfl) (by rintro rfl; rfl)
  · exact .inr (.inr ⟨changed, db, hjob, hdb, by simp only [World.answeredRow, hjob]⟩)

theorem todo_nextRow_sublist (attempts : ℕ) (rows : List Subscription)
    (changed : List (Uuid × SubscriptionStatus)) :
    (todo (.nextRow attempts changed rows)).Sublist rows ∧
      StripeSync.changed (.nextRow attempts changed rows) = changed ∧
      JobPc.nextRow attempts changed rows ≠ .load := by
  rcases nextRow_eq attempts rows changed with heq | ⟨htodo, hchanged⟩
  · rw [heq]; simp [todo, StripeSync.changed]
  · refine ⟨by rw [htodo], hchanged, ?_⟩
    cases rows <;> unfold JobPc.nextRow <;> [skip; split_ifs] <;> simp

/-- **The invariant.** No step changes a link either. -/
theorem Base.next (h : Base w) (hnext : next driver attempts w m = some w') :
    Base w' ∧ links w'.db = links w.db := by
  cases m with
  | change stripeId new =>
    cases hnext
    exact ⟨h.change new, rfl⟩
  | deliver stripeId eventId =>
    simp only [StripeSync.next] at hnext
    split at hnext
    · rename_i c hd hc hmarker
      cases hnext
      refine ⟨h.setDelivery fun event pc heq => ?_, rfl⟩
      cases heq
      exact ⟨trivial, c, eventId, rfl, hc⟩
    · cases hnext
  | handle stripeId ids now =>
    obtain ⟨c, event, pc, hd, hc, hw, hcases⟩ := handle_cases h hnext
    rcases hcases with ⟨pc', hbase, rfl, -⟩ | rfl | ⟨pending, db, rfl, hdb, rfl⟩
    · exact ⟨hbase, rfl⟩
    · exact ⟨h.setDelivery (by simp), rfl⟩
    · have hlinks := links_applyTo hw hdb
      exact ⟨h.finish hlinks, hlinks⟩
  | job failure =>
    rcases job_cases h hnext with ⟨hjob, rfl⟩ | ⟨loaded, rest, attempt, changed, hjob, hcases⟩ |
      ⟨changed, db, hjob, hdb, rfl⟩
    · obtain ⟨hsub, hchanged, hload⟩ :=
        todo_nextRow_sublist attempts (getAllWithStripeId w.db) []
      have hnodup : ((getAllWithStripeId w.db).map Subscription.id).Nodup :=
        w.db.constraints.subscriptions_pkey.sublist (List.filter_sublist.map _)
      refine ⟨h.setJob rfl (fun l hl => ?_) ?_ (by simp [hchanged]) hload, rfl⟩
      · obtain ⟨hmem, hs⟩ := List.mem_filter.mp (hsub.subset hl)
        obtain ⟨stripeId, hs⟩ := Option.isSome_iff_exists.mp hs
        exact ⟨stripeId, hs, linked_iff.mpr ⟨l, hmem, rfl, hs⟩⟩
      · rw [h.load hjob]
        exact hnodup.sublist (hsub.map _)
    · have hrows := h.rows
      have honce := h.once
      have hchanged := h.changed
      simp only [hjob, todo, StripeSync.changed, List.map_cons] at hrows honce hchanged
      rcases hcases with ⟨stripeId, c, hs, hlast, rfl⟩ | rfl | rfl
      · obtain ⟨hsub, hchanged', hload⟩ := todo_nextRow_sublist attempts rest
          (changed ++ statusChange loaded c.object)
        refine ⟨h.setJob rfl (fun l hl => hrows l (by simp [hsub.subset hl])) ?_ ?_ hload, rfl⟩
        · refine honce.sublist ?_
          rw [List.append_assoc]
          exact (List.Sublist.refl _).append ((hsub.map _).cons_cons _)
        · rw [hchanged']
          intro p hp
          rcases List.mem_append.mp hp with hp | hp
          · exact List.mem_append_left _ (hchanged p hp)
          · simp [statusChange_fst hp]
      · exact ⟨h.setJob rfl hrows (by simpa [todo] using honce)
          (by simpa [StripeSync.changed] using hchanged) (by simp), rfl⟩
      · obtain ⟨hsub, hchanged', hload⟩ := todo_nextRow_sublist attempts rest changed
        refine ⟨h.setJob rfl (fun l hl => hrows l (by simp [hsub.subset hl])) ?_ ?_ hload, rfl⟩
        · refine honce.sublist ?_
          rw [List.append_nil]
          exact (List.Sublist.refl _).append ((hsub.map _).cons _)
        · rw [hchanged']
          intro p hp
          exact List.mem_append_left _ (hchanged p hp)
    · have hlinks := links_applyStatuses hdb
      have hnodup := h.once.sublist (List.sublist_append_left _ _)
      exact ⟨h.setJob hlinks (by simp [todo]) (by simpa [todo] using hnodup)
        (by simp [StripeSync.changed]) (by simp), hlinks⟩

end Base

end StripeSync

end BillingEngine
