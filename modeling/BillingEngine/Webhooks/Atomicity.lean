import BillingEngine.System.Concurrent

/-!
# Webhook deliveries are atomic and take effect at most once

The early marker lookup is only a shortcut: what makes a delivery atomic is that
the marker row and the subscription changes are flushed by one commit, and what
makes it single is the unique constraint on `event_id` at that commit.

Results:
* `webhook_atomicity`: in any interleaving of deliveries (and of all other
  calls), markers are unique, marker and changes appear in the same commit, a
  call that raises changes nothing, no event takes effect twice, and an event of
  which no delivery has succeeded is processed by the next one; and a serial run
  ends as the run without the deliveries after the first success of their event.
-/

namespace BillingEngine

open Runs Interleaving

namespace Webhooks

/-! ## Serial deliveries -/

/-- One delivery, with the keys it draws and the time of its commit. -/
structure Delivery where
  event : StripeEvent
  ids : StripeService.NewIds
  now : DateTime

section Serial

variable (driver : Driver)

/-- Handle one delivery. -/
def deliver (db : Database) (d : Delivery) : Database × Except Exn Unit :=
  StripeService.handleWebhook driver db d.event d.ids d.now

/-- Handle the deliveries one after the other. -/
def deliverAll (db : Database) : List Delivery → Database
  | [] => db
  | d :: ds => deliverAll (deliver driver db d).1 ds

/-- The deliveries without those that come after the first successful one of
    their event id; `succeeded` are the ids of which one has succeeded already. -/
def firstSuccesses (db : Database) (succeeded : List String) : List Delivery → List Delivery
  | [] => []
  | d :: ds =>
    let r := deliver driver db d
    if d.event.id ∈ succeeded then firstSuccesses r.1 succeeded ds
    else
      match r.2 with
      | .ok () => d :: firstSuccesses r.1 (d.event.id :: succeeded) ds
      | .error _ => d :: firstSuccesses r.1 succeeded ds

variable {driver} {db : Database} {d : Delivery}

/-- A marked event is not processed again. -/
theorem deliver_of_marked (h : d.event.id ∈ db.webhookEvents.map WebhookEvent.eventId) :
    deliver driver db d = (db, .ok ()) := by
  obtain ⟨w, hw, hid⟩ := List.mem_map.mp h
  obtain ⟨w', hw'⟩ := Rows.find?_isSome_of_mem WebhookEvent.eventId hw
  rw [hid] at hw'
  simp only [deliver, StripeService.handleWebhook, WebhookEventRepository.getByEventId, hw']

/-- A new event that is processed is committed, if the rows that it writes are accepted. -/
theorem deliver_of_processEvent {pending : PendingWrite}
    (hevent : d.event.id ∉ db.webhookEvents.map WebhookEvent.eventId)
    (hmarker : d.ids.marker ∉ db.webhookEvents.map WebhookEvent.id)
    (hok : StripeService.processEvent driver db d.event = .ok pending)
    (hrows : Tables.Constraints { db.toTables with
      subscriptions := pending.applyTo d.ids.subscription d.now db.subscriptions }) :
    ∃ db', deliver driver db d = (db', .ok ()) ∧ db'.toTables = { db.toTables with
      webhookEvents := db.webhookEvents ++ [StripeService.newMarker d.event d.ids.marker d.now]
      subscriptions := pending.applyTo d.ids.subscription d.now db.subscriptions } := by
  let marker := StripeService.newMarker d.event d.ids.marker d.now
  obtain ⟨db', hcommit⟩ : ∃ db',
      StripeService.commitWebhook db d.event pending d.ids d.now = .ok db' :=
    commit_isOk_iff.mpr ⟨⟨db.fits.tenants, db.fits.plans, db.fits.usageEvents, db.fits.invoices⟩,
      hrows.insertWebhookEvent (w := marker) hmarker hevent⟩
  have hnone := WebhookEventRepository.getByEventId_eq_none_iff.mpr hevent
  exact ⟨db', by simp only [deliver, StripeService.handleWebhook, hnone, hok, hcommit],
    commit_eq_ok.mp hcommit⟩

/-- Markers stay, and a successful delivery leaves one. -/
theorem deliver_markers :
    db.webhookEvents <+: (deliver driver db d).1.webhookEvents ∧
      ((deliver driver db d).2 = .ok () →
        d.event.id ∈ (deliver driver db d).1.webhookEvents.map WebhookEvent.eventId) := by
  unfold deliver StripeService.handleWebhook
  cases hm : WebhookEventRepository.getByEventId db d.event.id with
  | some w =>
    obtain ⟨hmem, hid⟩ := Rows.find?_mem hm
    exact ⟨List.prefix_rfl, fun _ => List.mem_map.mpr ⟨w, hmem, hid⟩⟩
  | none =>
    cases hp : StripeService.processEvent driver db d.event with
    | error exn => exact ⟨List.prefix_rfl, fun h => by cases h⟩
    | ok pending =>
      cases hc : StripeService.commitWebhook db d.event pending d.ids d.now with
      | error exn => simp only [hc]; exact ⟨List.prefix_rfl, fun h => by cases h⟩
      | ok db' =>
        have ht := commit_eq_ok.mp hc
        simp only [hc]
        rw [ht]
        exact ⟨List.prefix_append _ _, fun _ => by simp [StripeService.newMarker]⟩

/-- **Repetitions do not matter.** -/
theorem deliverAll_firstSuccesses (ds : List Delivery) :
    ∀ (db : Database) (succeeded : List String),
    (∀ id ∈ succeeded, id ∈ db.webhookEvents.map WebhookEvent.eventId) →
    deliverAll driver db (firstSuccesses driver db succeeded ds) = deliverAll driver db ds := by
  induction ds with
  | nil => intro db succeeded _; rfl
  | cons d ds ih =>
    intro db succeeded hmarked
    have hkeep : ∀ id ∈ succeeded,
        id ∈ (deliver driver db d).1.webhookEvents.map WebhookEvent.eventId := fun id hid =>
      (deliver_markers.1.map _).subset (hmarked id hid)
    rw [deliverAll, firstSuccesses]
    split_ifs with hdone
    · have hnoop : deliver driver db d = (db, .ok ()) := deliver_of_marked (hmarked _ hdone)
      rw [← ih _ succeeded hkeep, hnoop]
    · split
      · rename_i hok
        have hnew := deliver_markers.2 hok
        rw [deliverAll, ih _ _ (List.forall_mem_cons.mpr ⟨hnew, hkeep⟩)]
      · rw [deliverAll, ih _ _ hkeep]

end Serial

/-! ## Concurrent deliveries -/

/-- The step from `u` to `v` is the commit of the delivery `i` of `event`: the
    marker and the subscription changes appear together and the call returns. -/
def TakesEffect {ι : Type*} (u v : System ι) (i : ι) (event : StripeEvent) : Prop :=
  ∃ pending ids now, u.locals i = .handleWebhook event (.commit pending) ∧
    v.locals i = .handleWebhook event (.done (.ok ())) ∧
    v.shared.toTables = { u.shared.toTables with
      webhookEvents := u.shared.webhookEvents ++
        [StripeService.newMarker event (StripeService.NewIds.marker ids) now]
      subscriptions := pending.applyTo ids.subscription now u.shared.subscriptions }

variable {ι : Type*} [DecidableEq ι] (driver : Driver) (c₀ : System ι)

/-- `c` can be reached from `c₀`. -/
abbrev Reaches (c₀ c : System ι) : Prop := Run (System.next driver) Always c₀ c

/-- What holds of the deliveries in every run from `c₀`. -/
structure Atomic : Prop where
  /-- At every point each event id has at most one marker. -/
  marker_unique : ∀ c, Reaches driver c₀ c →
    (c.shared.webhookEvents.map WebhookEvent.eventId).Nodup
  /-- A step of a delivery changes nothing, or it is its commit. -/
  together : ∀ u v i input event pc, Reaches driver c₀ u →
    u.locals i = .handleWebhook event pc → System.next driver u (i, input) = some v →
    v.shared = u.shared ∨ TakesEffect u v i event
  /-- No step of a call that raises in the end has changed anything. -/
  raising : ∀ u v c i input event pc exn, Reaches driver c₀ u →
    u.locals i = .handleWebhook event pc → System.next driver u (i, input) = some v →
    Reaches driver v c → c.locals i = .handleWebhook event (.done (.error exn)) →
    v.shared = u.shared
  /-- No event takes effect twice. -/
  once : ∀ u v u' v' i j event event', Reaches driver c₀ u → TakesEffect u v i event →
    Reaches driver v u' → event'.id = event.id → ¬ TakesEffect u' v' j event'
  /-- As long as no delivery of an event that was not marked at the start has
      succeeded, the next delivery of it is processed. -/
  reprocessable : ∀ c event i input, Reaches driver c₀ c →
    event.id ∉ c₀.shared.webhookEvents.map WebhookEvent.eventId →
    (∀ j event', event'.id = event.id → c.locals j ≠ .handleWebhook event' (.done (.ok ()))) →
    c.locals i = .handleWebhook event .lookupMarker →
    Session.step driver input c.shared (c.locals i) =
      some (c.shared, .handleWebhook event .process)

variable {driver} {c₀}

omit [DecidableEq ι] in
theorem TakesEffect.marker_mem {u v : System ι} {i : ι} {event : StripeEvent}
    (h : TakesEffect u v i event) : event.id ∈ v.shared.webhookEvents.map WebhookEvent.eventId := by
  obtain ⟨pending, ids, now, -, -, ht⟩ := h
  rw [ht]; simp [StripeService.newMarker]

omit [DecidableEq ι] in
/-- The marker of an event that takes effect is new. -/
theorem TakesEffect.marker_new {u v : System ι} {i : ι} {event : StripeEvent}
    (h : TakesEffect u v i event) :
    event.id ∉ u.shared.webhookEvents.map WebhookEvent.eventId := by
  obtain ⟨pending, ids, now, -, -, ht⟩ := h
  have hu := v.shared.constraints.webhook_event_id
  rw [ht] at hu
  exact (nodup_map_concat.mp hu).2

theorem takesEffect_of_next {u v : System ι} {i : ι} {input : Input} {event : StripeEvent}
    {pc : WebhookPc} (hpc : u.locals i = .handleWebhook event pc)
    (h : System.next driver u (i, input) = some v) :
    v.shared = u.shared ∨ TakesEffect u v i event := by
  obtain ⟨db', s', hstep, rfl⟩ := next_eq_some.mp h
  rw [hpc] at hstep
  obtain ⟨pc', hwebhook, rfl⟩ := Session.step_handleWebhook.mp hstep
  rcases webhookStep_effect hwebhook with ⟨rfl, -⟩ | ⟨pending, rfl, rfl, ht⟩
  · exact .inl rfl
  · exact .inr ⟨pending, _, input.now, hpc, by simp, ht⟩

/-- Only a delivery that takes effect adds a marker. -/
theorem webhookEvents_of_next {u v : System ι} {i : ι} {input : Input}
    (h : System.next driver u (i, input) = some v) :
    v.shared.webhookEvents = u.shared.webhookEvents ∨ ∃ event, TakesEffect u v i event := by
  cases hs : u.locals i with
  | handleWebhook event pc =>
    exact (takesEffect_of_next hs h).imp (fun heq => by rw [heq]) fun he => ⟨event, he⟩
  | recordUsage usage pc =>
    obtain ⟨db', s', hstep, rfl⟩ := next_eq_some.mp h
    rw [hs] at hstep
    obtain ⟨pc', hrecord, -⟩ := Session.step_recordUsage.mp hstep
    exact .inl (by rw [recordStep_other hrecord])
  | calculateBill bill pc =>
    obtain ⟨db', s', hstep, rfl⟩ := next_eq_some.mp h
    rw [hs] at hstep
    obtain ⟨pc', hbill, -⟩ := Session.step_calculateBill.mp hstep
    exact .inl (by rw [billStep_other hbill])
  | runOnce attempts pc =>
    obtain ⟨db', s', hstep, rfl⟩ := next_eq_some.mp h
    rw [hs] at hstep
    obtain ⟨pc', hjob, -⟩ := Session.step_runOnce.mp hstep
    exact .inl (by rw [(jobStep_other hjob).1])

/-- A delivery that has ended stays as it is. -/
theorem locals_of_done {c c' : System ι} {i : ι} {event : StripeEvent} {result : Except Exn Unit}
    (h : c.locals i = .handleWebhook event (.done result)) (hrun : Reaches driver c c') :
    c'.locals i = .handleWebhook event (.done result) :=
  Run.locals_of_stuck (fun _ _ => rfl) hrun h

/-- The event was marked at the start, or a delivery of it has succeeded. -/
def Accounted (c₀ c : System ι) (eventId : String) : Prop :=
  eventId ∈ c₀.shared.webhookEvents.map WebhookEvent.eventId ∨
    ∃ j event, event.id = eventId ∧ c.locals j = .handleWebhook event (.done (.ok ()))

/-- Every marker was there at the start or belongs to a delivery that succeeded. -/
theorem accounted_of_marker {c : System ι} (hrun : Reaches driver c₀ c) :
    ∀ x ∈ c.shared.webhookEvents.map WebhookEvent.eventId, Accounted c₀ c x := by
  refine hrun.invariant
    (P := fun c => ∀ x ∈ c.shared.webhookEvents.map WebhookEvent.eventId, Accounted c₀ c x) ?_
    fun x hx => .inl hx
  rintro u ⟨i, input⟩ v hu - hnext x hx
  have hold : x ∈ u.shared.webhookEvents.map WebhookEvent.eventId → Accounted c₀ v x := by
    intro hx'
    refine (hu x hx').imp_right ?_
    rintro ⟨j, event, hid, hj⟩
    exact ⟨j, event, hid, locals_of_done hj (.single trivial hnext)⟩
  rcases webhookEvents_of_next hnext with heq | ⟨event, pending, ids, now, -, hdone, ht⟩
  · rw [heq] at hx
    exact hold hx
  · rw [ht, List.map_append, List.mem_append] at hx
    rcases hx with hx | hx
    · exact hold hx
    · exact .inr ⟨i, event, (List.mem_singleton.mp hx).symm, hdone⟩

/-- **Atomic deliveries with at most one effect per event**, in every
    interleaving from every state, and in every serial run. -/
theorem webhook_atomicity (driver : Driver) (c₀ : System ι) : Atomic driver c₀ ∧
    ∀ (db : Database) (ds : List Delivery),
      deliverAll driver db (firstSuccesses driver db [] ds) = deliverAll driver db ds := by
  refine ⟨⟨?_, ?_, ?_, ?_, ?_⟩, fun db ds => deliverAll_firstSuccesses ds db [] (by simp)⟩
  · exact fun c _ => c.shared.constraints.webhook_event_id
  · exact fun u v i input event pc _ hpc hnext => takesEffect_of_next hpc hnext
  · intro u v c i input event pc exn _ hpc hnext hrun hraise
    rcases takesEffect_of_next hpc hnext with heq | ⟨pending, ids, now, -, hdone, -⟩
    · exact heq
    · rw [locals_of_done hdone hrun] at hraise
      cases hraise
  · intro u v u' v' i j event event' _ hfirst hrun hid hsecond
    have hmem := ((System.run_grows hrun).webhookEvents.map _).subset hfirst.marker_mem
    exact hsecond.marker_new (hid ▸ hmem)
  · intro c event i input hrun hstart hfailed hi
    have hnew : event.id ∉ c.shared.webhookEvents.map WebhookEvent.eventId := by
      intro hmem
      rcases accounted_of_marker hrun _ hmem with h₀ | ⟨j, event', hid, hj⟩
      · exact hstart h₀
      · exact hfailed j event' hid hj
    have hnone := WebhookEventRepository.getByEventId_eq_none_iff.mpr hnew
    rw [hi]
    exact Session.step_handleWebhook.mpr ⟨.process, by simp only [webhookStep, hnone], rfl⟩

end Webhooks

end BillingEngine
