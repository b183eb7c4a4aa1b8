import BillingEngine.System.SubscriptionRows
import BillingEngine.Tenancy.Noninterference

/-!
# The lists of all tenants

`GET /usage` and `GET /invoices` list what a tenant owns. The foreign keys lead
from every event and every invoice over its subscription to a tenant, the primary
keys make that tenant the only one, and no operation changes the key or the
tenant of a subscription.

Results:
* `partition_usageEvents`, `partition_invoices`: in every state of the database
  the lists of all tenants make up the table.
* `views_partition`: so before every run, and after it every row is still in the
  list it was in.
-/

namespace BillingEngine

open Runs

namespace Tenancy

/-- Every row is in one list, once; all lists together are the table; and every
    list is sorted, newest first. -/
structure Partition {ρ : Type} [DecidableEq ρ] (db : Database) (rows : List ρ)
    (createdAt : ρ → DateTime) (view : Uuid → List ρ) : Prop where
  once : ∀ r ∈ rows, ∃ tenant ∈ db.tenants, (view tenant.id).count r = 1 ∧
    ∀ other, other ≠ tenant.id → r ∉ view other
  together : ((db.tenants.map Tenant.id).flatMap view).Perm rows
  nothingElse : ∀ tenantId, view tenantId ⊆ rows
  sorted : ∀ tenantId, (view tenantId).Pairwise fun a b => createdAt b ≤ createdAt a

section Owner

variable {db db' : Database} {tenantId tenantId' sid : Uuid}

theorem owns_iff_owners : Owns db tenantId sid ↔ (sid, tenantId) ∈ db.owners := by
  simp [Owns, Database.owners]

/-- A subscription has an owner, -/
theorem exists_owner (h : sid ∈ db.subscriptions.map Subscription.id) :
    ∃ tenant ∈ db.tenants, Owns db tenant.id sid := by
  obtain ⟨s, hs, hid⟩ := List.mem_map.mp h
  obtain ⟨tenant, htenant, heq⟩ :=
    List.mem_map.mp (db.constraints.subscriptions_tenant_fkey s hs)
  exact ⟨tenant, htenant, s, hs, hid, heq.symm⟩

/-- and only one. -/
theorem Owns.unique (h : Owns db tenantId sid) (h' : Owns db tenantId' sid) :
    tenantId = tenantId' := by
  obtain ⟨s, hs, hid, rfl⟩ := h
  obtain ⟨s', hs', hid', rfl⟩ := h'
  rw [Rows.eq_of_unique db.constraints.subscriptions_pkey hs hs' (hid.trans hid'.symm)]

theorem Owns.mono (hgrow : db.owners <+: db'.owners) (h : Owns db tenantId sid) :
    Owns db' tenantId sid :=
  owns_iff_owners.mpr (hgrow.subset (owns_iff_owners.mp h))

/-- What is selected by the owner of a row's subscription is a partition. -/
theorem partition_of_owner {ρ : Type} [DecidableEq ρ] {rows : List ρ} {fkey : ρ → Uuid}
    {createdAt : ρ → DateTime} {view : Uuid → List ρ} (hnodup : rows.Nodup)
    (hfkey : ∀ r ∈ rows, fkey r ∈ db.subscriptions.map Subscription.id)
    (hview : ∀ tenantId, view tenantId =
      (rows.filter fun r => decide (Owns db tenantId (fkey r))).insertionSort
        fun a b => createdAt b ≤ createdAt a) :
    Partition db rows createdAt view := by
  have hperm : ∀ tenantId, (view tenantId).Perm
      (rows.filter fun r => decide (Owns db tenantId (fkey r))) := fun tenantId => by
    rw [hview]
    exact List.perm_insertionSort _ _
  have hmem : ∀ tenantId r, r ∈ view tenantId ↔ r ∈ rows ∧ Owns db tenantId (fkey r) :=
    fun tenantId r => by rw [(hperm tenantId).mem_iff, List.mem_filter, decide_eq_true_eq]
  refine ⟨fun r hr => ?_, ?_, fun tenantId r hr => ((hmem tenantId r).mp hr).1, fun tenantId => ?_⟩
  · obtain ⟨tenant, htenant, howns⟩ := exists_owner (hfkey r hr)
    have hone : (view tenant.id).Nodup := (hperm tenant.id).nodup_iff.mpr (hnodup.filter _)
    refine ⟨tenant, htenant, ?_, fun other hother hr' => ?_⟩
    · exact List.count_eq_one_of_mem hone ((hmem _ r).mpr ⟨hr, howns⟩)
    · exact hother (((hmem other r).mp hr').2.unique howns)
  · have hcover : ∀ r ∈ rows, ∃ tenantId ∈ db.tenants.map Tenant.id,
        decide (Owns db tenantId (fkey r)) := fun r hr => by
      obtain ⟨tenant, htenant, howns⟩ := exists_owner (hfkey r hr)
      exact ⟨tenant.id, List.mem_map_of_mem htenant, decide_eq_true howns⟩
    refine (List.Perm.flatMap_left _ fun tenantId _ => hperm tenantId).trans ?_
    exact Rows.flatMap_filter_perm db.constraints.tenants_pkey hcover fun r _ _ _ h h' =>
      (of_decide_eq_true h).unique (of_decide_eq_true h')
  · rw [hview]
    have : Std.Total fun a b : ρ => createdAt b ≤ createdAt a := ⟨fun _ _ => le_total _ _⟩
    have : IsTrans ρ fun a b => createdAt b ≤ createdAt a := ⟨fun _ _ _ h h' => h'.trans h⟩
    exact List.pairwise_insertionSort _ _

theorem partition_usageEvents (db : Database) : Partition db db.usageEvents UsageEvent.createdAt
    (UsageRepository.getAllByTenant db) :=
  partition_of_owner (db.constraints.usage_pkey.of_map _) db.constraints.usage_subscription_fkey
    fun _ => getAllByTenant_eq

theorem partition_invoices (db : Database) : Partition db db.invoices Invoice.createdAt
    (InvoiceRepository.getAllByTenant db) :=
  partition_of_owner (db.constraints.invoices_pkey.of_map _)
    db.constraints.invoices_subscription_fkey fun _ => getAllByTenant_invoices_eq

theorem mem_getAllByTenant {e : UsageEvent} : e ∈ UsageRepository.getAllByTenant db tenantId ↔
    e ∈ db.usageEvents ∧ Owns db tenantId e.subscriptionId := by
  rw [getAllByTenant_eq, List.mem_insertionSort, ownEvents, List.mem_filter, decide_eq_true_eq]

theorem mem_getAllByTenant_invoices {i : Invoice} :
    i ∈ InvoiceRepository.getAllByTenant db tenantId ↔
      i ∈ db.invoices ∧ Owns db tenantId i.subscriptionId := by
  rw [getAllByTenant_invoices_eq, List.mem_insertionSort, ownInvoices, List.mem_filter,
    decide_eq_true_eq]

end Owner

variable {driver : Driver} {s s' : Serial}

/-- **The views partition the ledgers, and no row leaves its view**, whatever
    state the run starts in. -/
theorem views_partition (hrun : Run (Serial.next driver) Always s s') :
    Partition s.db s.db.usageEvents UsageEvent.createdAt (UsageRepository.getAllByTenant s.db) ∧
    Partition s.db s.db.invoices Invoice.createdAt (InvoiceRepository.getAllByTenant s.db) ∧
    ∀ tenantId,
      UsageRepository.getAllByTenant s.db tenantId ⊆
        UsageRepository.getAllByTenant s'.db tenantId ∧
      InvoiceRepository.getAllByTenant s.db tenantId ⊆
        InvoiceRepository.getAllByTenant s'.db tenantId := by
  obtain ⟨hevents, hinvoices⟩ := Serial.run_grows hrun
  have howners := Serial.run_owners hrun
  refine ⟨partition_usageEvents s.db, partition_invoices s.db, fun tenantId => ⟨?_, ?_⟩⟩
  · intro e he
    obtain ⟨hmem, howns⟩ := mem_getAllByTenant.mp he
    exact mem_getAllByTenant.mpr ⟨hevents.subset hmem, howns.mono howners⟩
  · intro i hi
    obtain ⟨hmem, howns⟩ := mem_getAllByTenant_invoices.mp hi
    exact mem_getAllByTenant_invoices.mpr ⟨hinvoices.subset hmem, howns.mono howners⟩

/-- The first tenant uses its subscription, and both are billed. -/
def bothBilled : List Op :=
  [.recordUsage (Sample.tenCalls "key-2") Sample.july Sample.july ⟨15⟩,
    .calculateBill ⟨3⟩ Sample.july Sample.july ⟨16⟩,
    .calculateBill ⟨13⟩ Sample.july Sample.july ⟨17⟩]

def billed : Serial := (exec (Serial.next .stringsOnly) busy bothBilled).get (by decide)

/-- The event of the second tenant is its only one, before and after the first
    tenant's event and the two invoices. -/
theorem views_partition_billed :
    (UsageRepository.getAllByTenant busy.db ⟨11⟩).map UsageEvent.id = [⟨14⟩] ∧
    UsageRepository.getAllByTenant busy.db ⟨11⟩ ⊆ UsageRepository.getAllByTenant billed.db ⟨11⟩ ∧
    (UsageRepository.getAllByTenant billed.db ⟨1⟩).map UsageEvent.id = [⟨15⟩] ∧
    (InvoiceRepository.getAllByTenant billed.db ⟨11⟩).map Invoice.id = [⟨17⟩] ∧
    Partition busy.db busy.db.usageEvents UsageEvent.createdAt
      (UsageRepository.getAllByTenant busy.db) := by
  have hrun : Run (Serial.next .stringsOnly) Always busy billed := Run.of_exec_isSome _
  obtain ⟨hevents, -, hstays⟩ := views_partition hrun
  exact ⟨by decide, (hstays ⟨11⟩).1, by decide, by decide, hevents⟩

end Tenancy

end BillingEngine
