import BillingEngine.Migrations.Upgrades

/-!
# Which revisions can be undone

A downgrade that drops exactly what its upgrade has created comes back to the schema
before, and then to the rows before, since neither writes to a column of that schema.
Four of the six do. The first one leaves the enum type of `subscriptions.status`
behind, where `2a29408dbf7d` drops the enum type that it has created, and the second one
drops its constraint under the name `None`.

Results:
* `reversible_of_drops`: a revision whose two scripts fit together.
* `reversible_iff`: which revisions are reversible.
-/

namespace BillingEngine

open Relational

namespace Migrations

/-- `upgrade()` and then `downgrade()` succeed and give the database back. -/
def Reversible (r : Revision) (d : SqlDb) : Prop :=
  ∃ d', run r.upgrade d = .ok d' ∧ run r.downgrade d' = .ok d

variable {r : Revision} {d : SqlDb}

/-- The downgrade comes back to the schema, and no row of it is written. -/
theorem reversible_of_drops (hr : r ≠ .createInitialSchema) (h : AtRevision r.downRevision d)
    (hchecked : Checked r.downgrade (schemaAt (some r)))
    (haccepts : ∀ t ∈ (schemaAt (some r)).tables, ∀ st ∈ r.downgrade, st.AcceptsAll t.name)
    (hback : schemaAfter r.downgrade (schemaAt (some r)) = schemaAt r.downRevision)
    (hspares : ∀ st ∈ r.upgrade ++ r.downgrade, st.Spares (schemaAt r.downRevision)) :
    Reversible r d := by
  obtain ⟨d', hup⟩ := upgrade_succeeds hr h
  have hdown := succeeds_of_accepts (atRevision_of_upgrade h hup).1 hchecked haccepts
  have hboth : run (r.upgrade ++ r.downgrade) d = run r.downgrade d' := by rw [run_append, hup]
  have hschema : schemaAfter (r.upgrade ++ r.downgrade) d.schema = d.schema := by
    rw [h.schema, schemaAfter, List.foldl_append, ← schemaAfter, ← schemaAfter,
      schemaAfter_upgrade, hback]
  rw [← h.schema] at hspares
  have hsame := eq_of_spares h.valid h.closed hspares hschema (hboth.trans hdown)
  exact ⟨d', hup, hdown.trans (congrArg Except.ok hsame)⟩

/-- Neither the enumeration type nor the added column stands in the way. -/
theorem reversible_of_ne (h : AtRevision r.downRevision d) (hfirst : r ≠ .createInitialSchema)
    (hkey : r ≠ .addIdempotencyKey) : Reversible r d := by
  cases r with
  | createInitialSchema => exact absurd rfl hfirst
  | addIdempotencyKey => exact absurd rfl hkey
  | addInvoices | addBillingPeriod | addUsageTypes | addStripeFields =>
    exact reversible_of_drops (by decide) h (by decide) (by decide) (by decide) (by decide)

/-- After both scripts the enum type is still there. -/
theorem createInitialSchema_not_reversible (h : AtRevision none d) :
    ¬ Reversible .createInitialSchema d := by
  rintro ⟨d', hup, hdown⟩
  have hschema := (run_eq_ok hdown).1
  rw [(run_eq_ok hup).1, h.schema] at hschema
  exact absurd hschema (by decide)

/-- A constraint without a name cannot be dropped. -/
theorem addIdempotencyKey_not_reversible : ¬ Reversible .addIdempotencyKey d := by
  rintro ⟨d', -, hdown⟩
  cases hdown

/-- A database with the schema at a revision and without rows. -/
def withoutRows (revision : Option Revision) : SqlDb := ⟨schemaAt revision, fun _ => []⟩

/-- The type stays behind in a new database, and the second downgrade fails. -/
theorem withoutRows_not_reversible :
    (AtRevision none (withoutRows none) ∧
      ¬ Reversible .createInitialSchema (withoutRows none)) ∧
    AtRevision (some .createInitialSchema) (withoutRows (some .createInitialSchema)) ∧
      ¬ Reversible .addIdempotencyKey (withoutRows (some .createInitialSchema)) := by
  have hempty : AtRevision none (withoutRows none) := ⟨rfl, by decide, fun _ _ => rfl⟩
  exact ⟨⟨hempty, createInitialSchema_not_reversible hempty⟩, ⟨rfl, by decide, fun _ _ => rfl⟩,
    addIdempotencyKey_not_reversible⟩

/-- **Which revisions are reversible**, on every database at the revision before. -/
theorem reversible_iff (h : AtRevision r.downRevision d) :
    Reversible r d ↔ r ≠ .createInitialSchema ∧ r ≠ .addIdempotencyKey := by
  refine ⟨fun hback => ⟨?_, ?_⟩, fun ⟨hfirst, hkey⟩ => reversible_of_ne h hfirst hkey⟩
  · rintro rfl
    exact createInitialSchema_not_reversible h hback
  · rintro rfl
    exact addIdempotencyKey_not_reversible hback

theorem reversible_iff_addUsageTypes :
    Reversible .addUsageTypes (withoutRows (some .addBillingPeriod)) :=
  (reversible_iff ⟨rfl, by decide, fun _ _ => rfl⟩).mpr (by decide)

end Migrations

end BillingEngine
