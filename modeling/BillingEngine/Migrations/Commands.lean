import BillingEngine.Common.Runs
import BillingEngine.Migrations.Reversible

/-!
# Migration commands on a live database

An operator migrates a database that the application writes to: `alembic upgrade` and
`alembic downgrade` by any number of revisions, to the head or to the base, in any
order, with any writes in between. `alembic/env.py` runs the scripts of one
command in one transaction, so a command that fails changes neither the schema nor the
rows nor the recorded revision. Of Alembic itself is assumed that it runs the scripts in
the order of the revisions and records the last one.

Results:
* `run_outlook`: whatever is done, the database has the schema of its recorded revision
  and can be upgraded to the head; unless the first revision has been downgraded, and
  then no command ever does anything again. A database with idempotency keys keeps them.
* `downgrade_isSome_iff`: which downgrades succeed.
* `upgrade_undone_iff`: which upgrades a downgrade by as many revisions takes back,
  schema and rows.
-/

namespace BillingEngine

open Relational Runs

namespace Migrations

/-- The database, with the revision that `alembic_version` records. -/
structure Versioned where
  revision : Option Revision
  db : SqlDb

inductive Command where
  /-- `alembic upgrade +n` -/
  | upgrade (n : ℕ)
  /-- `alembic upgrade head` -/
  | upgradeHead
  /-- `alembic downgrade -n` -/
  | downgrade (n : ℕ)
  /-- `alembic downgrade base` -/
  | downgradeBase

/-- The revisions after the recorded one. -/
def later (revision : Option Revision) : List Revision :=
  Revision.addStripeFields.history.drop (revision.elim [] Revision.history).length

/-- The recorded revision and those before it, the latest first. -/
def earlier (revision : Option Revision) : List Revision :=
  (revision.elim [] Revision.history).reverse

/-- The upgrades of the listed revisions, in one transaction. -/
def upgradeThrough (rs : List Revision) (s : Versioned) : Option Versioned :=
  match run (rs.flatMap Revision.upgrade) s.db with
  | .ok d => some ⟨rs.foldl (fun _ r => some r) s.revision, d⟩
  | .error _ => none

/-- The downgrades of the listed revisions, in one transaction. -/
def downgradeThrough (rs : List Revision) (s : Versioned) : Option Versioned :=
  match run (rs.flatMap Revision.downgrade) s.db with
  | .ok d => some ⟨rs.foldl (fun _ r => r.downRevision) s.revision, d⟩
  | .error _ => none

/-- What a command makes of the database, if it succeeds. A relative target that names no
    revision, or none that is there, is an error: `+0`, `-0`, and more revisions than there
    are. -/
def Command.execute (s : Versioned) : Command → Option Versioned
  | upgrade n =>
    if 1 ≤ n ∧ n ≤ (later s.revision).length then
      upgradeThrough ((later s.revision).take n) s
    else none
  | upgradeHead => upgradeThrough (later s.revision) s
  | downgrade n =>
    if 1 ≤ n ∧ n ≤ (earlier s.revision).length then
      downgradeThrough ((earlier s.revision).take n) s
    else none
  | downgradeBase => downgradeThrough (earlier s.revision) s

/-- A command, or writes of the application. -/
inductive Action where
  | command (command : Command)
  | write (contents : Contents SqlValue)

namespace Versioned

def next (s : Versioned) : Action → Option Versioned
  | .command command => some ((command.execute s).getD s)
  | .write contents => some { s with db := ⟨s.db.schema, contents⟩ }

/-- The application writes rows that the schema accepts. -/
def Accepted (s : Versioned) : Action → Prop
  | .command _ => True
  | .write contents => Db.Valid (⟨s.db.schema, contents⟩ : SqlDb) ∧
      Db.Closed (⟨s.db.schema, contents⟩ : SqlDb)

/-- The rows are rows of the schema of the recorded revision. -/
def Sound (s : Versioned) : Prop := AtRevision s.revision s.db

/-- Only the enum type that the first downgrade forgets is there. -/
structure Stuck (s : Versioned) : Prop where
  revision : s.revision = none
  schema : s.db.schema = ⟨[], [CreateInitialSchema.subscriptionStatus]⟩
  valid : s.db.Valid

end Versioned

open Versioned

/-! ## Upgrades -/

/-- The listed revisions follow one another, from the recorded one on. -/
def Follows : Option Revision → List Revision → Prop
  | _, [] => True
  | revision, r :: rs => r.downRevision = revision ∧ Follows (some r) rs

instance : ∀ (revision : Option Revision) (rs : List Revision), Decidable (Follows revision rs)
  | _, [] => isTrue trivial
  | revision, r :: rs =>
    have := instDecidableFollows (some r) rs
    inferInstanceAs (Decidable (r.downRevision = revision ∧ Follows (some r) rs))

theorem Follows.take {revision : Option Revision} {rs : List Revision} (n : ℕ)
    (h : Follows revision rs) : Follows revision (rs.take n) := by
  induction rs generalizing revision n with
  | nil => rw [List.take_nil]; trivial
  | cons r rs ih =>
    cases n with
    | zero => trivial
    | succ n => exact ⟨h.1, ih n h.2⟩

theorem follows_later (revision : Option Revision) : Follows revision (later revision) := by
  cases revision with
  | none => decide
  | some r => cases r <;> decide

/-- Before the first revision there is nothing. -/
theorem eq_withoutRows {d : SqlDb} (h : AtRevision none d) : d = withoutRows none := by
  have hcontents : d.contents = fun _ => [] := by
    funext table
    exact h.closed table (by rw [h.schema]; exact List.not_mem_nil)
  cases d
  exact congrArg₂ Db.mk h.schema hcontents

theorem createInitialSchema_succeeds {d : SqlDb} (h : AtRevision none d) :
    ∃ d', run CreateInitialSchema.upgrade d = .ok d' := by
  have hok : (run CreateInitialSchema.upgrade (withoutRows none)).isOk = true := by decide
  rw [eq_withoutRows h]
  cases hrun : run CreateInitialSchema.upgrade (withoutRows none) with
  | ok d' => exact ⟨d', rfl⟩
  | error e => rw [hrun] at hok; cases hok

/-- Upgrades that follow one another succeed. -/
theorem upgradeThrough_sound {rs : List Revision} : ∀ {s : Versioned}, s.Sound →
    Follows s.revision rs → ∃ s', upgradeThrough rs s = some s' ∧ s'.Sound ∧
      s'.revision = rs.foldl (fun _ r => some r) s.revision := by
  induction rs with
  | nil => exact fun {s} h _ => ⟨s, rfl, h, rfl⟩
  | cons r rs ih =>
    intro s h hfollows
    obtain ⟨hdown, hfollows⟩ := hfollows
    have hat : AtRevision r.downRevision s.db := hdown ▸ h
    obtain ⟨d₁, hup⟩ : ∃ d₁, run r.upgrade s.db = .ok d₁ := by
      by_cases hr : r = .createInitialSchema
      · subst hr; exact createInitialSchema_succeeds hat
      · exact upgrade_succeeds hr hat
    obtain ⟨s', hs', hsound, hrevision⟩ :=
      ih (s := ⟨some r, d₁⟩) (atRevision_of_upgrade hat hup).1 hfollows
    refine ⟨s', ?_, hsound, hrevision⟩
    rw [← hs']
    simp only [upgradeThrough, List.flatMap_cons, run_append, hup, List.foldl_cons]

/-- The type that is left over exists already when the first revision creates it. -/
theorem Versioned.Stuck.upgrade_fails {s s' : Versioned} {rs : List Revision} (h : s.Stuck)
    (hs' : upgradeThrough (.createInitialSchema :: rs) s = some s') : False := by
  unfold upgradeThrough at hs'
  rw [List.flatMap_cons, run_append] at hs'
  cases hrun : run Revision.createInitialSchema.upgrade s.db with
  | error e => simp only [hrun] at hs'; cases hs'
  | ok d =>
    let create : Op := .createTable CreateInitialSchema.subscriptions
      [CreateInitialSchema.subscriptionStatus]
    have hsplit : run (CreateInitialSchema.upgrade.take 3 ++ create ::
      CreateInitialSchema.upgrade.drop 4) s.db = .ok d := hrun
    have hcheck := check_of_run hsplit
    rw [h.schema] at hcheck
    exact absurd hcheck (by decide)

/-! ## Downgrades -/

/-- The listed revisions precede one another, from the recorded one on. -/
def Precedes : Option Revision → List Revision → Prop
  | _, [] => True
  | revision, r :: rs => revision = some r ∧ Precedes r.downRevision rs

theorem Precedes.take {revision : Option Revision} {rs : List Revision} (n : ℕ)
    (h : Precedes revision rs) : Precedes revision (rs.take n) := by
  induction rs generalizing revision n with
  | nil => rw [List.take_nil]; trivial
  | cons r rs ih =>
    cases n with
    | zero => trivial
    | succ n => exact ⟨h.1, ih n h.2⟩

theorem earlier_some (r : Revision) : earlier (some r) = r :: earlier r.downRevision := by
  rw [earlier, earlier, Option.elim_some, Revision.history_eq, List.reverse_append,
    List.reverse_singleton, List.singleton_append]

theorem precedes_earlier (revision : Option Revision) : Precedes revision (earlier revision) := by
  cases revision with
  | none => trivial
  | some r => cases r <;> simp [earlier, Revision.history, Precedes, Revision.downRevision]

variable {r : Revision} {d : SqlDb}

/-- The downgrades that drop what their upgrade has created. -/
theorem downgrade_succeeds (hr : r ≠ .createInitialSchema) (hkey : r ≠ .addIdempotencyKey)
    (h : AtRevision (some r) d) :
    ∃ d', run r.downgrade d = .ok d' ∧ AtRevision r.downRevision d' := by
  have hchecked : Checked r.downgrade (schemaAt (some r)) ∧
      (∀ t ∈ (schemaAt (some r)).tables, ∀ st ∈ r.downgrade, st.AcceptsAll t.name) ∧
      schemaAfter r.downgrade (schemaAt (some r)) = schemaAt r.downRevision := by
    cases r with
    | createInitialSchema => exact absurd rfl hr
    | addIdempotencyKey => exact absurd rfl hkey
    | addInvoices | addBillingPeriod | addUsageTypes | addStripeFields =>
      exact ⟨by decide, by decide, by decide⟩
  have hrun := succeeds_of_accepts h hchecked.1 hchecked.2.1
  obtain ⟨-, -, hvalid, hclosed⟩ := run_eq_ok hrun
  exact ⟨_, hrun, hchecked.2.2, hvalid h.valid, hclosed h.closed⟩

theorem createInitialSchema_downgrade (h : AtRevision (some .createInitialSchema) d) :
    ∃ d', run CreateInitialSchema.downgrade d = .ok d' ∧
      d'.schema = ⟨[], [CreateInitialSchema.subscriptionStatus]⟩ ∧ d'.Valid := by
  have hchecked : Checked CreateInitialSchema.downgrade (schemaAt (some .createInitialSchema)) := by
    decide
  have hrun := succeeds_of_accepts h hchecked (by decide)
  obtain ⟨hschema, -, hvalid, -⟩ := run_eq_ok hrun
  rw [h.schema] at hschema
  exact ⟨_, hrun, hschema.trans (by decide), hvalid h.valid⟩

/-- What downgrades that precede one another leave. -/
theorem downgradeThrough_sound {rs : List Revision} : ∀ {s : Versioned}, s.Sound →
    Precedes s.revision rs → .addIdempotencyKey ∉ rs →
    ∃ s', downgradeThrough rs s = some s' ∧ (s'.Sound ∨ s'.Stuck) ∧
      s'.revision = rs.foldl (fun _ r => r.downRevision) s.revision := by
  induction rs with
  | nil => exact fun {s} h _ _ => ⟨s, rfl, .inl h, rfl⟩
  | cons r rs ih =>
    intro s h hprecedes hkey
    obtain ⟨hrevision, hprecedes⟩ := hprecedes
    rw [List.mem_cons, not_or] at hkey
    have hat : AtRevision (some r) s.db := hrevision ▸ h
    by_cases hr : r = .createInitialSchema
    · subst hr
      obtain ⟨d', hrun, hschema, hvalid⟩ := createInitialSchema_downgrade hat
      -- nothing precedes the first revision
      have hrs : rs = [] := by
        cases rs with
        | nil => rfl
        | cons r' rs => exact absurd hprecedes.1 (by simp [Revision.downRevision])
      subst hrs
      refine ⟨⟨none, d'⟩, ?_, .inr ⟨rfl, hschema, hvalid⟩, rfl⟩
      simp only [downgradeThrough, List.flatMap_singleton, Revision.downgrade, hrun]
      rfl
    · obtain ⟨d₁, hrun, hat₁⟩ := downgrade_succeeds hr (Ne.symm hkey.1) hat
      obtain ⟨s', hs', hsound, hrevision'⟩ := ih (s := ⟨r.downRevision, d₁⟩) hat₁ hprecedes hkey.2
      refine ⟨s', ?_, hsound, hrevision'⟩
      rw [← hs']
      simp only [downgradeThrough, List.flatMap_cons, run_append, hrun, List.foldl_cons]

/-- Its constraint is dropped under no name. -/
theorem downgradeThrough_of_key {rs : List Revision} : ∀ {s : Versioned},
    .addIdempotencyKey ∈ rs → downgradeThrough rs s = none := by
  induction rs with
  | nil => intro s h; cases h
  | cons r rs ih =>
    intro s h
    unfold downgradeThrough
    rw [List.flatMap_cons, run_append]
    by_cases hr : r = .addIdempotencyKey
    · subst hr; rfl
    · have hrest := (List.mem_cons.mp h).resolve_left (Ne.symm hr)
      cases hrun : run r.downgrade s.db with
      | error e => rfl
      | ok d =>
        have hnone := ih (s := ⟨s.revision, d⟩) hrest
        unfold downgradeThrough at hnone
        dsimp only at hnone ⊢
        cases hrun' : run (rs.flatMap Revision.downgrade) d with
        | error e => rfl
        | ok d' => rw [hrun'] at hnone; cases hnone

theorem downgradeThrough_isSome_iff {s : Versioned} {rs : List Revision} (h : s.Sound)
    (hprecedes : Precedes s.revision rs) :
    (downgradeThrough rs s).isSome ↔ .addIdempotencyKey ∉ rs := by
  constructor
  · intro hsome hkey
    rw [downgradeThrough_of_key hkey] at hsome
    cases hsome
  · intro hkey
    obtain ⟨s', hs', -⟩ := downgradeThrough_sound h hprecedes hkey
    rw [hs']
    rfl

/-- **Which downgrades succeed**: those that do not go below the idempotency keys. -/
theorem downgrade_isSome_iff {s : Versioned} (h : s.Sound) :
    (∀ n, ((Command.downgrade n).execute s).isSome ↔
      (1 ≤ n ∧ n ≤ (earlier s.revision).length) ∧
        .addIdempotencyKey ∉ (earlier s.revision).take n) ∧
    ((Command.downgradeBase.execute s).isSome ↔ .addIdempotencyKey ∉ earlier s.revision) := by
  have hprecedes := precedes_earlier s.revision
  refine ⟨fun n => ?_, downgradeThrough_isSome_iff h hprecedes⟩
  simp only [Command.execute]
  split_ifs with hn
  · rw [downgradeThrough_isSome_iff h (hprecedes.take n)]
    exact (and_iff_right hn).symm
  · simp [hn]

/-! ## Whole histories -/

namespace Versioned

variable {s s' : Versioned}

/-- The recorded revision has the idempotency keys. -/
def Keyed (s : Versioned) : Prop := .addIdempotencyKey ∈ earlier s.revision

/-- No command does anything any more. -/
theorem Stuck.execute (h : s.Stuck) {command : Command} (hs' : command.execute s = some s') :
    s' = s := by
  have hlater : later s.revision = .createInitialSchema :: (later s.revision).tail := by
    rw [h.revision]; rfl
  have hearlier : earlier s.revision = [] := by rw [h.revision]; rfl
  cases command with
  | upgrade n =>
    simp only [Command.execute] at hs'
    split_ifs at hs'
    rename_i hn
    obtain ⟨n, rfl⟩ := Nat.exists_eq_add_of_le' hn.1
    rw [hlater, List.take_succ_cons] at hs'
    exact (h.upgrade_fails hs').elim
  | upgradeHead =>
    rw [Command.execute, hlater] at hs'
    exact (h.upgrade_fails hs').elim
  | downgrade n =>
    simp only [Command.execute, hearlier] at hs'
    split_ifs at hs' with hn
    exact absurd (hn.1.trans hn.2) (by decide)
  | downgradeBase =>
    rw [Command.execute, hearlier] at hs'
    cases hs'
    rfl

theorem earlier_of_follows {rs : List Revision} : ∀ {revision : Option Revision},
    Follows revision rs →
    earlier (rs.foldl (fun _ r => some r) revision) = rs.reverse ++ earlier revision := by
  induction rs with
  | nil => intro revision _; rfl
  | cons r rs ih =>
    intro revision h
    rw [List.foldl_cons, ih h.2, earlier_some, h.1, List.reverse_cons, List.append_assoc,
      List.singleton_append]

theorem mem_earlier_of_precedes {r : Revision} {rs : List Revision} :
    ∀ {revision : Option Revision}, Precedes revision rs → r ∈ earlier revision → r ∉ rs →
    r ∈ earlier (rs.foldl (fun _ r => r.downRevision) revision) := by
  induction rs with
  | nil => exact fun _ h _ => h
  | cons r' rs ih =>
    intro revision h hr hrs
    rw [List.mem_cons, not_or] at hrs
    obtain ⟨rfl, hprecedes⟩ := h
    rw [earlier_some, List.mem_cons] at hr
    exact ih hprecedes (hr.resolve_left hrs.1) hrs.2

/-- **One command.** -/
theorem Sound.execute (h : s.Sound) {command : Command} (hs' : command.execute s = some s') :
    (s'.Sound ∨ s'.Stuck) ∧ (s.Keyed → s'.Keyed) := by
  have hup : ∀ {rs : List Revision}, Follows s.revision rs → upgradeThrough rs s = some s' →
      (s'.Sound ∨ s'.Stuck) ∧ (s.Keyed → s'.Keyed) := by
    intro rs hrs hs'
    obtain ⟨s₁, hs₁, hsound, hrevision⟩ := upgradeThrough_sound h hrs
    obtain rfl : s₁ = s' := Option.some.inj (hs₁.symm.trans hs')
    refine ⟨.inl hsound, fun hkey => ?_⟩
    rw [Keyed, hrevision, earlier_of_follows hrs]
    exact List.mem_append_right _ hkey
  have hdown : ∀ {rs : List Revision}, Precedes s.revision rs → downgradeThrough rs s = some s' →
      (s'.Sound ∨ s'.Stuck) ∧ (s.Keyed → s'.Keyed) := by
    intro rs hrs hs'
    have hkey : .addIdempotencyKey ∉ rs :=
      (downgradeThrough_isSome_iff h hrs).mp (by rw [hs']; rfl)
    obtain ⟨s₁, hs₁, hsound, hrevision⟩ := downgradeThrough_sound h hrs hkey
    obtain rfl : s₁ = s' := Option.some.inj (hs₁.symm.trans hs')
    refine ⟨hsound, fun hkeyed => ?_⟩
    rw [Keyed, hrevision]
    exact mem_earlier_of_precedes hrs hkeyed hkey
  cases command with
  | upgrade n =>
    simp only [Command.execute] at hs'
    split_ifs at hs'
    exact hup ((follows_later _).take n) hs'
  | upgradeHead => exact hup (follows_later _) hs'
  | downgrade n =>
    simp only [Command.execute] at hs'
    split_ifs at hs'
    exact hdown ((precedes_earlier _).take n) hs'
  | downgradeBase => exact hdown (precedes_earlier _) hs'

/-- What holds after any history of commands and writes. -/
def Outlook (s : Versioned) : Prop := s.Sound ∨ s.Stuck

theorem outlook_next {a : Action} (h : s.Outlook) (hok : Accepted s a)
    (hnext : next s a = some s') :
    s'.Outlook ∧ (s.Sound → s.Keyed → s'.Keyed) := by
  cases a with
  | write contents =>
    obtain ⟨hvalid, hclosed⟩ := hok
    cases hnext
    refine ⟨h.imp (fun hs => ?_) fun hs => ?_, fun _ hkey => hkey⟩
    · exact ⟨hs.schema, hvalid, hclosed⟩
    · exact ⟨hs.revision, hs.schema, hvalid⟩
  | command command =>
    cases hnext
    cases hexecute : command.execute s with
    | none => exact ⟨h, fun _ hkey => hkey⟩
    | some s₁ =>
      rcases h with hs | hs
      · obtain ⟨houtlook, hkey⟩ := hs.execute hexecute
        exact ⟨houtlook, fun _ => hkey⟩
      · rw [hs.execute hexecute]
        exact ⟨.inr hs, fun _ hkey => hkey⟩

/-- Without a revision nothing is keyed. -/
theorem Stuck.not_keyed (h : s.Stuck) : ¬ s.Keyed := by
  rw [Keyed, h.revision]
  exact List.not_mem_nil

/-- **Whole histories** of commands and writes. -/
theorem run_outlook (h : s.Sound) (hrun : Run next Accepted s s') :
    ((s'.Sound ∧ ∃ s₁, Command.upgradeHead.execute s' = some s₁ ∧ s₁.Sound ∧
        s₁.revision = some .addStripeFields) ∨
      (s'.Stuck ∧
        ∀ (command : Command) (s₁ : Versioned), command.execute s' = some s₁ → s₁ = s')) ∧
    (s.Keyed → s'.Sound ∧ s'.Keyed) := by
  have hinv : s'.Outlook ∧ (s.Keyed → s'.Sound ∧ s'.Keyed) := by
    refine hrun.invariant (P := fun t => t.Outlook ∧ (s.Keyed → t.Sound ∧ t.Keyed)) ?_
      ⟨.inl h, fun hkey => ⟨h, hkey⟩⟩
    intro t a t' ht hok hnext
    obtain ⟨houtlook, hkey⟩ := outlook_next ht.1 hok hnext
    refine ⟨houtlook, fun hkeyed => ?_⟩
    obtain ⟨hsound, hkeyed'⟩ := ht.2 hkeyed
    have hnew := hkey hsound hkeyed'
    exact ⟨houtlook.resolve_right fun hstuck => hstuck.not_keyed hnew, hnew⟩
  refine ⟨hinv.1.imp (fun hsound => ⟨hsound, ?_⟩) fun hstuck => ⟨hstuck, fun _ _ => hstuck.execute⟩,
    hinv.2⟩
  obtain ⟨s₁, hs₁, hsound₁, hrevision⟩ := upgradeThrough_sound hsound (follows_later s'.revision)
  refine ⟨s₁, hs₁, hsound₁, hrevision.trans ?_⟩
  cases s'.revision with
  | none => rfl
  | some r => cases r <;> rfl

end Versioned

/-! ## There and back again -/

/-- A path of upgrades is taken back by the downgrades, when each of its steps is. -/
theorem undone_of_reversible {rs : List Revision} : ∀ {s : Versioned}, s.Sound →
    Follows s.revision rs → .createInitialSchema ∉ rs → .addIdempotencyKey ∉ rs →
    ∃ s', upgradeThrough rs s = some s' ∧ downgradeThrough rs.reverse s' = some s := by
  induction rs with
  | nil => exact fun {s} _ _ _ _ => ⟨s, rfl, rfl⟩
  | cons r rs ih =>
    intro s h hfollows hfirst hkey
    rw [List.mem_cons, not_or] at hfirst hkey
    obtain ⟨hdown, hfollows⟩ := hfollows
    have hat : AtRevision r.downRevision s.db := hdown ▸ h
    obtain ⟨d₁, hup, hback⟩ := reversible_of_ne hat (Ne.symm hfirst.1) (Ne.symm hkey.1)
    obtain ⟨s', hs', hs⟩ := ih (s := ⟨some r, d₁⟩) (atRevision_of_upgrade hat hup).1 hfollows
      hfirst.2 hkey.2
    refine ⟨s', ?_, ?_⟩
    · rw [← hs']
      simp only [upgradeThrough, List.flatMap_cons, run_append, hup, List.foldl_cons]
    · unfold downgradeThrough at hs ⊢
      rw [List.reverse_cons, List.flatMap_append, run_append, List.flatMap_singleton]
      split at hs
      · rename_i d hd
        obtain ⟨hrevision, rfl⟩ := Versioned.mk.inj (Option.some.inj hs)
        simp only [hd, hback, List.foldl_append, hrevision, List.foldl_cons, List.foldl_nil, hdown]
      · cases hs

/-- **Which upgrades are taken back** by a downgrade by as many revisions: those that
    pass through neither of the first two revisions. -/
theorem upgrade_undone_iff {s : Versioned} (h : s.Sound) {n : ℕ}
    (hn : 1 ≤ n ∧ n ≤ (later s.revision).length) :
    (∃ s', (Command.upgrade n).execute s = some s' ∧ (Command.downgrade n).execute s' = some s) ↔
      .createInitialSchema ∉ (later s.revision).take n ∧
        .addIdempotencyKey ∉ (later s.revision).take n := by
  have hfollows := (follows_later s.revision).take n
  obtain ⟨s', hs', hsound, hrevision⟩ := upgradeThrough_sound h hfollows
  have hup : (Command.upgrade n).execute s = some s' := by
    simp only [Command.execute, if_pos hn, hs']
  have hlength : ((later s.revision).take n).reverse.length = n := by simp [hn.2]
  have hearlier : earlier s'.revision = ((later s.revision).take n).reverse ++
      earlier s.revision := by rw [hrevision, Versioned.earlier_of_follows hfollows]
  have hdown : (Command.downgrade n).execute s' =
      downgradeThrough ((later s.revision).take n).reverse s' := by
    have hle : 1 ≤ n ∧ n ≤ (earlier s'.revision).length := by
      rw [hearlier, List.length_append, hlength]
      exact ⟨hn.1, Nat.le_add_right _ _⟩
    have htake : (earlier s'.revision).take n = ((later s.revision).take n).reverse := by
      rw [hearlier, List.take_append_of_le_length hlength.ge, List.take_of_length_le hlength.le]
    simp only [Command.execute, if_pos hle, htake]
  rw [hup]
  simp only [Option.some.injEq, exists_eq_left', hdown]
  constructor
  · intro hback
    have hkey : .addIdempotencyKey ∉ (later s.revision).take n := by
      intro hmem
      rw [downgradeThrough_of_key (List.mem_reverse.mpr hmem)] at hback
      cases hback
    refine ⟨fun hfirst => ?_, hkey⟩
    -- the path is the first revision alone, and its type stays
    have hnone : s.revision = none := by
      cases hrev : s.revision with
      | none => rfl
      | some r =>
        rw [hrev] at hfirst
        have hmem := List.mem_of_mem_take hfirst
        cases r <;> revert hmem <;> decide
    have hpath : (later s.revision).take n = [.createInitialSchema] := by
      rw [hnone] at hfirst hkey ⊢
      match n with
      | 0 => exact absurd hfirst (by simp)
      | 1 => rfl
      | n + 2 => exact absurd hkey (by simp [later, Revision.history])
    rw [hpath, hnone, List.foldl_cons, List.foldl_nil] at hrevision
    rw [hpath, List.reverse_singleton, downgradeThrough, List.flatMap_singleton] at hback
    have hat : AtRevision (some .createInitialSchema) s'.db := hrevision ▸ hsound
    obtain ⟨d, hrun, hschema, -⟩ := createInitialSchema_downgrade hat
    rw [Revision.downgrade, hrun] at hback
    obtain ⟨-, rfl⟩ := Versioned.mk.inj (Option.some.inj hback)
    have hempty := h.schema
    rw [hnone] at hempty
    exact absurd (hempty.symm.trans hschema) (by decide)
  · rintro ⟨hfirst, hkey⟩
    obtain ⟨s₁, hs₁, hback⟩ := undone_of_reversible h hfollows hfirst hkey
    obtain rfl : s₁ = s' := Option.some.inj (hs₁.symm.trans hs')
    exact hback

/-! ### Databases without rows -/

/-- A database at a revision, before any write. -/
def Versioned.fresh (revision : Option Revision) : Versioned := ⟨revision, withoutRows revision⟩

theorem Versioned.sound_none : (fresh none).Sound := ⟨rfl, by decide, fun _ _ => rfl⟩

theorem Versioned.sound_addInvoices : (fresh (some .addInvoices)).Sound :=
  ⟨rfl, by decide, fun _ _ => rfl⟩

/-- The first revision, and back: from then on nothing works. -/
theorem Versioned.run_outlook_undone : ∃ s : Versioned, Run next Accepted (fresh none) s ∧
    s.Stuck ∧ ∀ (command : Command) (s₁ : Versioned), command.execute s = some s₁ → s₁ = s := by
  have hfirst : Follows none [.createInitialSchema] := by decide
  obtain ⟨s₁, hs₁, hsound, hrevision⟩ := upgradeThrough_sound sound_none hfirst
  have hat : AtRevision (some .createInitialSchema) s₁.db := by
    have hsound' : AtRevision s₁.revision s₁.db := hsound
    rwa [hrevision] at hsound'
  obtain ⟨d, hrun, hschema, hvalid⟩ := createInitialSchema_downgrade hat
  have hup : next (fresh none) (.command (.upgrade 1)) = some s₁ := by
    change some ((upgradeThrough [.createInitialSchema] (fresh none)).getD (fresh none)) = some s₁
    rw [hs₁]
    rfl
  have hdown : next s₁ (.command (.downgrade 1)) = some ⟨none, d⟩ := by
    have hearlier : earlier s₁.revision = [.createInitialSchema] := by rw [hrevision]; rfl
    simp only [next, Command.execute, hearlier, downgradeThrough, List.take, List.flatMap_singleton,
      Revision.downgrade, hrun]
    rfl
  have haccepted : ∀ (s : Versioned) (command : Command), Accepted s (.command command) :=
    fun _ _ => trivial
  have hruns : Run next Accepted (fresh none) ⟨none, d⟩ :=
    (Run.single (haccepted _ _) hup).trans (Run.single (haccepted _ _) hdown)
  refine ⟨_, hruns, (run_outlook sound_none hruns).1.resolve_left ?_⟩
  rintro ⟨hsound, -⟩
  have hempty : schemaAt none ≠ ⟨[], [CreateInitialSchema.subscriptionStatus]⟩ := by decide
  exact hempty (hsound.schema.symm.trans hschema)

theorem downgrade_isSome_iff_addInvoices :
    ((Command.downgrade 1).execute (.fresh (some .addInvoices))).isSome ∧
      ¬ ((Command.downgrade 2).execute (.fresh (some .addInvoices))).isSome ∧
      ¬ (Command.downgradeBase.execute (.fresh (some .addInvoices))).isSome := by
  obtain ⟨hdowngrade, hbase⟩ := downgrade_isSome_iff Versioned.sound_addInvoices
  rw [hdowngrade, hdowngrade, hbase]
  decide

theorem upgrade_undone_iff_addInvoices : ∃ s',
    (Command.upgrade 3).execute (.fresh (some .addInvoices)) = some s' ∧
      (Command.downgrade 3).execute s' = some (.fresh (some .addInvoices)) :=
  (upgrade_undone_iff Versioned.sound_addInvoices (by decide)).mpr (by decide)

end Migrations

end BillingEngine
