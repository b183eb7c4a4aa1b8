import BillingEngine.Common.Statements

/-!
# Scripts of statements

A script is run statement by statement and stops at the first error. The schema after a
script does not depend on the rows, and a row after a script depends on that row only.

Results:
* `run_eq_ok`, `contents_of_run`: what a script that succeeds has made of the schema and
  the rows.
* `run_of_checked`: when a script succeeds on a valid database.
* `execute_createConstraint`: when a new constraint is accepted.
* `eq_of_spares`: a script that comes back to the schema, and writes to no column of
  it, comes back to the database.
-/

namespace Relational

variable {β ν : Type}

/-! ## Running a script -/

/-- The schema after a script. -/
def schemaAfter (script : List (Statement β ν)) (s : Schema β) : Schema β :=
  script.foldl (fun s st => st.onSchema s) s

/-- The rows after a script. -/
def contentsAfter (script : List (Statement β ν)) (contents : Contents ν) : Contents ν :=
  script.foldl (fun contents st => st.onContents contents) contents

/-- One row of the table after a script. -/
def rowAfter (table : String) (script : List (Statement β ν)) (r : Row ν) : Row ν :=
  script.foldl (fun r st => st.onRow table r) r

/-- Only tables have rows. -/
def Db.Closed (d : Db β ν) : Prop :=
  ∀ table, table ∉ d.schema.tables.map Table.name → d.contents table = []

section After

variable {script : List (Statement β ν)} {table name : String}

theorem contentsAfter_eq_map (h : ∀ st ∈ script, st.dropped ≠ some table ∧
      table ∉ st.created.map Table.name) (contents : Contents ν) :
    contentsAfter script contents table = (contents table).map (rowAfter table script) := by
  induction script generalizing contents with
  | nil => exact (List.map_id _).symm
  | cons st rest ih =>
    obtain ⟨⟨hdropped, hcreated⟩, hrest⟩ := List.forall_mem_cons.mp h
    rw [contentsAfter, List.foldl_cons, ← contentsAfter, ih hrest, Statement.onContents,
      if_neg (not_or.mpr ⟨hdropped, hcreated⟩), List.map_map]
    rfl

/-- An empty table stays empty. -/
theorem contentsAfter_of_nil {contents : Contents ν} (h : contents table = []) :
    contentsAfter script contents table = [] := by
  induction script generalizing contents with
  | nil => exact h
  | cons st rest ih =>
    refine ih ?_
    simp [Statement.onContents, h]

/-- The columns that a script does not touch. -/
theorem value_rowAfter (h : ∀ st ∈ script, ¬ st.Touches table name) (r : Row ν) :
    (rowAfter table script r).value name = r.value name := by
  induction script generalizing r with
  | nil => rfl
  | cons st rest ih =>
    obtain ⟨hfirst, hrest⟩ := List.forall_mem_cons.mp h
    exact (ih hrest _).trans (value_onRow hfirst r)

theorem columnValues_contentsAfter (h : ∀ st ∈ script, ¬ st.Touches table name)
    (contents : Contents ν) : columnValues (contentsAfter script contents) table name =
      columnValues contents table name := by
  induction script generalizing contents with
  | nil => rfl
  | cons st rest ih =>
    obtain ⟨hfirst, hrest⟩ := List.forall_mem_cons.mp h
    exact (ih hrest _).trans (columnValues_onContents hfirst contents)

theorem Db.Closed.onSchema {st : Statement β ν} {d : Db β ν} (h : d.Closed) :
    (⟨st.onSchema d.schema, st.onContents d.contents⟩ : Db β ν).Closed := by
  intro table hnew
  by_cases hempty : st.dropped = some table ∨ table ∈ st.created.map Table.name
  · exact if_pos hempty
  · have hold : table ∉ d.schema.tables.map Table.name := by
      rintro hmem
      obtain ⟨t, ht, rfl⟩ := List.mem_map.mp hmem
      have hkept : st.onTable t ∈ (st.onSchema d.schema).tables :=
        mem_tables_onSchema.mpr (.inl ⟨t, ht, (not_or.mp hempty).1, rfl⟩)
      exact hnew (List.mem_map.mpr ⟨_, hkept, rfl⟩)
    change st.onContents d.contents table = []
    rw [Statement.onContents, if_neg hempty, h table hold]
    rfl

end After

section Run

variable [Scalars β ν] [DecidableEq ν]

def run : List (Statement β ν) → Db β ν → Except Error (Db β ν)
  | [], d => .ok d
  | st :: rest, d =>
    match st.execute d with
    | .ok d' => run rest d'
    | .error e => .error e

variable {st : Statement β ν} {script script' : List (Statement β ν)} {d d' : Db β ν}

theorem execute_eq_ok_iff : st.execute d = .ok d' ↔ st.check d.schema = .ok () ∧
    d' = ⟨st.onSchema d.schema, st.onContents d.contents⟩ ∧ d'.Valid := by
  unfold Statement.execute
  constructor
  · intro h
    split at h
    · cases h
    · rename_i hcheck
      dsimp only at h
      split_ifs at h with hvalid
      cases h
      exact ⟨hcheck, rfl, hvalid⟩
  · rintro ⟨hcheck, rfl, hvalid⟩
    rw [hcheck]
    exact if_pos hvalid

theorem run_append : run (script ++ script') d =
    match run script d with
    | .ok d' => run script' d'
    | .error e => .error e := by
  induction script generalizing d with
  | nil => rfl
  | cons st rest ih =>
    rw [List.cons_append, run, run]
    cases st.execute d with
    | ok d' => exact ih
    | error e => rfl

/-- **What a script has done** when it succeeds. -/
theorem run_eq_ok (h : run script d = .ok d') :
    d'.schema = schemaAfter script d.schema ∧ d'.contents = contentsAfter script d.contents ∧
      (d.Valid → d'.Valid) ∧ (d.Closed → d'.Closed) := by
  induction script generalizing d with
  | nil => cases h; exact ⟨rfl, rfl, id, id⟩
  | cons st rest ih =>
    rw [run] at h
    split at h
    · rename_i d₁ hfirst
      obtain ⟨-, rfl, hvalid⟩ := execute_eq_ok_iff.mp hfirst
      obtain ⟨hschema, hcontents, hvalid', hclosed⟩ := ih h
      exact ⟨hschema, hcontents, fun _ => hvalid' hvalid, fun h => hclosed h.onSchema⟩
    · cases h

/-- Every statement of a script that succeeds has found its names. -/
theorem check_of_run {before after : List (Statement β ν)}
    (h : run (before ++ st :: after) d = .ok d') :
    st.check (schemaAfter before d.schema) = .ok () := by
  rw [run_append] at h
  split at h
  · rename_i d₁ hbefore
    rw [run] at h
    split at h
    · rename_i d₂ hst
      rw [← (run_eq_ok hbefore).1]
      exact (execute_eq_ok_iff.mp hst).1
    · cases h
  · cases h

/-- The rows of a table that the script neither drops nor creates. -/
theorem contents_of_run (h : run script d = .ok d') {table : String}
    (htable : ∀ st ∈ script, st.dropped ≠ some table ∧ table ∉ st.created.map Table.name) :
    d'.contents table = (d.contents table).map (rowAfter table script) := by
  rw [(run_eq_ok h).2.1, contentsAfter_eq_map htable]

/-! ## Success -/

/-- Every statement finds its names, leaves the schema consistent and no key written. -/
def Checked : List (Statement β ν) → Schema β → Prop
  | [], _ => True
  | st :: rest, s => st.check s = .ok () ∧ (st.onSchema s).Consistent ∧ st.LeavesKeys s ∧
    Checked rest (st.onSchema s)

instance decidableChecked : ∀ (script : List (Statement β ν)) (s : Schema β),
    Decidable (Checked script s)
  | [], _ => inferInstanceAs (Decidable True)
  | st :: rest, s =>
    have := decidableChecked rest (st.onSchema s)
    inferInstanceAs (Decidable (_ ∧ _ ∧ _ ∧ _))

/-- Every statement accepts the row. -/
def AcceptsRows (table : String) :
    List (Statement β ν) → List EnumType → List (Column β) → Row ν → Prop
  | [], _, _, _ => True
  | st :: rest, types, columns, r => st.AcceptsRow types table columns r ∧
    AcceptsRows table rest (st.onTypes types) (st.onColumns table columns) (st.onRow table r)

/-- The statement accepts every row of the table. -/
def Statement.AcceptsAll (table : String) : Statement β ν → Prop
  | addColumn t column => t = table → column.nullable = true
  | setNotNull t _ | update t _ _ => t ≠ table
  | _ => True

instance (table : String) : ∀ st : Statement β ν, Decidable (st.AcceptsAll table)
  | .addColumn t column => inferInstanceAs (Decidable (t = table → column.nullable = true))
  | .setNotNull t _ | .update t _ _ => inferInstanceAs (Decidable (t ≠ table))
  | .createTable _ _ | .dropTable _ | .dropColumn _ _ | .createConstraint _ _
  | .dropConstraint _ _ | .dropIndex _ _ | .createType _ | .dropType _ =>
    inferInstanceAs (Decidable True)

omit [DecidableEq ν] in
theorem acceptsRows_of_all {table : String} (h : ∀ st ∈ script, st.AcceptsAll table)
    (types : List EnumType) (columns : List (Column β)) (r : Row ν) :
    AcceptsRows table script types columns r := by
  induction script generalizing types columns r with
  | nil => trivial
  | cons st rest ih =>
    obtain ⟨hfirst, hrest⟩ := List.forall_mem_cons.mp h
    refine ⟨?_, ih hrest _ _ _⟩
    cases st with
    | addColumn t column => exact hfirst
    | setNotNull t _ | update t _ _ => exact fun htable => absurd htable hfirst
    | _ => trivial

/-- **A script succeeds** when every statement finds its names and accepts the rows. -/
theorem run_of_checked (hvalid : d.Valid) (hchecked : Checked script d.schema)
    (haccepts : ∀ t ∈ d.schema.tables, ∀ r ∈ d.contents t.name,
      AcceptsRows t.name script d.schema.types t.columns r) :
    run script d = .ok ⟨schemaAfter script d.schema, contentsAfter script d.contents⟩ := by
  induction script generalizing d with
  | nil => rfl
  | cons st rest ih =>
    obtain ⟨hcheck, hconsistent, hkeys, hrest⟩ := hchecked
    have hvalid' := valid_onSchema hvalid hconsistent hkeys fun t ht r hr =>
      (haccepts t ht r hr).1
    rw [run, execute_eq_ok_iff.mpr ⟨hcheck, rfl, hvalid'⟩]
    refine ih hvalid' hrest fun t' ht' r' hr' => ?_
    change r' ∈ st.onContents d.contents t'.name at hr'
    rcases mem_tables_onSchema.mp ht' with ⟨t, ht, hdropped, rfl⟩ | hcreated
    · change r' ∈ st.onContents d.contents t.name at hr'
      rw [onContents_of_mem hconsistent ht hdropped] at hr'
      obtain ⟨r, hr, rfl⟩ := List.mem_map.mp hr'
      exact (haccepts t ht r hr).2
    · rw [Statement.onContents, if_pos (.inr (List.mem_map_of_mem hcreated))] at hr'
      exact absurd hr' (by simp)

/-- **A new constraint is accepted** when it holds. -/
theorem execute_createConstraint {table : String} {constraint : Constraint} (hvalid : d.Valid)
    (hst : st = .createConstraint table constraint) (hcheck : st.check d.schema = .ok ())
    (hconsistent : (st.onSchema d.schema).Consistent) (hholds : constraint.Holds d.contents table) :
    st.execute d = .ok ⟨st.onSchema d.schema, d.contents⟩ := by
  subst hst
  have hcontents : (Statement.createConstraint (β := β) table constraint).onContents d.contents =
      d.contents := by
    funext t
    simp [Statement.onContents, Statement.dropped, Statement.created, Statement.onRow]
  refine execute_eq_ok_iff.mpr ⟨hcheck, by rw [hcontents], hconsistent, fun t' ht' r hr => ?_,
    fun t' ht' c hc => ?_⟩
  · rcases mem_tables_onSchema.mp ht' with ⟨t, ht, -, rfl⟩ | hcreated
    · exact hvalid.rows t ht r hr
    · exact absurd hcreated (by simp [Statement.created])
  · rcases mem_tables_onSchema.mp ht' with ⟨t, ht, -, rfl⟩ | hcreated
    · simp only [Statement.onTable, Statement.onConstraints] at hc ⊢
      split_ifs at hc with htable
      · rcases List.mem_append.mp hc with hc | hc
        · exact hvalid.constraints t ht c hc
        · rw [List.mem_singleton.mp hc, ← htable]
          exact hholds
      · exact hvalid.constraints t ht c hc
    · exact absurd hcreated (by simp [Statement.created])

end Run

/-! ## Reversal -/

/-- Only the cells under these names. -/
def Row.keep (names : List String) (r : Row ν) : Row ν := r.filter fun cell => cell.1 ∈ names

/-- The statement writes to no column of the schema, and drops no table of it. -/
def Statement.Spares (s : Schema β) : Statement β ν → Prop
  | createTable t _ => t.name ∉ s.tables.map Table.name
  | dropTable t => t ∉ s.tables.map Table.name
  | addColumn t column => ¬ s.HasColumn t column.name
  | dropColumn t name => ¬ s.HasColumn t name
  | update t sets _ => ∀ name ∈ sets.map Prod.fst, ¬ s.HasColumn t name
  | _ => True

instance (s : Schema β) : ∀ st : Statement β ν, Decidable (st.Spares s)
  | .createTable t _ => inferInstanceAs (Decidable (t.name ∉ s.tables.map Table.name))
  | .dropTable t => inferInstanceAs (Decidable (t ∉ s.tables.map Table.name))
  | .addColumn t column => inferInstanceAs (Decidable (¬ s.HasColumn t column.name))
  | .dropColumn t name => inferInstanceAs (Decidable (¬ s.HasColumn t name))
  | .update t sets _ =>
    inferInstanceAs (Decidable (∀ name ∈ sets.map Prod.fst, ¬ s.HasColumn t name))
  | .setNotNull _ _ | .createConstraint _ _ | .dropConstraint _ _ | .dropIndex _ _
  | .createType _ | .dropType _ => inferInstanceAs (Decidable True)

section Reversal

variable {s : Schema β} {st : Statement β ν} {t : Table β}

/-- The cells of the columns of the table stay. -/
theorem keep_onRow (ht : t ∈ s.tables) (hspares : st.Spares s) (r : Row ν) :
    (st.onRow t.name r).keep (t.columns.map Column.name) =
      r.keep (t.columns.map Column.name) := by
  have hcolumn : ∀ {table name}, ¬ s.HasColumn table name → table = t.name →
      name ∉ t.columns.map Column.name := fun h htable hname => h ⟨t, ht, htable.symm, hname⟩
  cases st with
  | addColumn table c =>
    simp only [Statement.onRow]
    split_ifs with htable
    · simpa [Row.keep, Row.addCell] using hcolumn hspares htable
    · rfl
  | dropColumn table name =>
    simp only [Statement.onRow]
    split_ifs with htable
    · rw [Row.keep, Row.dropCell, List.filter_filter]
      refine List.filter_congr fun cell _ => ?_
      have hne : cell.1 ∈ t.columns.map Column.name → cell.1 ≠ name := fun hmem heq =>
        hcolumn hspares htable (heq ▸ hmem)
      simpa using hne
    · rfl
  | update table sets condition =>
    simp only [Statement.onRow]
    split_ifs with htable
    · have hkeep : ∀ cell ∈ r.keep (t.columns.map Column.name),
          (cell.1, ((sets.lookup cell.1).map fun value => value r).getD cell.2) = id cell := by
        intro cell hcell
        have hname : cell.1 ∈ t.columns.map Column.name := by
          simpa using (List.mem_filter.mp hcell).2
        have hfree : cell.1 ∉ sets.map Prod.fst := fun hset =>
          hcolumn (hspares _ hset) htable.1 hname
        rw [Row.lookup_eq_none_of_not_mem hfree]
        rfl
      rw [Row.keep, Row.assign, List.filter_map]
      exact (List.map_congr_left hkeep).trans (List.map_id _)
    · rfl
  | _ => rfl

theorem keep_onContents (ht : t ∈ s.tables) (hspares : st.Spares s)
    (contents : Contents ν) :
    (st.onContents contents t.name).map (Row.keep (t.columns.map Column.name)) =
      (contents t.name).map (Row.keep (t.columns.map Column.name)) := by
  have hrows : ¬ (st.dropped = some t.name ∨ t.name ∈ st.created.map Table.name) := by
    have hmem : t.name ∈ s.tables.map Table.name := List.mem_map.mpr ⟨t, ht, rfl⟩
    cases st with
    | createTable new types =>
      rintro (hdropped | hcreated)
      · cases hdropped
      · exact hspares (List.mem_singleton.mp hcreated ▸ hmem)
    | dropTable table =>
      rintro (hdropped | hcreated)
      · exact hspares (Option.some.inj hdropped ▸ hmem)
      · cases hcreated
    | _ => simp [Statement.dropped, Statement.created]
  rw [Statement.onContents, if_neg hrows, List.map_map]
  exact List.map_congr_left fun r _ => keep_onRow ht hspares r

/-- The rows of the tables of the schema, without the cells of other columns. -/
theorem keep_contentsAfter {script : List (Statement β ν)} (ht : t ∈ s.tables)
    (hspares : ∀ st ∈ script, st.Spares s) (contents : Contents ν) :
    (contentsAfter script contents t.name).map (Row.keep (t.columns.map Column.name)) =
      (contents t.name).map (Row.keep (t.columns.map Column.name)) := by
  induction script generalizing contents with
  | nil => rfl
  | cons st rest ih =>
    obtain ⟨hfirst, hrest⟩ := List.forall_mem_cons.mp hspares
    rw [contentsAfter, List.foldl_cons, ← contentsAfter, ih hrest, keep_onContents ht hfirst]

variable [Scalars β ν] [DecidableEq ν]

omit [DecidableEq ν] in
theorem keep_eq_self {types : List EnumType} {columns : List (Column β)} {r : Row ν}
    (h : RowOk types columns r) : r.keep (columns.map Column.name) = r := by
  have hnames : r.map Prod.fst = columns.map Column.name := by
    induction h with
    | nil => rfl
    | cons hcell _ ih => rw [List.map_cons, List.map_cons, hcell.1, ih]
  refine List.filter_eq_self.mpr fun cell hcell => ?_
  rw [← hnames]
  simpa using ⟨_, hcell⟩

/-- **A script that comes back to the schema** and writes to none of its columns comes
    back to the database. -/
theorem eq_of_spares {script : List (Statement β ν)} {d d' : Db β ν} (hvalid : d.Valid)
    (hclosed : d.Closed) (hspares : ∀ st ∈ script, st.Spares d.schema)
    (hschema : schemaAfter script d.schema = d.schema) (h : run script d = .ok d') : d' = d := by
  obtain ⟨hschema', hcontents, hvalid', -⟩ := run_eq_ok h
  rw [hschema] at hschema'
  have hrows : d'.contents = d.contents := by
    funext table
    by_cases hmem : table ∈ d.schema.tables.map Table.name
    · obtain ⟨t, ht, rfl⟩ := List.mem_map.mp hmem
      have hkept := keep_contentsAfter ht hspares d.contents
      have hself : ∀ rows : List (Row ν), (∀ r ∈ rows, RowOk d.schema.types t.columns r) →
          rows.map (Row.keep (t.columns.map Column.name)) = rows := fun rows hrows =>
        (List.map_congr_left fun r hr => keep_eq_self (hrows r hr)).trans (List.map_id _)
      rw [← hcontents, hself _ (hvalid.rows t ht)] at hkept
      rw [← hkept, hself]
      rw [← hschema'] at ht ⊢
      exact (hvalid' hvalid).rows t ht
    · rw [hcontents, hclosed table hmem, contentsAfter_of_nil (hclosed table hmem)]
  cases d
  cases d'
  cases hschema'
  cases hrows
  rfl

end Reversal

end Relational
