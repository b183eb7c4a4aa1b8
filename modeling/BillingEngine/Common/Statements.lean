import BillingEngine.Common.Relational

/-!
# What statements do to valid databases

Results:
* `columnValues_onContents`: the columns that a statement does not touch.
* `mem_tables_onSchema`: where the tables after a statement come from.
* `rowOk_onRow`: a row that a statement accepts fits its table afterwards.
* `valid_onSchema`: so the database stays valid, if no key is written.
-/

namespace Relational

variable {β ν : Type}

/-! ## What a statement leaves alone -/

namespace Row

variable (r : Row ν) {name name' : String}

theorem value_addCell (name name' : String) : (r.addCell name).value name' = r.value name' := by
  rw [value, addCell, List.lookup_append, value]
  cases r.lookup name' with
  | some v => rfl
  | none =>
    rw [Option.none_or, List.lookup_cons]
    split <;> rfl

theorem value_dropCell (h : name' ≠ name) : (r.dropCell name).value name' = r.value name' := by
  induction r with
  | nil => rfl
  | cons cell r ih =>
    rw [value, dropCell] at ih ⊢
    by_cases hcell : cell.1 = name
    · have hne : (name' == cell.1) = false := beq_false_of_ne (hcell ▸ h)
      rw [List.filter_cons_of_neg (by simpa using hcell), ih, value, value, List.lookup_cons, hne]
    · rw [List.filter_cons_of_pos (by simpa using hcell), List.lookup_cons, value, List.lookup_cons]
      split
      · rfl
      · exact ih

theorem lookup_eq_none_of_not_mem {sets : Assignments ν} (h : name ∉ sets.map Prod.fst) :
    sets.lookup name = none := by
  rw [List.lookup_eq_none_iff]
  intro set hset
  have hne : set.1 ≠ name := fun heq => h (List.mem_map.mpr ⟨set, hset, heq⟩)
  simpa using hne.symm

/-- Changing the cells under other names does not matter. -/
theorem lookup_map_cell {f : String → Option (Value ν) → Option (Value ν)}
    (h : ∀ v, f name v = v) :
    (r.map fun cell => (cell.1, f cell.1 cell.2)).lookup name = r.lookup name := by
  induction r with
  | nil => rfl
  | cons cell r ih =>
    rw [List.map_cons, List.lookup_cons, List.lookup_cons, ih]
    split
    · rename_i heq
      rw [← eq_of_beq heq, h]
    · rfl

theorem value_assign {sets : Assignments ν} (h : name ∉ sets.map Prod.fst) :
    (r.assign sets).value name = r.value name := by
  have hnone := lookup_eq_none_of_not_mem h
  let set (key : String) (v : Option (Value ν)) :=
    ((sets.lookup key).map fun value => value r).getD v
  have hset : ∀ v, set name v = v := fun v => by simp only [set, hnone]; rfl
  exact congrArg Option.join (lookup_map_cell r hset)

end Row

/-- The values of the column may change. -/
def Statement.Touches (table name : String) : Statement β ν → Prop
  | createTable t _ => t.name = table
  | dropTable t => t = table
  | dropColumn t column => t = table ∧ column = name
  | update t sets _ => t = table ∧ name ∈ sets.map Prod.fst
  | _ => False

instance (table name : String) : ∀ st : Statement β ν, Decidable (st.Touches table name)
  | .createTable t _ => inferInstanceAs (Decidable (t.name = table))
  | .dropTable t => inferInstanceAs (Decidable (t = table))
  | .dropColumn t column => inferInstanceAs (Decidable (t = table ∧ column = name))
  | .update t sets _ => inferInstanceAs (Decidable (t = table ∧ name ∈ sets.map Prod.fst))
  | .addColumn _ _ | .setNotNull _ _ | .createConstraint _ _ | .dropConstraint _ _
  | .dropIndex _ _ | .createType _ | .dropType _ => inferInstanceAs (Decidable False)

section Touches

variable {st : Statement β ν} {table name : String}

theorem value_onRow (h : ¬ st.Touches table name) (r : Row ν) :
    (st.onRow table r).value name = r.value name := by
  cases st with
  | addColumn t column =>
    simp only [Statement.onRow]
    split_ifs
    · exact r.value_addCell _ _
    · rfl
  | dropColumn t column =>
    simp only [Statement.onRow]
    split_ifs with ht
    · exact r.value_dropCell fun heq => h ⟨ht, heq.symm⟩
    · rfl
  | update t sets condition =>
    simp only [Statement.onRow]
    split_ifs with ht
    · exact r.value_assign fun hname => h ⟨ht.1, hname⟩
    · rfl
  | _ => rfl

/-- **The columns that a statement does not touch** keep their values. -/
theorem columnValues_onContents (h : ¬ st.Touches table name) (contents : Contents ν) :
    columnValues (st.onContents contents) table name = columnValues contents table name := by
  have hrows : ¬ (st.dropped = some table ∨ table ∈ st.created.map Table.name) := by
    cases st <;> simp_all [Statement.Touches, Statement.dropped, Statement.created, eq_comm]
  rw [columnValues, columnValues, Statement.onContents, if_neg hrows, List.map_map]
  exact List.map_congr_left fun r _ => value_onRow h r

end Touches

/-- Where the tables after a statement come from. -/
theorem mem_tables_onSchema {st : Statement β ν} {s : Schema β} {t : Table β} :
    t ∈ (st.onSchema s).tables ↔
      (∃ t₀ ∈ s.tables, st.dropped ≠ some t₀.name ∧ st.onTable t₀ = t) ∨ t ∈ st.created := by
  simp [Statement.onSchema, and_assoc]

/-! ## Valid databases stay valid -/

section Valid

variable [Scalars β ν] {types : List EnumType}

/-- A value stays of its type while the type is known. -/
theorem fits_onTypes {st : Statement β ν} {type : ColumnType β} {v : Value ν}
    (hknown : type.Known (st.onTypes types)) (h : type.Fits types v) :
    type.Fits (st.onTypes types) v := by
  cases type with
  | scalar type => cases v <;> exact h
  | enum name =>
    cases v with
    | scalar v => exact h
    | label text =>
      obtain ⟨enum, henum, rfl, htext⟩ := h
      refine ⟨enum, ?_, rfl, htext⟩
      cases st with
      | createTable t new => exact List.mem_append_left _ henum
      | createType new =>
        simp only [Statement.onTypes]
        split_ifs
        · exact henum
        · exact List.mem_append_left _ henum
      | dropType name =>
        obtain ⟨other, hother, heq⟩ := List.mem_map.mp hknown
        have hne := (List.mem_filter.mp hother).2
        rw [heq] at hne
        exact List.mem_filter.mpr ⟨henum, hne⟩
      | _ => exact henum

/-- What the statement needs of a row of the table. -/
def Statement.AcceptsRow (types : List EnumType) (table : String) (columns : List (Column β))
    (r : Row ν) : Statement β ν → Prop
  | addColumn t column => t = table → column.nullable = true
  | setNotNull t name => t = table → (name, none) ∉ r
  | update t sets condition => t = table → condition r = true →
    ∀ c ∈ columns, ∀ value ∈ sets.lookup c.name, CellOk types c (c.name, value r)
  | _ => True

/-- The cells of a row, column by column. -/
theorem RowOk.eq_cells {columns : List (Column β)} {r : Row ν} (h : RowOk types columns r)
    (hnames : (columns.map Column.name).Nodup) :
    r = columns.map fun c => (c.name, r.value c.name) := by
  induction h with
  | nil => rfl
  | @cons c cell columns r hcell hrow ih =>
    rw [List.map_cons, List.nodup_cons] at hnames
    have hself : Row.value (cell :: r) c.name = cell.2 := by
      rw [Row.value, List.lookup_cons, hcell.1, beq_self_eq_true]
      rfl
    have hrest : ∀ c' ∈ columns,
        (c'.name, Row.value r c'.name) = (c'.name, Row.value (cell :: r) c'.name) := by
      intro c' hc'
      have hne : (c'.name == c.name) = false :=
        beq_false_of_ne fun heq => hnames.1 (heq ▸ List.mem_map_of_mem hc')
      rw [Row.value, Row.value, List.lookup_cons, hcell.1, hne]
    calc cell :: r
        = (c.name, cell.2) :: columns.map fun c' => (c'.name, Row.value r c'.name) := by
          rw [← ih hnames.2, ← hcell.1]
      _ = (c :: columns).map fun c' => (c'.name, Row.value (cell :: r) c'.name) := by
          rw [List.map_cons, hself, List.map_congr_left hrest]

theorem RowOk.value_eq_none {columns : List (Column β)} {r : Row ν} (h : RowOk types columns r)
    {name : String} (hname : name ∉ columns.map Column.name) : r.value name = none := by
  have hnone : r.lookup name = none := by
    induction h with
    | nil => rfl
    | @cons c cell columns r hcell _ ih =>
      rw [List.map_cons, List.mem_cons, not_or] at hname
      have hne : (name == cell.1) = false := beq_false_of_ne (hcell.1 ▸ hname.1)
      rw [List.lookup_cons, hne, ih hname.2]
  rw [Row.value, hnone]
  rfl

theorem RowOk.cellOk {columns : List (Column β)} {r : Row ν} (h : RowOk types columns r)
    (hnames : (columns.map Column.name).Nodup) {c : Column β} (hc : c ∈ columns) :
    CellOk types c (c.name, r.value c.name) := by
  have hcells := h
  rw [h.eq_cells hnames, RowOk, List.forall₂_map_right_iff, List.forall₂_same] at hcells
  exact hcells c hc

theorem rowOk_setNotNull {columns : List (Column β)} {r : Row ν} {name : String}
    (h : RowOk types columns r) (hnull : (name, none) ∉ r) :
    RowOk types (columns.map fun c => { c with nullable := c.nullable && c.name ≠ name }) r := by
  induction h with
  | nil => exact .nil
  | @cons c cell columns r hcell _ ih =>
    rw [List.mem_cons, not_or] at hnull
    refine .cons ⟨hcell.1, fun hnone => ?_, hcell.2.2⟩ (ih hnull.2)
    have hne : c.name ≠ name := by
      rintro rfl
      exact hnull.1 (by rw [← hcell.1, ← hnone])
    simp [hcell.2.1 hnone, hne]

theorem rowOk_assign {columns : List (Column β)} {r : Row ν} {sets : Assignments ν}
    (h : RowOk types columns r)
    (hsets : ∀ c ∈ columns, ∀ value ∈ sets.lookup c.name, CellOk types c (c.name, value r)) :
    RowOk types columns (r.assign sets) := by
  refine List.forall₂_map_right_iff.mpr ?_
  have hmem : List.Forall₂ (fun c cell => c ∈ columns ∧ CellOk types c cell) columns r :=
    (List.forall₂_and_left _ _).mpr ⟨fun c hc => hc, h⟩
  refine hmem.imp fun c cell ⟨hc, hcell⟩ => ?_
  rw [hcell.1]
  cases hset : sets.lookup c.name with
  | none => exact ⟨rfl, hcell.2⟩
  | some value => exact hsets c hc value hset

/-- **A row that the statement accepts** fits its table afterwards. -/
theorem rowOk_onRow {st : Statement β ν} {table : String} {columns : List (Column β)} {r : Row ν}
    (h : RowOk types columns r) (haccepts : st.AcceptsRow types table columns r)
    (hknown : ∀ c ∈ st.onColumns table columns, c.type.Known (st.onTypes types)) :
    RowOk (st.onTypes types) (st.onColumns table columns) (st.onRow table r) := by
  have hrow : RowOk types (st.onColumns table columns) (st.onRow table r) := by
    cases st with
    | addColumn t c =>
      simp only [Statement.onColumns, Statement.onRow]
      split_ifs with ht
      · have hnew : CellOk types c (c.name, (none : Option (Value ν))) :=
          ⟨rfl, fun _ => haccepts ht, fun v hv => absurd hv (by simp)⟩
        exact List.rel_append h (.cons hnew .nil)
      · exact h
    | dropColumn t name =>
      simp only [Statement.onColumns, Statement.onRow]
      split_ifs
      · refine List.rel_filter ?_ h
        intro c cell hcell
        simp [hcell.1]
      · exact h
    | setNotNull t name =>
      simp only [Statement.onColumns, Statement.onRow]
      split_ifs with ht
      · exact rowOk_setNotNull h (haccepts ht)
      · exact h
    | update t sets condition =>
      simp only [Statement.onColumns, Statement.onRow]
      split_ifs with ht
      · exact rowOk_assign h (haccepts ht.1 ht.2)
      · exact h
    | _ => exact h
  have hmem := (List.forall₂_and_left _ _).mpr ⟨hknown, hrow⟩
  exact hmem.imp fun c cell ⟨hc, hcell⟩ =>
    ⟨hcell.1, hcell.2.1, fun v hv => fits_onTypes hc (hcell.2.2 v hv)⟩

/-! ### Constraints -/

/-- The columns that decide whether a constraint of the table holds. -/
def Constraint.Reads (constraint : Constraint) (table t name : String) : Prop :=
  (t = table ∧ name = constraint.column) ∨ constraint.target = some (t, name)

instance (constraint : Constraint) (table t name : String) :
    Decidable (constraint.Reads table t name) := inferInstanceAs (Decidable (_ ∨ _))

omit [Scalars β ν] in
theorem Constraint.holds_congr {constraint : Constraint} {contents contents' : Contents ν}
    {table : String} (h : ∀ t name, constraint.Reads table t name →
      columnValues contents' t name = columnValues contents t name)
    (hholds : constraint.Holds contents table) : constraint.Holds contents' table := by
  have hself := h table constraint.column (.inl ⟨rfl, rfl⟩)
  cases constraint with
  | primaryKey name | unique _ name | uniqueIndex _ name =>
    simp only [Constraint.column] at hself
    simpa only [Constraint.Holds, hself] using hholds
  | foreignKey name refTable refColumn =>
    have htarget := h refTable refColumn (.inr rfl)
    simp only [Constraint.column] at hself
    simpa only [Constraint.Holds, hself, htarget] using hholds

omit [Scalars β ν] in
theorem Constraint.holds_of_nil {contents : Contents ν} {table : String}
    (h : contents table = []) (constraint : Constraint) : constraint.Holds contents table := by
  have hcolumn : ∀ name, columnValues contents table name = [] := fun name => by
    rw [columnValues, h]
    rfl
  cases constraint <;> simp [Constraint.Holds, hcolumn]

/-- No constraint is created, and no column is assigned that one reads. -/
def Statement.LeavesKeys (s : Schema β) : Statement β ν → Prop
  | createConstraint _ _ => False
  | update t sets _ => ∀ table ∈ s.tables, ∀ constraint ∈ table.constraints,
    ∀ name ∈ sets.map Prod.fst, ¬ constraint.Reads table.name t name
  | _ => True

instance (s : Schema β) : ∀ st : Statement β ν, Decidable (st.LeavesKeys s)
  | .createConstraint _ _ => inferInstanceAs (Decidable False)
  | .update t sets _ => inferInstanceAs (Decidable (∀ table ∈ s.tables,
      ∀ constraint ∈ table.constraints, ∀ name ∈ sets.map Prod.fst,
        ¬ constraint.Reads table.name t name))
  | .createTable _ _ | .dropTable _ | .addColumn _ _ | .dropColumn _ _ | .setNotNull _ _
  | .dropConstraint _ _ | .dropIndex _ _ | .createType _ | .dropType _ =>
    inferInstanceAs (Decidable True)

variable {st : Statement β ν} {d : Db β ν}

omit [Scalars β ν] in
/-- A table that stays is not the one that is created. -/
theorem name_not_mem_created {s : Schema β} (h : (st.onSchema s).Consistent) {t : Table β}
    (ht : t ∈ s.tables) (hdropped : st.dropped ≠ some t.name) :
    t.name ∉ st.created.map Table.name := by
  have hnames := h.names
  rw [Statement.onSchema, List.map_append, List.nodup_append'] at hnames
  refine hnames.2.2 (List.mem_map.mpr ⟨st.onTable t, ?_, rfl⟩)
  exact List.mem_map.mpr ⟨t, List.mem_filter.mpr ⟨ht, by simpa using hdropped⟩, rfl⟩

omit [Scalars β ν] in
theorem onContents_of_mem {s : Schema β} (h : (st.onSchema s).Consistent) {t : Table β}
    (ht : t ∈ s.tables) (hdropped : st.dropped ≠ some t.name) (contents : Contents ν) :
    st.onContents contents t.name = (contents t.name).map fun r => st.onRow t.name r :=
  if_neg (not_or.mpr ⟨hdropped, name_not_mem_created h ht hdropped⟩)

omit [Scalars β ν] in
/-- A statement that leaves the keys alone adds no constraint to a table. -/
theorem mem_of_mem_onConstraints {s : Schema β} (hkeys : st.LeavesKeys s) {table : String}
    {constraints : List Constraint} {constraint : Constraint}
    (h : constraint ∈ st.onConstraints table constraints) : constraint ∈ constraints := by
  cases st with
  | createConstraint t new => exact hkeys.elim
  | dropColumn t name | dropIndex name t =>
    simp only [Statement.onConstraints] at h
    split_ifs at h
    · exact List.mem_of_mem_filter h
    · exact h
  | dropConstraint name t =>
    cases name with
    | none => exact h
    | some name =>
      simp only [Statement.onConstraints] at h
      split_ifs at h
      · exact List.mem_of_mem_filter h
      · exact h
  | _ => exact h

omit [Scalars β ν] in
/-- What a remaining constraint reads is not touched. -/
theorem not_touches_of_reads {s : Schema β} (hs : s.Consistent)
    (hconsistent : (st.onSchema s).Consistent) (hkeys : st.LeavesKeys s) {t : Table β}
    (ht : t ∈ s.tables) (hdropped : st.dropped ≠ some t.name) {constraint : Constraint}
    (hold : constraint ∈ t.constraints) (hnew : constraint ∈ (st.onTable t).constraints)
    {table name : String} (hreads : constraint.Reads t.name table name) :
    ¬ st.Touches table name := by
  have htable : st.onTable t ∈ (st.onSchema s).tables :=
    mem_tables_onSchema.mpr (.inl ⟨t, ht, hdropped, rfl⟩)
  -- the table that is read is there, before and after the statement
  have hread : ∃ t' ∈ s.tables, st.dropped ≠ some t'.name ∧ t'.name = table := by
    rcases hreads with ⟨rfl, -⟩ | htarget
    · exact ⟨t, ht, hdropped, rfl⟩
    · obtain ⟨t₀, ht₀, hname₀, -⟩ := hs.targets t ht constraint hold _ htarget
      obtain ⟨t₁, ht₁, hname₁, -⟩ := hconsistent.targets _ htable constraint hnew _ htarget
      refine ⟨t₀, ht₀, fun hdrop => ?_, hname₀⟩
      rcases mem_tables_onSchema.mp ht₁ with ⟨t', -, hdropped', rfl⟩ | hcreated
      · exact hdropped' (hdrop.trans (congrArg some (hname₀.trans hname₁.symm)))
      · cases st <;> simp_all [Statement.created, Statement.dropped]
  obtain ⟨t', ht', hdropped', rfl⟩ := hread
  cases st with
  | createTable new types =>
    exact fun htouch => name_not_mem_created hconsistent ht' hdropped' (by
      rw [← (htouch : new.name = t'.name)]
      exact List.mem_singleton_self _)
  | dropTable n => exact fun htouch => hdropped' (congrArg some htouch)
  | dropColumn n column =>
    rintro ⟨rfl, rfl⟩
    rcases hreads with ⟨hname, rfl⟩ | htarget
    · simp only [Statement.onTable, Statement.onConstraints, hname, if_true] at hnew
      simpa using (List.mem_filter.mp hnew).2
    · obtain ⟨t₁, ht₁, hname₁, hcolumn⟩ := hconsistent.targets _ htable constraint hnew _ htarget
      rcases mem_tables_onSchema.mp ht₁ with ⟨t₂, -, -, rfl⟩ | hcreated
      · have hname₂ : t'.name = t₂.name := hname₁.symm
        simp only [Statement.onTable, Statement.onColumns, hname₂, if_true] at hcolumn
        obtain ⟨c, hc, hcname⟩ := List.mem_map.mp hcolumn
        exact absurd hcname (by simpa using (List.mem_filter.mp hc).2)
      · exact absurd hcreated (by simp [Statement.created])
  | update n sets condition =>
    rintro ⟨rfl, hname⟩
    exact hkeys t ht constraint hold _ hname hreads
  | _ => exact id

/-- **A valid database stays valid** under a statement that accepts its rows and
    leaves its keys alone. -/
theorem valid_onSchema (hvalid : d.Valid) (hconsistent : (st.onSchema d.schema).Consistent)
    (hkeys : st.LeavesKeys d.schema)
    (haccepts : ∀ t ∈ d.schema.tables, ∀ r ∈ d.contents t.name,
      st.AcceptsRow d.schema.types t.name t.columns r) :
    (⟨st.onSchema d.schema, st.onContents d.contents⟩ : Db β ν).Valid := by
  have hempty : ∀ t ∈ st.created, st.onContents d.contents t.name = [] := fun t ht =>
    if_pos (.inr (List.mem_map_of_mem ht))
  refine ⟨hconsistent, fun t' ht' r' hr' => ?_, fun t' ht' constraint hconstraint => ?_⟩
  · rcases mem_tables_onSchema.mp ht' with ⟨t, ht, hdropped, rfl⟩ | hcreated
    · change r' ∈ st.onContents d.contents t.name at hr'
      rw [onContents_of_mem hconsistent ht hdropped] at hr'
      obtain ⟨r, hr, rfl⟩ := List.mem_map.mp hr'
      exact rowOk_onRow (hvalid.rows t ht r hr) (haccepts t ht r hr)
        (hconsistent.types _ ht')
    · change r' ∈ st.onContents d.contents t'.name at hr'
      rw [hempty t' hcreated] at hr'
      exact absurd hr' (by simp)
  · rcases mem_tables_onSchema.mp ht' with ⟨t, ht, hdropped, rfl⟩ | hcreated
    · have hold := mem_of_mem_onConstraints hkeys hconstraint
      refine Constraint.holds_congr (fun table name hreads => ?_)
        (hvalid.constraints t ht constraint hold)
      exact columnValues_onContents (not_touches_of_reads hvalid.schema hconsistent hkeys ht
        hdropped hold hconstraint hreads) _
    · exact Constraint.holds_of_nil (hempty t' hcreated) constraint

end Valid

end Relational
