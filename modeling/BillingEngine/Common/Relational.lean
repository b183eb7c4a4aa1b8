import Mathlib

/-!
# Relational databases and statements that change them

A schema is a list of tables, with their columns and constraints, and the named enum
types of the columns. A database is a schema with the rows of each table. A statement
acts on the schema, on the rows, or on both; it fails when a name is unknown or
taken, or when the result breaks a type, a `NOT NULL` or a constraint: these are
checked at the end of each statement. Keys are of one column each.

The scalar types and their values are parameters, and so is nothing else: what a
column default, a trigger or a cascade would do is not covered.
-/

namespace Relational

/-! ## Types and values -/

/-- The scalar types of a database, and which values are of a type. -/
class Scalars (β ν : Type) where
  Fits : β → ν → Prop
  decidableFits : ∀ type value, Decidable (Fits type value)

instance {β ν : Type} [Scalars β ν] (type : β) (value : ν) : Decidable (Scalars.Fits type value) :=
  Scalars.decidableFits type value

/-- The type of a column: a scalar type, or the enum type of that name. -/
inductive ColumnType (β : Type) where
  | scalar (type : β)
  | enum (name : String)
deriving DecidableEq

/-- A value that is not null. -/
inductive Value (ν : Type) where
  | scalar (value : ν)
  | label (text : String)
deriving DecidableEq

/-- `CREATE TYPE name AS ENUM (labels)` -/
structure EnumType where
  name : String
  labels : List String
deriving DecidableEq

variable {β ν : Type}

/-- The value is of the type; a label is one of the enum type of that name. -/
def ColumnType.Fits [Scalars β ν] (types : List EnumType) : ColumnType β → Value ν → Prop
  | .scalar type, .scalar value => Scalars.Fits type value
  | .enum name, .label text => ∃ type ∈ types, type.name = name ∧ text ∈ type.labels
  | .scalar _, .label _ => False
  | .enum _, .scalar _ => False

instance [Scalars β ν] (types : List EnumType) : ∀ (type : ColumnType β) (value : Value ν),
    Decidable (type.Fits types value)
  | .scalar type, .scalar value => inferInstanceAs (Decidable (Scalars.Fits type value))
  | .enum name, .label text =>
    inferInstanceAs (Decidable (∃ type ∈ types, type.name = name ∧ text ∈ type.labels))
  | .scalar _, .label _ => inferInstanceAs (Decidable False)
  | .enum _, .scalar _ => inferInstanceAs (Decidable False)

/-- The type exists. -/
def ColumnType.Known (types : List EnumType) : ColumnType β → Prop
  | .scalar _ => True
  | .enum name => name ∈ types.map EnumType.name

instance (types : List EnumType) : ∀ type : ColumnType β, Decidable (type.Known types)
  | .scalar _ => inferInstanceAs (Decidable True)
  | .enum name => inferInstanceAs (Decidable (name ∈ types.map EnumType.name))

/-! ## Rows -/

/-- The cells of a row under the names of their columns; `none` is a null. -/
abbrev Row (ν : Type) := List (String × Option (Value ν))

/-- `SET column = value, …`, where a value is computed from the row. -/
abbrev Assignments (ν : Type) := List (String × (Row ν → Option (Value ν)))

namespace Row

/-- The value under a name; a null where there is none. -/
def value (r : Row ν) (column : String) : Option (Value ν) := (r.lookup column).join

def addCell (column : String) (r : Row ν) : Row ν := r ++ [(column, none)]

def dropCell (column : String) (r : Row ν) : Row ν := r.filter fun cell => cell.1 ≠ column

/-- All values are computed from the row before the assignment. -/
def assign (sets : Assignments ν) (r : Row ν) : Row ν :=
  r.map fun cell => (cell.1, ((sets.lookup cell.1).map fun value => value r).getD cell.2)

end Row

/-- The rows of each table. -/
abbrev Contents (ν : Type) := String → List (Row ν)

/-- The values of a column, row by row. -/
def columnValues (contents : Contents ν) (table name : String) : List (Option (Value ν)) :=
  (contents table).map fun r => r.value name

/-! ## Schemas -/

structure Column (β : Type) where
  name : String
  type : ColumnType β
  nullable : Bool
deriving DecidableEq

/-- A constraint of a table; `none` is a name that the server chooses. -/
inductive Constraint where
  | primaryKey (column : String)
  | unique (name : Option String) (column : String)
  | foreignKey (column refTable refColumn : String)
  | uniqueIndex (name column : String)
deriving DecidableEq

namespace Constraint

/-- The column of the table that it is about. -/
def column : Constraint → String
  | primaryKey column | unique _ column | foreignKey column _ _ | uniqueIndex _ column => column

/-- The table and column that it refers to. -/
def target : Constraint → Option (String × String)
  | foreignKey _ refTable refColumn => some (refTable, refColumn)
  | _ => none

/-- Nulls are distinct from each other, except in a primary key, and refer to nothing. -/
def Holds (contents : Contents ν) (table : String) : Constraint → Prop
  | primaryKey name =>
    none ∉ columnValues contents table name ∧ (columnValues contents table name).Nodup
  | unique _ name | uniqueIndex _ name =>
    (columnValues contents table name).reduceOption.Nodup
  | foreignKey name refTable refColumn =>
    ∀ value ∈ (columnValues contents table name).reduceOption,
      some value ∈ columnValues contents refTable refColumn

instance [DecidableEq ν] (contents : Contents ν) (table : String) :
    ∀ constraint : Constraint, Decidable (constraint.Holds contents table)
  | primaryKey _ => inferInstanceAs (Decidable (_ ∧ _))
  | unique _ _ | uniqueIndex _ _ => inferInstanceAs (Decidable (List.Nodup _))
  | foreignKey _ _ _ => inferInstanceAs (Decidable (∀ value ∈ List.reduceOption _, _))

end Constraint

structure Table (β : Type) where
  name : String
  columns : List (Column β)
  constraints : List Constraint
deriving DecidableEq

structure Schema (β : Type) where
  tables : List (Table β)
  types : List EnumType
deriving DecidableEq

/-- The table has the column. -/
def Schema.HasColumn (s : Schema β) (table column : String) : Prop :=
  ∃ t ∈ s.tables, t.name = table ∧ column ∈ t.columns.map Column.name

instance (s : Schema β) (table column : String) : Decidable (s.HasColumn table column) :=
  inferInstanceAs (Decidable (∃ t ∈ s.tables, _))

/-- No two tables have one name, and what a column or a foreign key refers to exists. -/
structure Schema.Consistent (s : Schema β) : Prop where
  names : (s.tables.map Table.name).Nodup
  types : ∀ t ∈ s.tables, ∀ c ∈ t.columns, c.type.Known s.types
  targets : ∀ t ∈ s.tables, ∀ constraint ∈ t.constraints, ∀ target ∈ constraint.target,
    s.HasColumn target.1 target.2

instance (s : Schema β) : Decidable s.Consistent :=
  decidable_of_iff ((s.tables.map Table.name).Nodup ∧
      (∀ t ∈ s.tables, ∀ c ∈ t.columns, c.type.Known s.types) ∧
      ∀ t ∈ s.tables, ∀ constraint ∈ t.constraints, ∀ target ∈ constraint.target,
        s.HasColumn target.1 target.2)
    ⟨fun ⟨h1, h2, h3⟩ => ⟨h1, h2, h3⟩, fun ⟨h1, h2, h3⟩ => ⟨h1, h2, h3⟩⟩

/-! ## Databases -/

structure Db (β ν : Type) where
  schema : Schema β
  contents : Contents ν

section Valid

variable [Scalars β ν]

/-- The cell is the one of the column, and its value is of the type, or a null where
    nulls are allowed. -/
def CellOk (types : List EnumType) (c : Column β) (cell : String × Option (Value ν)) : Prop :=
  cell.1 = c.name ∧ (cell.2 = none → c.nullable = true) ∧ ∀ v ∈ cell.2, c.type.Fits types v

instance (types : List EnumType) (c : Column β) (cell : String × Option (Value ν)) :
    Decidable (CellOk types c cell) := inferInstanceAs (Decidable (_ ∧ _))

/-- The cells of the row are those of the columns, in their order. -/
def RowOk (types : List EnumType) (columns : List (Column β)) (r : Row ν) : Prop :=
  List.Forall₂ (CellOk types) columns r

instance (types : List EnumType) (columns : List (Column β)) (r : Row ν) :
    Decidable (RowOk types columns r) := inferInstanceAs (Decidable (List.Forall₂ _ _ _))

/-- What the server enforces. -/
structure Db.Valid (d : Db β ν) : Prop where
  schema : d.schema.Consistent
  rows : ∀ t ∈ d.schema.tables, ∀ r ∈ d.contents t.name, RowOk d.schema.types t.columns r
  constraints : ∀ t ∈ d.schema.tables, ∀ constraint ∈ t.constraints,
    constraint.Holds d.contents t.name

instance [DecidableEq ν] (d : Db β ν) : Decidable d.Valid :=
  decidable_of_iff (d.schema.Consistent ∧
      (∀ t ∈ d.schema.tables, ∀ r ∈ d.contents t.name, RowOk d.schema.types t.columns r) ∧
      ∀ t ∈ d.schema.tables, ∀ constraint ∈ t.constraints,
        constraint.Holds d.contents t.name)
    ⟨fun ⟨h1, h2, h3⟩ => ⟨h1, h2, h3⟩, fun ⟨h1, h2, h3⟩ => ⟨h1, h2, h3⟩⟩

end Valid

/-! ## Statements -/

inductive Error where
  | undefined (name : String)
  | duplicate (name : String)
  /-- a constraint that has no name cannot be dropped -/
  | unnamed
  /-- the result breaks a type, a `NOT NULL` or a constraint -/
  | violation
deriving DecidableEq

inductive Statement (β ν : Type) where
  /-- with the enum types of its columns, which are created before it -/
  | createTable (table : Table β) (types : List EnumType)
  | dropTable (table : String)
  | addColumn (table : String) (column : Column β)
  /-- the data of the column goes, and its constraints -/
  | dropColumn (table column : String)
  | setNotNull (table column : String)
  | createConstraint (table : String) (constraint : Constraint)
  | dropConstraint (name : Option String) (table : String)
  | dropIndex (name table : String)
  /-- unless it exists -/
  | createType (type : EnumType)
  /-- if it exists -/
  | dropType (name : String)
  | update (table : String) (sets : Assignments ν) (condition : Row ν → Bool)

/-- The name of a constraint that has one. -/
def Constraint.name : Constraint → Option String
  | unique name _ => name
  | uniqueIndex name _ => some name
  | primaryKey _ | foreignKey _ _ _ => none

namespace Statement

/-! ### The schema after a statement -/

/-- The names that must exist, and those that must not. -/
def check (s : Schema β) : Statement β ν → Except Error Unit
  | createTable table types =>
    if table.name ∈ s.tables.map Table.name then .error (.duplicate table.name)
    else match types.find? fun type => decide (type.name ∈ s.types.map EnumType.name) with
      | some type => .error (.duplicate type.name)
      | none => .ok ()
  | dropTable table =>
    if table ∈ s.tables.map Table.name then .ok () else .error (.undefined table)
  | addColumn table column =>
    if table ∉ s.tables.map Table.name then .error (.undefined table)
    else if s.HasColumn table column.name then .error (.duplicate column.name) else .ok ()
  | dropColumn table column | setNotNull table column =>
    if s.HasColumn table column then .ok () else .error (.undefined column)
  | createConstraint table constraint =>
    if ¬ s.HasColumn table constraint.column then .error (.undefined constraint.column)
    else match constraint.name with
      | none => .ok ()
      | some name =>
        if ∃ t ∈ s.tables, some name ∈ t.constraints.map Constraint.name then
          .error (.duplicate name)
        else .ok ()
  | dropConstraint none _ => .error .unnamed
  | dropConstraint (some name) table | dropIndex name table =>
    if ∃ t ∈ s.tables, t.name = table ∧ some name ∈ t.constraints.map Constraint.name then .ok ()
    else .error (.undefined name)
  | createType _ | dropType _ => .ok ()
  | update table sets _ =>
    match sets.find? fun set => decide (¬ s.HasColumn table set.1) with
    | some set => .error (.undefined set.1)
    | none => .ok ()

/-- The tables that it creates. -/
def created : Statement β ν → List (Table β)
  | createTable table _ => [table]
  | _ => []

/-- The table that it drops. -/
def dropped : Statement β ν → Option String
  | dropTable table => some table
  | _ => none

def onColumns (table : String) (columns : List (Column β)) : Statement β ν → List (Column β)
  | addColumn t column => if t = table then columns ++ [column] else columns
  | dropColumn t name =>
    if t = table then columns.filter fun column => column.name ≠ name else columns
  | setNotNull t name =>
    if t = table then
      columns.map fun column => { column with nullable := column.nullable && column.name ≠ name }
    else columns
  | _ => columns

def onConstraints (table : String) (constraints : List Constraint) :
    Statement β ν → List Constraint
  | createConstraint t constraint =>
    if t = table then constraints ++ [constraint] else constraints
  | dropConstraint (some name) t | dropIndex name t =>
    if t = table then constraints.filter fun constraint => constraint.name ≠ some name
    else constraints
  | dropColumn t name =>
    if t = table then constraints.filter fun constraint => constraint.column ≠ name
    else constraints
  | _ => constraints

def onTypes (types : List EnumType) : Statement β ν → List EnumType
  | createTable _ new => types ++ new
  | createType type => if type.name ∈ types.map EnumType.name then types else types ++ [type]
  | dropType name => types.filter fun type => type.name ≠ name
  | _ => types

def onTable (st : Statement β ν) (t : Table β) : Table β where
  name := t.name
  columns := st.onColumns t.name t.columns
  constraints := st.onConstraints t.name t.constraints

def onSchema (st : Statement β ν) (s : Schema β) : Schema β where
  tables := (s.tables.filter fun t => st.dropped ≠ some t.name).map st.onTable ++ st.created
  types := st.onTypes s.types

/-! ### The rows after a statement -/

def onRow (table : String) (r : Row ν) : Statement β ν → Row ν
  | addColumn t column => if t = table then r.addCell column.name else r
  | dropColumn t name => if t = table then r.dropCell name else r
  | update t sets condition => if t = table ∧ condition r = true then r.assign sets else r
  | _ => r

/-- A table that is created or dropped is empty. -/
def onContents (st : Statement β ν) (contents : Contents ν) : Contents ν := fun table =>
  if st.dropped = some table ∨ table ∈ st.created.map Table.name then []
  else (contents table).map fun r => st.onRow table r

/-- The statement, with the check at its end. -/
def execute [Scalars β ν] [DecidableEq ν] (st : Statement β ν) (d : Db β ν) :
    Except Error (Db β ν) :=
  match st.check d.schema with
  | .error e => .error e
  | .ok () =>
    let d' : Db β ν := ⟨st.onSchema d.schema, st.onContents d.contents⟩
    if d'.Valid then .ok d' else .error .violation

end Statement

end Relational
