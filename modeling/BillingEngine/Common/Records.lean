import BillingEngine.Common.Statements

/-!
# Tables of records

A program reads the rows of a table as records. When the values of a column are those of a
field of the records, under an injective map from the field to values, a constraint on
the column is a property of the field.

Results:
* `exists_records`: rows that are all rows of records.
* `holds_primaryKey_iff`, `holds_unique_iff`, `holds_foreignKey_iff`: the constraints.
-/

namespace Relational

variable {β ν ρ σ κ : Type}

/-- Rows each of which is the row of a record are the rows of records. -/
theorem exists_records {toRow : ρ → Row ν} {rows : List (Row ν)}
    (h : ∀ r ∈ rows, ∃ x, toRow x = r) : ∃ xs : List ρ, xs.map toRow = rows := by
  have hrange : rows ∈ Set.range (List.map toRow) := by
    rw [Set.range_list_map]
    exact h
  exact hrange

theorem columnValues_of_map {contents : Contents ν} {table : String} {xs : List ρ}
    {toRow : ρ → Row ν} (h : contents table = xs.map toRow) (name : String) :
    columnValues contents table name = xs.map fun x => (toRow x).value name := by
  rw [columnValues, h, List.map_map]
  rfl

section Constraints

variable {contents : Contents ν} {table name : String} {xs : List ρ} {toValue : κ → Value ν}

theorem holds_primaryKey_iff (field : ρ → κ) (hinj : Function.Injective toValue)
    (h : columnValues contents table name = xs.map fun x => some (toValue (field x))) :
    (Constraint.primaryKey name).Holds contents table ↔ (xs.map field).Nodup := by
  have hvalues : columnValues contents table name = (xs.map field).map (some ∘ toValue) := by
    rw [h, List.map_map]
    rfl
  have hnull : none ∉ columnValues contents table name := by simp [h]
  rw [Constraint.Holds, and_iff_right hnull, hvalues,
    List.nodup_map_iff ((Option.some_injective _).comp hinj)]

/-- Nulls do not count. -/
theorem holds_uniqueNullable_iff (field : ρ → Option κ) (hinj : Function.Injective toValue)
    (h : columnValues contents table name = xs.map fun x => (field x).map toValue)
    (key : Option String) :
    (Constraint.unique key name).Holds contents table ↔ (xs.filterMap field).Nodup := by
  have hvalues : (columnValues contents table name).reduceOption =
      (xs.filterMap field).map toValue := by
    rw [h, List.reduceOption, List.filterMap_map, List.map_filterMap]
    rfl
  rw [Constraint.Holds, hvalues, List.nodup_map_iff hinj]

theorem holds_unique_iff (field : ρ → κ) (hinj : Function.Injective toValue)
    (h : columnValues contents table name = xs.map fun x => some (toValue (field x)))
    (key : Option String) :
    (Constraint.unique key name).Holds contents table ↔ (xs.map field).Nodup := by
  rw [holds_uniqueNullable_iff (fun x => some (field x)) hinj h, List.filterMap_eq_map']

theorem holds_uniqueIndex_iff (field : ρ → κ) (hinj : Function.Injective toValue)
    (h : columnValues contents table name = xs.map fun x => some (toValue (field x)))
    (index : String) :
    (Constraint.uniqueIndex index name).Holds contents table ↔ (xs.map field).Nodup :=
  holds_unique_iff field hinj h none

theorem holds_foreignKey_iff (field : ρ → κ) (key : σ → κ)
    (hinj : Function.Injective toValue) {ys : List σ} {refTable refColumn : String}
    (h : columnValues contents table name = xs.map fun x => some (toValue (field x)))
    (href : columnValues contents refTable refColumn = ys.map fun y => some (toValue (key y))) :
    (Constraint.foreignKey name refTable refColumn).Holds contents table ↔
      ∀ x ∈ xs, field x ∈ ys.map key := by
  simp [Constraint.Holds, h, href, List.reduceOption_mem_iff, hinj.eq_iff]

end Constraints

end Relational
