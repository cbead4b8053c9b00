import RowFilter.Proofs.Outcome
import RowFilter.Proofs.Registry
import RowFilter.Tree.Build

/-!
# What a field refers to

A field is first taken for a path or for the key of a column, and then it is checked whether a
filter may name what it stands for:

> `Context.column_eq_ok_iff`, `Context.pointer_eq_ok_iff`: a reference is made of what is listed,
> and of nothing else;
> `Scope.symbol_cases`: a field is looked up in one of these two ways, or is unknown;
> `Scope.symbol_error_cases`: what can be wrong with a field.
-/

namespace RowFilter

namespace Context

variable {context : Context} {name path : String} {type : ColumnType} {symbol : Symbol}
  {error : FilterError}

/-- The type of a column is the only one that it is listed with. -/
theorem columnType?_eq_some_iff :
    context.columnType? name = some type ↔ (name, type) ∈ context.whitelist :=
  (Keyed.mem_iff_get? context.distinct.nodup).symm

theorem isWhitelisted_iff_exists :
    context.isWhitelisted name = true ↔ ∃ type, context.columnType? name = some type :=
  Option.isSome_iff_exists

@[simp] theorem isWhitelisted_iff :
    context.isWhitelisted name = true ↔ name ∈ context.whitelist.map Prod.fst := by
  simp [isWhitelisted_iff_exists, columnType?_eq_some_iff]

@[simp] theorem column_eq_ok_iff :
    context.column name = .ok symbol ↔
      context.isWhitelisted name = true ∧ .column name = symbol := ite_eq_ok_iff

@[simp] theorem column_eq_error_iff :
    context.column name = .error error ↔
      ¬ context.isWhitelisted name = true ∧ .columnNotWhitelisted name = error :=
  ite_eq_error_iff

@[simp] theorem pointer_eq_ok_iff :
    context.pointer path = .ok symbol ↔
      context.columnType? context.documentField = some .json ∧
        .pointer context.documentField path = symbol := ite_eq_ok_iff

@[simp] theorem pointer_eq_error_iff :
    context.pointer path = .error error ↔
      ¬ context.columnType? context.documentField = some .json ∧
        .documentFieldNotJson context.documentField = error := ite_eq_error_iff

end Context

namespace Scope

variable {scope : Scope} {field : String} {symbol : Symbol} {error : FilterError}

/-- A path is a place in the document, whatever keys there are. -/
theorem symbol_of_isPath (h : isPath field = true) :
    scope.symbol field = scope.context.pointer field := by
  rw [Scope.symbol, if_pos h]

theorem symbol_of_get? {column : Column} (hp : ¬ isPath field = true)
    (h : scope.registry.get? field = some column) :
    scope.symbol field = scope.context.column column.target := by
  rw [Scope.symbol, if_neg hp, h]

theorem symbol_of_get?_none (hp : ¬ isPath field = true)
    (h : scope.registry.get? field = none) :
    scope.symbol field = .error (.unknownField field) := by
  rw [Scope.symbol, if_neg hp, h]

/-- A field is a path, the key of a column, or unknown. -/
theorem symbol_cases (scope : Scope) (field : String) :
    (isPath field = true ∧ scope.symbol field = scope.context.pointer field) ∨
    (¬ isPath field = true ∧ ∃ column, scope.registry.get? field = some column ∧
      scope.symbol field = scope.context.column column.target) ∨
    (¬ isPath field = true ∧ scope.registry.get? field = none ∧
      scope.symbol field = .error (.unknownField field)) := by
  by_cases hp : isPath field = true
  · exact Or.inl ⟨hp, symbol_of_isPath hp⟩
  · cases hg : scope.registry.get? field with
    | some column => exact Or.inr (Or.inl ⟨hp, column, rfl, symbol_of_get? hp hg⟩)
    | none => exact Or.inr (Or.inr ⟨hp, rfl, symbol_of_get?_none hp hg⟩)

/-- What can be wrong with a field: the document's column is not listed as JSON, a column's
target is not listed, or there is no such field. -/
theorem symbol_error_cases (h : scope.symbol field = .error error) :
    error = .documentFieldNotJson scope.context.documentField ∨
      (∃ column, scope.registry.get? field = some column ∧
        error = .columnNotWhitelisted column.target) ∨
      error = .unknownField field := by
  rcases scope.symbol_cases field with ⟨-, he⟩ | ⟨-, column, hg, he⟩ | ⟨-, -, he⟩
  · exact Or.inl (Context.pointer_eq_error_iff.mp (he.symm.trans h)).2.symm
  · exact Or.inr (Or.inl ⟨column, hg, (Context.column_eq_error_iff.mp (he.symm.trans h)).2.symm⟩)
  · exact Or.inr (Or.inr (Except.error.inj (he.symm.trans h)).symm)

end Scope

end RowFilter
