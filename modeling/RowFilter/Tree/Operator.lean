import RowFilter.Grammar.Operation

/-!
# Operator names of the query builder

A rule names its operator in the query builder's own words, some of which mean
the same: text widgets say `equal` where select widgets say `select_equals`. A
group names its conjunction in capital letters, and no conjunction means AND.

This is the operator resolver of the specification (section 4.2).
-/

namespace RowFilter

/-- The conjunction of a group. Absent means AND, and only AND and OR are known. -/
def LogicOperator.ofConjunction : Option String → Except FilterError LogicOperator
  | none => .ok .and
  | some name =>
    if name = "AND" then .ok .and
    else if name = "OR" then .ok .or
    else .error (.unknownConjunction name)

namespace LogicOperator

variable {conjunction : Option String}

/-- AND stands for an absent conjunction as well, and OR for itself only. -/
@[simp] theorem ofConjunction_eq_ok_iff {op : LogicOperator} :
    ofConjunction conjunction = .ok op ↔
      op = .and ∧ (conjunction = none ∨ conjunction = some "AND") ∨
        op = .or ∧ conjunction = some "OR" := by
  cases conjunction with
  | none => simp [ofConjunction, eq_comm]
  | some name =>
    rw [ofConjunction]
    by_cases hand : name = "AND"
    · simp [hand, eq_comm]
    · by_cases hor : name = "OR"
      · simp [hor, eq_comm]
      · simp [hand, hor]

/-- Every other conjunction is unknown. -/
@[simp] theorem ofConjunction_eq_error_iff {error : FilterError} :
    ofConjunction conjunction = .error error ↔
      ∃ name, conjunction = some name ∧ (name ≠ "AND" ∧ name ≠ "OR") ∧
        error = .unknownConjunction name := by
  cases conjunction with
  | none => simp [ofConjunction]
  | some name =>
    rw [ofConjunction]
    by_cases hand : name = "AND"
    · simp [hand]
    · by_cases hor : name = "OR"
      · simp [hor]
      · simp [hand, hor, eq_comm]

end LogicOperator

/-- The ordering that a name stands for. -/
def ComparisonOperator.ofName? (name : String) : Option ComparisonOperator :=
  if name = "less" then some .less
  else if name = "less_or_equal" then some .lessOrEqual
  else if name = "greater" then some .greater
  else if name = "greater_or_equal" then some .greaterOrEqual
  else none

/-- The match that a name stands for, in the words of either widget. -/
def EqualityOperator.ofName? (name : String) : Option EqualityOperator :=
  if name = "equal" ∨ name = "select_equals" then some .equal
  else if name = "not_equal" ∨ name = "select_not_equals" then some .unequal
  else none

/-- The test for a value that a name stands for. -/
def NullCheckOperator.ofName? (name : String) : Option NullCheckOperator :=
  if name = "is_null" then some .isNull
  else if name = "is_not_null" then some .isNotNull
  else none

/-- What a rule asks of its field. -/
inductive RuleOperator where
  | comparison (op : ComparisonOperator)
  | equality (op : EqualityOperator)
  | contains
  | nullCheck (op : NullCheckOperator)
  /-- A match with the empty text, whatever value the rule has. -/
  | emptiness (op : EqualityOperator)
  deriving DecidableEq, Repr

/-- What a rule with a named operator asks of its field. The names of the five
kinds do not overlap. -/
def RuleOperator.ofName? (name : String) : Option RuleOperator :=
  match ComparisonOperator.ofName? name with
  | some op => some (.comparison op)
  | none =>
    match EqualityOperator.ofName? name with
    | some op => some (.equality op)
    | none =>
      if name = "like" then some .contains
      else
        match NullCheckOperator.ofName? name with
        | some op => some (.nullCheck op)
        | none =>
          if name = "is_empty" then some (.emptiness .equal)
          else if name = "is_not_empty" then some (.emptiness .unequal)
          else none

end RowFilter
