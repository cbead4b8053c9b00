import RowFilter.Grammar.Operation

/-!
# The conditions of a filter

AND, OR and NOT only arrange conditions. The conditions themselves are the leaves of
an operation, and what a filter refers to or compares with is found in them:

> `leaves_logic?`: the leaves of joined operations are their leaves in order.
-/

namespace RowFilter.Operation

mutual

/-- The conditions of an operation in the order in which they are written. -/
def leaves : Operation → List Operation
  | .logic _ first rest => leaves first ++ leavesOf rest
  | .negation inner => leaves inner
  | leaf => [leaf]

/-- The conditions of several operations. -/
def leavesOf : List Operation → List Operation
  | [] => []
  | operand :: rest => leaves operand ++ leavesOf rest

end

@[simp] theorem leaves_logic (op : LogicOperator) (first : Operation) (rest : List Operation) :
    (logic op first rest).leaves = first.leaves ++ leavesOf rest := rfl

@[simp] theorem leaves_negation (inner : Operation) :
    (negation inner).leaves = inner.leaves := rfl

@[simp] theorem leavesOf_nil : leavesOf [] = [] := rfl

@[simp] theorem leavesOf_cons (operand : Operation) (rest : List Operation) :
    leavesOf (operand :: rest) = operand.leaves ++ leavesOf rest := rfl

theorem leavesOf_eq_flatMap : ∀ operands : List Operation,
    leavesOf operands = operands.flatMap leaves
  | [] => rfl
  | operand :: rest => by
    rw [leavesOf_cons, leavesOf_eq_flatMap rest, List.flatMap_cons]

/-- Joining makes no condition, and loses none. -/
@[simp] theorem leaves_logic? (op : LogicOperator) (operands : List Operation) :
    (logic? op operands).toList.flatMap leaves = operands.flatMap leaves := by
  cases operands with
  | nil => rfl
  | cons first rest => simp [leavesOf_eq_flatMap]

/-- The symbol of a single condition. -/
def target? : Operation → Option Symbol
  | .symbol target => some target
  | .comparison _ target _ => some target
  | .equality _ target _ => some target
  | .contains target _ => some target
  | .nullCheck _ target => some target
  | _ => none

/-- The literal of a single condition. -/
def value? : Operation → Option Atom
  | .atom value => some value
  | .comparison _ _ value => some value
  | .equality _ _ value => some value
  | .contains _ value => some value
  | _ => none

/-- The symbols of an operation in the order in which they are written. -/
def symbols (operation : Operation) : List Symbol := operation.leaves.filterMap target?

/-- The literals of an operation in the order in which they are written. -/
def atoms (operation : Operation) : List Atom := operation.leaves.filterMap value?

end RowFilter.Operation

namespace RowFilter

/-- The column that a symbol names: its own, or that of the document. -/
def Symbol.name : Symbol → String
  | .column name => name
  | .pointer document _ => document

/-- True of a literal that is not an infinite number or none at all. -/
def Atom.IsFinite : Atom → Prop
  | .double x => x.isFinite = true
  | _ => True

end RowFilter
