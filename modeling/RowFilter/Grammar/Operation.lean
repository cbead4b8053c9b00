import RowFilter.Grammar.Atom
import RowFilter.Grammar.Context
import RowFilter.Grammar.Token

/-!
# Filter expressions

An operation is a condition on one symbol, a conjunction or disjunction of at
least one operation, or a negation; a bare atom and a bare symbol are operations
as well. A group of nothing is no operation:

> `Operation.logic?`: AND or OR over a list, and nothing if the list is empty.

`Operation.same` decides equality.

These are the AST nodes of the specification (section 3). Its binary logic operation is
never empty, so here it has a first operand.
-/

namespace RowFilter

/-- How several operations are joined. -/
inductive LogicOperator where
  | and
  | or
  deriving DecidableEq, Repr

/-- How a symbol is ordered against a value. -/
inductive ComparisonOperator where
  | less
  | lessOrEqual
  | greater
  | greaterOrEqual
  deriving DecidableEq, Repr

/-- How a symbol is matched with a value. -/
inductive EqualityOperator where
  | equal
  | unequal
  deriving DecidableEq, Repr

/-- Whether a symbol has a value. -/
inductive NullCheckOperator where
  | isNull
  | isNotNull
  deriving DecidableEq, Repr

/-- The word of a conjunction or disjunction. -/
def LogicOperator.token : LogicOperator → Token
  | .and => .and
  | .or => .or

/-- The word of an ordering. -/
def ComparisonOperator.token : ComparisonOperator → Token
  | .less => .less
  | .lessOrEqual => .lessOrEqual
  | .greater => .greater
  | .greaterOrEqual => .greaterOrEqual

/-- The word of a match. -/
def EqualityOperator.token : EqualityOperator → Token
  | .equal => .equal
  | .unequal => .unequal

/-- The word of a test for a value. -/
def NullCheckOperator.token : NullCheckOperator → Token
  | .isNull => .isNull
  | .isNotNull => .isNotNull

/-- A filter expression. -/
inductive Operation where
  | atom (value : Atom)
  | symbol (target : Symbol)
  | comparison (op : ComparisonOperator) (target : Symbol) (value : Atom)
  | equality (op : EqualityOperator) (target : Symbol) (value : Atom)
  | contains (target : Symbol) (value : Atom)
  | nullCheck (op : NullCheckOperator) (target : Symbol)
  /-- At least one operation joined by AND or OR. -/
  | logic (op : LogicOperator) (first : Operation) (rest : List Operation)
  | negation (inner : Operation)
  deriving Repr

namespace Operation

/-- Joins a list of operations. An empty list is nothing rather than a condition
that always or never holds. -/
def logic? (op : LogicOperator) : List Operation → Option Operation
  | [] => none
  | first :: rest => some (.logic op first rest)

@[simp] theorem logic?_nil (op : LogicOperator) : logic? op [] = none := rfl

@[simp] theorem logic?_cons (op : LogicOperator) (first : Operation) (rest : List Operation) :
    logic? op (first :: rest) = some (.logic op first rest) := rfl

/-- Only an empty list is nothing. -/
@[simp] theorem logic?_eq_none_iff {op : LogicOperator} {operands : List Operation} :
    logic? op operands = none ↔ operands = [] := by
  cases operands <;> simp

mutual

/-- True of equal operations. -/
def same : Operation → Operation → Bool
  | .atom a, .atom b => a = b
  | .symbol a, .symbol b => a = b
  | .comparison op s v, .comparison op' s' v' => op = op' && s = s' && v = v'
  | .equality op s v, .equality op' s' v' => op = op' && s = s' && v = v'
  | .contains s v, .contains s' v' => s = s' && v = v'
  | .nullCheck op s, .nullCheck op' s' => op = op' && s = s'
  | .logic op a as, .logic op' b bs => op = op' && same a b && sameList as bs
  | .negation a, .negation b => same a b
  | _, _ => false

/-- True of equal lists of operations. -/
def sameList : List Operation → List Operation → Bool
  | [], [] => true
  | a :: as, b :: bs => same a b && sameList as bs
  | _, _ => false

end

mutual

theorem same_iff : ∀ a b : Operation, same a b = true ↔ a = b
  | .atom _, b => by cases b <;> simp [same]
  | .symbol _, b => by cases b <;> simp [same]
  | .comparison .., b => by cases b <;> simp [same, and_assoc]
  | .equality .., b => by cases b <;> simp [same, and_assoc]
  | .contains .., b => by cases b <;> simp [same]
  | .nullCheck .., b => by cases b <;> simp [same]
  | .logic _ x xs, b => by
    cases b with
    | logic op y ys => simp [same, same_iff x y, sameList_iff xs ys, and_assoc]
    | _ => simp [same]
  | .negation x, b => by
    cases b with
    | negation y => simp [same, same_iff x y]
    | _ => simp [same]

theorem sameList_iff : ∀ as bs : List Operation, sameList as bs = true ↔ as = bs
  | [], bs => by cases bs <;> simp [sameList]
  | x :: xs, bs => by
    cases bs with
    | nil => simp [sameList]
    | cons y ys => simp [sameList, same_iff x y, sameList_iff xs ys]

end

instance : DecidableEq Operation := fun a b => decidable_of_iff _ (same_iff a b)

end Operation

end RowFilter
