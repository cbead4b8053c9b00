import RowFilter.Source.Registry
import RowFilter.Tree.Node
import RowFilter.Tree.Operator

/-!
# From a tree to a filter

A filter is built for a `Scope`: what the filter may refer to, which fields there
are, and how deep the tree may be. A row that is not finished makes no condition
and is left out, and a group in which nothing is left makes none either. What
cannot be meant is an error: a node below the depth bound, a conjunction other
than AND and OR, a field that the source does not have.

> `Scope.build`: the filter of a tree, if it has one, and the rows left out, or the
> error of the first node in document order that is at fault.

A row's field is looked up even if the row is left out for another reason.

This is the tree translator of the specification (section 4.3), together with the lines
that it logs. Only the wording and the level of a line are kept, not its time.
-/

namespace RowFilter

/-- What a filter is built for. -/
structure Scope where
  context : Context
  registry : Registry
  /-- The greatest depth of a node; the root has depth zero. -/
  maxDepth : Nat

/-- The depth bound where none is configured. -/
def defaultMaxDepth : Nat := 32

/-- Why a row makes no condition. -/
inductive Omission where
  | noField
  | unusableOperator (field : String) (operator : Option String)
  | noValue (field : String)
  deriving DecidableEq, Repr

/-- The wording of a reason. -/
def Omission.message : Omission → String
  | .noField => "Dropping rule without a field"
  | .unusableOperator field operator =>
    "Dropping rule on '" ++ field ++ "' with operator " ++ Text.Visible.optional operator
  | .noValue field => "Dropping rule on '" ++ field ++ "' without a value"

/-- What a tree comes to: its filter, if any condition is left, and the reasons why
rows were left out, in document order. -/
structure Built where
  filter : Option Operation
  omitted : List Omission

/-- A value as a literal: texts, numbers and truth values have one. -/
def Atom.ofJson? : Json → Option Atom
  | .string text => some (.string text)
  | .number n => ofNumber? n
  | .bool value => some (.boolean value)
  | _ => none

/-- A value as a text to search for: a text itself, a number or a truth value as
JSON writes it. -/
def searchText? : Json → Option String
  | .string text => some text
  | .number n => some (String.ofList n.text)
  | .bool value => some (String.ofList (Json.boolText value))
  | _ => none

namespace Scope

/-- What a field refers to. A path is a place in the document even if a column has
it for a key. -/
def symbol (scope : Scope) (field : String) : Except FilterError Symbol :=
  if isPath field then scope.context.pointer field
  else
    match scope.registry.get? field with
    | none => .error (.unknownField field)
    | some column => scope.context.column column.target

/-- The condition that an operator makes of a symbol and a row's first value. -/
def condition? (operator : RuleOperator) (target : Symbol) (value : Option Json) :
    Option Operation :=
  match operator with
  | .comparison op => (value.bind Atom.ofJson?).map (.comparison op target)
  | .equality op => (value.bind Atom.ofJson?).map (.equality op target)
  | .contains => (value.bind searchText?).map fun text => .contains target (.string text)
  | .nullCheck op => some (.nullCheck op target)
  | .emptiness op => some (.equality op target (.string ""))

/-- What a row comes to. -/
def buildRule (scope : Scope) (rule : Rule) : Except FilterError Built :=
  match rule.field with
  | none => .ok ⟨none, [.noField]⟩
  | some field =>
    match scope.symbol field with
    | .error error => .error error
    | .ok target =>
      match rule.operator.bind RuleOperator.ofName? with
      | none => .ok ⟨none, [.unusableOperator field rule.operator]⟩
      | some operator =>
        match condition? operator target rule.firstValue? with
        | none => .ok ⟨none, [.noValue field]⟩
        | some operation => .ok ⟨some operation, []⟩

/-- A group's conditions joined, and negated if the group is. -/
def join (op : LogicOperator) (negated : Bool) (operations : List Operation) :
    Option Operation :=
  (Operation.logic? op operations).map fun operation =>
    if negated then .negation operation else operation

mutual

/-- What a node at a depth comes to. -/
def buildAt (scope : Scope) (depth : Nat) (node : Node) : Except FilterError Built :=
  if scope.maxDepth < depth then .error (.tooDeep scope.maxDepth)
  else
    match node with
    | .unknown => .ok ⟨none, []⟩
    | .rule rule => scope.buildRule rule
    | .group conjunction negated children =>
      match LogicOperator.ofConjunction conjunction with
      | .error error => .error error
      | .ok op =>
        match buildAll scope (depth + 1) children with
        | .error error => .error error
        | .ok (operations, omitted) => .ok ⟨join op negated operations, omitted⟩

/-- The conditions that nodes at a depth come to, and the rows left out of them. -/
def buildAll (scope : Scope) (depth : Nat) (nodes : List Node) :
    Except FilterError (List Operation × List Omission) :=
  match nodes with
  | [] => .ok ([], [])
  | node :: rest =>
    match buildAt scope depth node with
    | .error error => .error error
    | .ok built =>
      match buildAll scope depth rest with
      | .error error => .error error
      | .ok (operations, omitted) =>
        .ok (built.filter.toList ++ operations, built.omitted ++ omitted)

end

/-- What a tree comes to. -/
def build (scope : Scope) (node : Node) : Except FilterError Built := scope.buildAt 0 node

/-- The filter of a tree; nothing if no condition is left. -/
def filter (scope : Scope) (node : Node) : Except FilterError (Option Operation) :=
  (scope.build node).map (·.filter)

/-- The filter of a JSON tree. -/
def filterOfJson (scope : Scope) (value : Json) : Except FilterError (Option Operation) :=
  scope.filter (Node.ofJson value)

end Scope

/-- What happened to a tree on its way to a filter. -/
inductive Event where
  | noticed (notice : Notice)
  | omitted (omission : Omission)

namespace Event

/-- The wording of an event. -/
def message : Event → String
  | .noticed notice => notice.message
  | .omitted omission => omission.message

/-- True of an event that a user should see. -/
def isWarning : Event → Bool
  | .noticed notice => notice.isWarning
  | .omitted _ => false

end Event

/-- The filter of a JSON tree with the log: all notices of reading it, and then the
rows left out of the filter, each in document order. -/
def Scope.run (scope : Scope) (value : Json) :
    Except FilterError (Option Operation × List Event) :=
  let (node, notices) := Node.read value
  match scope.build node with
  | .error error => .error error
  | .ok built => .ok (built.filter, notices.map .noticed ++ built.omitted.map .omitted)

end RowFilter
