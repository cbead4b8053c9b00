import RowFilter.Json.Printer
import RowFilter.Text.Visible

/-!
# Filter trees

The query builder hands over a JSON value, of which only some parts mean
anything. A `Node` keeps those parts: a group with its conjunction, its negation
and its children, or a rule with its field, its operator and its values. Children
come as the items of an array or as the members of an object whose keys are row
ids; both are one ordered list here.

> `Node.read`: the node that a JSON value stands for, and what was remarkable
> about it, in the order of the document.

No JSON value is refused. What is missing or malformed is absent, children of
any other shape are none at all, and a value of another type is `unknown`.

This is the external filter tree of the specification (section 3) with the normalization
of `children1` (section 4.3).
-/

namespace RowFilter

/-- A row of the query builder. -/
structure Rule where
  field : Option String
  operator : Option String
  value : List Json

/-- The first value of a row, unless the user has not entered one. -/
def Rule.firstValue? (rule : Rule) : Option Json :=
  match rule.value with
  | [] => none
  | first :: _ => if first.isNull then none else some first

/-- A tree of groups and rows. -/
inductive Node where
  | group (conjunction : Option String) (negated : Bool) (children : List Node)
  | rule (rule : Rule)
  /-- A value without a type, or of one that is neither group nor rule. -/
  | unknown

/-- Something remarkable about a JSON tree. -/
inductive Notice where
  /-- The children of a group are neither an array nor an object nor absent. -/
  | unexpectedChildren (content : Json)
  /-- A value is neither a group nor a rule. -/
  | unknownNode (type : Option String)

namespace Notice

/-- True of a notice that a user should see. -/
def isWarning : Notice → Bool
  | .unexpectedChildren _ => true
  | .unknownNode _ => false

/-- The wording of a notice. -/
def message : Notice → String
  | .unexpectedChildren content =>
    "Unexpected content of children1, treating as empty: " ++ content.text
  | .unknownNode type => "Ignoring filter node with type " ++ Text.Visible.optional type

end Notice

namespace Node

/-- A property of a node. -/
def property? (key : String) (value : Json) : Option Json :=
  (value.get? "properties").bind (·.get? key)

/-- The conjunction as given. One that is not a string is kept as JSON text, so
that it is refused later; `null` counts as absent. -/
def conjunctionText? : Json → Option String
  | .null => none
  | .string text => some text
  | other => some other.text

/-- The children of a group: the items of an array or the values of an object. -/
def childValues : Option Json → List Json
  | some (.array items) => items
  | some (.object members) => members.map (·.2)
  | _ => []

/-- The notice that children of a shape other than those deserve. -/
def childNotices : Option Json → List Notice
  | none | some .null | some (.array _) | some (.object _) => []
  | some other => [.unexpectedChildren other]

/-- The type that a value gives itself. -/
def type? (value : Json) : Option String := (value.get? "type").bind Json.string?

/-- The row that a JSON value of type rule stands for. -/
def ruleOf (value : Json) : Rule where
  field := (property? "field" value).bind Json.string?
  operator := (property? "operator" value).bind Json.string?
  value := ((property? "value" value).bind Json.items?).getD []

private theorem sizeOf_values_le (members : List (String × Json)) :
    sizeOf (members.map (·.2)) ≤ sizeOf members := by
  induction members with
  | nil => simp
  | cons member rest ih =>
    obtain ⟨key, value⟩ := member
    simp only [List.map_cons, List.cons.sizeOf_spec, Prod.mk.sizeOf_spec]
    omega

/-- Only objects have a type, and the children of an object are smaller than it. -/
theorem sizeOf_childValues {value : Json} {name : String} (key : String)
    (h : type? value = some name) : sizeOf (childValues (value.get? key)) < sizeOf value := by
  cases value with
  | object members =>
    cases hc : (Json.object members).get? key with
    | none =>
      cases members with
      | nil => simp [childValues]
      | cons head tail =>
        simp only [childValues, Json.object.sizeOf_spec, List.cons.sizeOf_spec,
          List.nil.sizeOf_spec]
        omega
    | some child =>
      have hlt := Json.sizeOf_get? hc
      cases child with
      | array items =>
        simp only [childValues, Json.array.sizeOf_spec] at hlt ⊢
        omega
      | object inner =>
        have := sizeOf_values_le inner
        simp only [childValues, Json.object.sizeOf_spec] at hlt ⊢
        omega
      | _ => simp [childValues] at hlt ⊢; omega
  | _ => simp [type?, Json.get?] at h

mutual

/-- The node that a JSON value stands for, with notices in document order. -/
def read (value : Json) : Node × List Notice :=
  if _isGroup : type? value = some "group" then
    let children := value.get? "children1"
    let (nodes, notices) := readAll (childValues children)
    (.group ((property? "conjunction" value).bind conjunctionText?)
      (((property? "not" value).bind Json.bool?).getD false) nodes,
      childNotices children ++ notices)
  else if type? value = some "rule" then (.rule (ruleOf value), [])
  else (.unknown, [.unknownNode (type? value)])
  termination_by sizeOf value
  decreasing_by exact sizeOf_childValues "children1" _isGroup

/-- The nodes that JSON values stand for, with notices in document order. -/
def readAll (values : List Json) : List Node × List Notice :=
  match values with
  | [] => ([], [])
  | value :: rest =>
    let (node, notices) := read value
    let (nodes, more) := readAll rest
    (node :: nodes, notices ++ more)
  termination_by sizeOf values

end

/-- The node that a JSON value stands for. -/
def ofJson (value : Json) : Node := (read value).1

end Node

end RowFilter
