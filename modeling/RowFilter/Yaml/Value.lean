import RowFilter.Keyed
import RowFilter.Yaml.Node
import RowFilter.Yaml.Tag

/-!
# Values of YAML

A node becomes a value: scalars are read by their looks or their tags, and the use of
a name becomes the value that has the name. A name can be given again and then means
the later part; inside the very part that it names it means nothing yet.

> `Document.value?`: the value of a document, if its names and handles are known and
> no mapping has a key twice.

A scalar that is not what its tag says is no value. A mapping passes over it where a
key is due, and the part behind it becomes the key instead.
-/

namespace RowFilter.Yaml

/-- The value of a node. -/
inductive Value where
  /-- A scalar that is not what its tag says, or a name inside the part it names. -/
  | unfit
  | null
  | bool (value : Bool)
  | integer (n : Int)
  /-- A decimal as it was written. -/
  | real (text : List Char)
  | text (text : List Char)
  | list (items : List Value)
  | table (members : List (Value × Value))
  deriving Repr

namespace Value

/-- True of what is no value. -/
def isUnfit : Value → Bool
  | .unfit => true
  | _ => false

mutual

/-- True of equal values. A decimal equals one that is written alike. -/
def same : Value → Value → Bool
  | .unfit, .unfit => true
  | .null, .null => true
  | .bool a, .bool b => a == b
  | .integer m, .integer n => m == n
  | .real a, .real b => a == b
  | .text a, .text b => a == b
  | .list a, .list b => sameItems a b
  | .table a, .table b => sameMembers a b
  | _, _ => false

/-- True of equal values in equal order. -/
def sameItems : List Value → List Value → Bool
  | [], [] => true
  | a :: as, b :: bs => same a b && sameItems as bs
  | _, _ => false

/-- True of equal members in equal order. -/
def sameMembers : List (Value × Value) → List (Value × Value) → Bool
  | [], [] => true
  | (k, a) :: as, (l, b) :: bs => same k l && same a b && sameMembers as bs
  | _, _ => false

end

/-- The value of a scalar of a kind. -/
def ofKind (text : List Char) : Kind → Value
  | .null => .null
  | .bool value => .bool value
  | .integer n => .integer n
  | .real => .real text
  | .text => .text text

/-- The members that parts in a row make, key and value in turn, behind those made
before. A key that is there already is refused, and one without a value is dropped. -/
def pairUp (members : List (Value × Value)) (key : Option Value) :
    List Value → Option (List (Value × Value))
  | [] => some members
  | part :: rest =>
    match key with
    | none => pairUp members (if part.isUnfit then none else some part) rest
    | some key =>
      if members.any fun member => key.same member.1 then none
      else pairUp (members ++ [(key, part)]) none rest

end Value

/-! ## Tags -/

/-- The kinds that every document knows. -/
def commonHandle : String := "tag:yaml.org,2002:"

/-- What the handle of a tag means under the directives of its document. A handle
between exclamation marks has to be known. -/
def Tag.meaning? (handles : List (String × String)) (tag : Tag) : Option String :=
  match Keyed.get? tag.handle handles with
  | some meaning => some meaning
  | none =>
    if tag.handle = "!!" then some commonHandle
    else if isClosedHandle tag.handle.toList then none
    else some tag.handle

/-- True of tags with a known handle and of no tag. -/
def Properties.isKnown (handles : List (String × String)) (properties : Properties) : Bool :=
  properties.tag.all fun tag => (tag.meaning? handles).isSome

/-- The value of a scalar with the tag it was given. -/
def Scalar.value (handles : List (String × String)) (tag : Option Tag) (scalar : Scalar) : Value :=
  let kind :=
    match tag with
    | none => some scalar.kind
    | some tag =>
      if tag.meaning? handles = some commonHandle then scalar.kindAs? tag.suffix else some .text
  match kind with
  | some kind => .ofKind scalar.text kind
  | none => .unfit

/-! ## Names -/

/-- The names given so far, the last one last, with the values of the parts that are
complete. -/
abbrev Names := Array (String × Option Value)

/-- Gives a name, if there is one, to a part that is not complete. -/
def Names.declare (names : Names) : Option String → Names
  | none => names
  | some name => names.push (name, none)

/-- Completes the part that was given a name when there were `count` names. -/
def Names.complete (names : Names) (count : Nat) (value : Value) : Option String → Names
  | none => names
  | some name => names.setIfInBounds count (name, some value)

/-- What a name means. -/
def Names.get? (names : Names) (name : String) : Option Value :=
  (names.toList.reverse.find? (·.1 = name)).map fun entry => entry.2.getD .unfit

/-! ## Nodes -/

mutual

/-- The value of a node, and the names given up to its end. -/
def Node.value? (handles : List (String × String)) (names : Names) :
    Node → Option (Value × Names)
  | .reference name => (names.get? name).map (·, names)
  | .scalar properties scalar =>
    if properties.isKnown handles then
      let value := scalar.value handles properties.tag
      some (value, (names.declare properties.anchor).complete names.size value properties.anchor)
    else none
  | .sequence properties items =>
    if properties.isKnown handles then
      match itemValues? handles (names.declare properties.anchor) items with
      | none => none
      | some (values, later) =>
        some (.list values, later.complete names.size (.list values) properties.anchor)
    else none
  | .mapping properties members =>
    if properties.isKnown handles then
      match memberValues? handles (names.declare properties.anchor) members with
      | none => none
      | some (parts, later) =>
        match Value.pairUp [] none parts with
        | none => none
        | some pairs =>
          some (.table pairs, later.complete names.size (.table pairs) properties.anchor)
    else none

/-- The values of items. -/
def itemValues? (handles : List (String × String)) (names : Names) :
    List Node → Option (List Value × Names)
  | [] => some ([], names)
  | item :: rest =>
    match item.value? handles names with
    | none => none
    | some (value, names) =>
      match itemValues? handles names rest with
      | none => none
      | some (values, names) => some (value :: values, names)

/-- The values of keys and values in turn. -/
def memberValues? (handles : List (String × String)) (names : Names) :
    List (Node × Node) → Option (List Value × Names)
  | [] => some ([], names)
  | (key, item) :: rest =>
    match key.value? handles names with
    | none => none
    | some (first, names) =>
      match item.value? handles names with
      | none => none
      | some (second, names) =>
        match memberValues? handles names rest with
        | none => none
        | some (values, names) => some (first :: second :: values, names)

end

/-- The value of a document. -/
def Document.value? (document : Document) : Option Value :=
  (document.root.value? document.handles #[]).map (·.1)

end RowFilter.Yaml
