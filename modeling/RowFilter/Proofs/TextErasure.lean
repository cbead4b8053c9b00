import RowFilter.Proofs.Keyed
import RowFilter.Proofs.Node
import RowFilter.Source.Config

/-!
# Trees without the texts that a user types

A user types two kinds of text into a tree: the first value of a row, and what stands
behind the slash of a path. `Json.withoutTexts` is a tree with both kinds emptied and all
else as it is. Two trees that differ in such texts only are the same without them.

> `ofJson_withoutTexts`: the node of a tree without texts is its node without texts.
-/

namespace RowFilter

/-! ## Trees without their texts -/

/-- A field, of which a path loses all but its slash. -/
def bareField (field : String) : String := if isPath field then "/" else field

namespace Json

/-- Changes the member of an object under a key. -/
def mapAt (key : String) (change : Json → Json) : Json → Json
  | .object members => .object (Keyed.mapAt key change members)
  | other => other

/-- A value, of which a text is emptied. -/
def withoutText : Json → Json
  | .string _ => .string ""
  | other => other

/-- Values, of which the first is emptied if it is a text. -/
def withoutFirstText : List Json → List Json
  | [] => []
  | first :: rest => first.withoutText :: rest

/-- The field of a row, of which a path loses all but its slash. -/
def withoutPath : Json → Json
  | .string field => .string (bareField field)
  | other => other

/-- The values of a row, of which the first is emptied if it is a text. -/
def withoutValue : Json → Json
  | .array items => .array (withoutFirstText items)
  | other => other

/-- A row without the texts that a user types. -/
def rowWithoutTexts (row : Json) : Json :=
  row.mapAt "properties" fun properties =>
    (properties.mapAt "field" withoutPath).mapAt "value" withoutValue

mutual

/-- A tree without the texts that a user types into its rows. -/
def withoutTexts : Json → Json
  | .object members =>
    if Node.type? (.object members) = some "group" then .object (membersWithoutTexts members)
    else if Node.type? (.object members) = some "rule" then rowWithoutTexts (.object members)
    else .object members
  | other => other

/-- The members of a group, the children without texts. -/
def membersWithoutTexts : List (String × Json) → List (String × Json)
  | [] => []
  | (key, value) :: rest =>
    (key, if key = "children1" then childrenWithoutTexts value else value)
      :: membersWithoutTexts rest

/-- The children of a group without texts. -/
def childrenWithoutTexts : Json → Json
  | .array items => .array (itemsWithoutTexts items)
  | .object members => .object (valuesWithoutTexts members)
  | other => other

/-- The items of an array without texts. -/
def itemsWithoutTexts : List Json → List Json
  | [] => []
  | item :: rest => withoutTexts item :: itemsWithoutTexts rest

/-- The values of an object without texts. -/
def valuesWithoutTexts : List (String × Json) → List (String × Json)
  | [] => []
  | (key, value) :: rest => (key, withoutTexts value) :: valuesWithoutTexts rest

end

theorem get?_mapAt_self (key : String) (change : Json → Json) (value : Json) :
    (value.mapAt key change).get? key = (value.get? key).map change := by
  cases value with
  | object members => exact Keyed.get?_mapAt_self key change members
  | _ => rfl

theorem get?_mapAt_of_ne {key other : String} (h : other ≠ key) (change : Json → Json)
    (value : Json) : (value.mapAt key change).get? other = value.get? other := by
  cases value with
  | object members => exact Keyed.get?_mapAt_of_ne h change members
  | _ => rfl

theorem membersWithoutTexts_eq : ∀ members : List (String × Json),
    membersWithoutTexts members = Keyed.mapAt "children1" childrenWithoutTexts members
  | [] => by rw [membersWithoutTexts, Keyed.mapAt]
  | (key, value) :: rest => by
    rw [membersWithoutTexts, Keyed.mapAt, membersWithoutTexts_eq rest]

theorem itemsWithoutTexts_eq : ∀ items : List Json,
    itemsWithoutTexts items = items.map withoutTexts
  | [] => by rw [itemsWithoutTexts]; rfl
  | item :: rest => by rw [itemsWithoutTexts, itemsWithoutTexts_eq rest]; rfl

theorem valuesWithoutTexts_eq : ∀ members : List (String × Json),
    (valuesWithoutTexts members).map (·.2) = (members.map (·.2)).map withoutTexts
  | [] => by rw [valuesWithoutTexts]; rfl
  | (key, value) :: rest => by
    rw [valuesWithoutTexts, List.map_cons, valuesWithoutTexts_eq rest]; rfl

/-- A group without texts is the group with children without texts. -/
theorem withoutTexts_group {value : Json} (h : Node.type? value = some "group") :
    value.withoutTexts = value.mapAt "children1" childrenWithoutTexts := by
  cases value with
  | object members =>
    rw [withoutTexts, if_pos h, membersWithoutTexts_eq]
    rfl
  | _ => exact absurd h (by simp [Node.type?, get?])

theorem withoutTexts_rule {value : Json} (h : Node.type? value = some "rule") :
    value.withoutTexts = rowWithoutTexts value := by
  cases value with
  | object members =>
    have hg := Node.ne_group_of_rule h
    rw [withoutTexts, if_neg hg, if_pos h]
  | _ => exact absurd h (by simp [Node.type?, get?])

/-- What is neither a group nor a row keeps all its texts. -/
theorem withoutTexts_unknown {value : Json} (hg : Node.type? value ≠ some "group")
    (hr : Node.type? value ≠ some "rule") : value.withoutTexts = value := by
  cases value with
  | object members => rw [withoutTexts, if_neg hg, if_neg hr]
  | _ => rfl

/-- Emptying texts does not change what a value says it is. -/
theorem type?_withoutTexts (value : Json) : Node.type? value.withoutTexts = Node.type? value := by
  by_cases hg : Node.type? value = some "group"
  · rw [withoutTexts_group hg, Node.type?, get?_mapAt_of_ne (by decide)]
    rfl
  · by_cases hr : Node.type? value = some "rule"
    · rw [withoutTexts_rule hr, Node.type?, rowWithoutTexts, get?_mapAt_of_ne (by decide)]
      rfl
    · rw [withoutTexts_unknown hg hr]

end Json

/-! ## Nodes without their texts -/

/-- A row without the texts that a user types. -/
def Rule.withoutTexts (rule : Rule) : Rule where
  field := rule.field.map bareField
  operator := rule.operator
  value := Json.withoutFirstText rule.value

/-- What a user has entered is still entered, and only a text among it is emptied. -/
theorem Rule.firstValue?_withoutTexts (rule : Rule) :
    rule.withoutTexts.firstValue? = rule.firstValue?.map Json.withoutText := by
  unfold firstValue? withoutTexts
  cases rule.value with
  | nil => rfl
  | cons first rest => cases first <;> rfl

namespace Node

mutual

/-- A tree without the texts that a user types into its rows. -/
def withoutTexts : Node → Node
  | .group conjunction negated children =>
    .group conjunction negated (allWithoutTexts children)
  | .rule row => .rule row.withoutTexts
  | .unknown => .unknown

/-- Trees without the texts that a user types into their rows. -/
def allWithoutTexts : List Node → List Node
  | [] => []
  | node :: rest => withoutTexts node :: allWithoutTexts rest

end

theorem allWithoutTexts_eq : ∀ nodes : List Node, allWithoutTexts nodes = nodes.map withoutTexts
  | [] => by rw [allWithoutTexts]; rfl
  | node :: rest => by rw [allWithoutTexts, allWithoutTexts_eq rest]; rfl

theorem children_withoutTexts {value : Json} (h : type? value = some "group") :
    children value.withoutTexts = (children value).map Json.withoutTexts := by
  unfold children
  rw [Json.withoutTexts_group h, Json.get?_mapAt_self]
  cases value.get? "children1" with
  | none => rfl
  | some content =>
    cases content with
    | array items =>
      show childValues (some (Json.childrenWithoutTexts (.array items))) = _
      rw [Json.childrenWithoutTexts, Json.itemsWithoutTexts_eq]
      rfl
    | object members =>
      show childValues (some (Json.childrenWithoutTexts (.object members))) = _
      rw [Json.childrenWithoutTexts]
      exact Json.valuesWithoutTexts_eq members
    | _ => rfl

/-- Emptying texts changes no property of a group. -/
theorem property?_withoutTexts_group {value : Json} (h : type? value = some "group")
    (key : String) : property? key value.withoutTexts = property? key value := by
  unfold property?
  rw [Json.withoutTexts_group h, Json.get?_mapAt_of_ne (by decide)]

/-- Changing the properties of a row changes each property accordingly. -/
theorem property?_mapAt_properties {change : Json → Json} {after : Option Json → Option Json}
    {key : String} (h : ∀ properties : Json, (change properties).get? key
      = after (properties.get? key)) (hnone : after none = none) (row : Json) :
    property? key (row.mapAt "properties" change) = after (property? key row) := by
  unfold property?
  rw [Json.get?_mapAt_self]
  cases row.get? "properties" with
  | none => exact hnone.symm
  | some properties => exact h properties

theorem property?_field_rowWithoutTexts (row : Json) :
    property? "field" (Json.rowWithoutTexts row)
      = (property? "field" row).map Json.withoutPath := by
  refine property?_mapAt_properties (fun properties => ?_) rfl row
  rw [Json.get?_mapAt_of_ne (by decide), Json.get?_mapAt_self]

theorem property?_operator_rowWithoutTexts (row : Json) :
    property? "operator" (Json.rowWithoutTexts row) = property? "operator" row := by
  show _ = id (property? "operator" row)
  refine property?_mapAt_properties (fun properties => ?_) rfl row
  rw [Json.get?_mapAt_of_ne (by decide), Json.get?_mapAt_of_ne (by decide)]
  rfl

theorem property?_value_rowWithoutTexts (row : Json) :
    property? "value" (Json.rowWithoutTexts row)
      = (property? "value" row).map Json.withoutValue := by
  refine property?_mapAt_properties (fun properties => ?_) rfl row
  rw [Json.get?_mapAt_self, Json.get?_mapAt_of_ne (by decide)]

/-- The row of a value without texts is its row without texts. -/
theorem ruleOf_rowWithoutTexts (row : Json) :
    ruleOf (Json.rowWithoutTexts row) = (ruleOf row).withoutTexts := by
  have field : ((property? "field" row).map Json.withoutPath).bind Json.string?
      = ((property? "field" row).bind Json.string?).map bareField := by
    cases property? "field" row with
    | none => rfl
    | some content => cases content <;> rfl
  have values : (((property? "value" row).map Json.withoutValue).bind Json.items?).getD []
      = Json.withoutFirstText (((property? "value" row).bind Json.items?).getD []) := by
    cases property? "value" row with
    | none => rfl
    | some content => cases content <;> rfl
  unfold ruleOf Rule.withoutTexts
  rw [property?_field_rowWithoutTexts, property?_operator_rowWithoutTexts,
    property?_value_rowWithoutTexts, field, values]

/-- Reading a tree commutes with emptying its texts. -/
theorem ofJson_withoutTexts (value : Json) :
    ofJson value.withoutTexts = (ofJson value).withoutTexts := by
  induction value using ofJson_induction with
  | group value h ih =>
    have hw : type? value.withoutTexts = some "group" := by rw [Json.type?_withoutTexts, h]
    -- conjunction and negation are kept, so only the children are left to compare
    rw [ofJson_group hw, ofJson_group h, withoutTexts, allWithoutTexts_eq,
      property?_withoutTexts_group h, property?_withoutTexts_group h, children_withoutTexts h,
      List.map_map, List.map_map]
    exact congrArg _ (List.map_congr_left ih)
  | rule value h =>
    have hw : type? value.withoutTexts = some "rule" := by rw [Json.type?_withoutTexts, h]
    rw [ofJson_rule hw, ofJson_rule h, withoutTexts, Json.withoutTexts_rule h,
      ruleOf_rowWithoutTexts]
  | unknown value hg hr =>
    rw [Json.withoutTexts_unknown hg hr, ofJson_unknown hg hr, withoutTexts]

end Node

end RowFilter
