import RowFilter.Decimal.Binary64
import RowFilter.Keyed

/-!
# JSON values

A number is kept the way it was spelled: an integer literal between `-2^63` and
`2^64` exactly, and every other literal as a finite double. The members of an
object keep the order of the document.

> `depth`: the greatest number of arrays and objects around any part of a value,
> counting itself; zero for a scalar.
-/

namespace RowFilter

/-- A JSON number: an integer in the range of 64-bit words, signed or unsigned, or
a finite double. -/
inductive Json.Number where
  | integer (n : Int) (inRange : -0x8000000000000000 ≤ n ∧ n < 0x10000000000000000)
  | double (x : Binary64) (finite : x.isFinite = true)
  deriving DecidableEq, Repr

namespace Json.Number

/-- The signed word of the same number. -/
def signed? : Number → Option Int64
  | .integer n _ => if n < 0x8000000000000000 then some (.ofInt n) else none
  | .double .. => none

/-- The unsigned word of the same number. -/
def unsigned? : Number → Option UInt64
  | .integer n _ => if 0 ≤ n then some (.ofNat n.toNat) else none
  | .double .. => none

/-- The double nearest to a number. -/
def toDouble : Number → Binary64
  | .integer n _ => .ofInt n
  | .double x _ => x

end Json.Number

/-- A JSON value. -/
inductive Json where
  | null
  | bool (value : Bool)
  | number (value : Json.Number)
  | string (value : String)
  | array (items : List Json)
  | object (members : List (String × Json))
  deriving Repr

namespace Json

/-- The member of an object under a key; other values have no members. -/
def get? (key : String) : Json → Option Json
  | .object members => Keyed.get? key members
  | _ => none

/-- The text of a string. -/
def string? : Json → Option String
  | .string value => some value
  | _ => none

/-- The truth value of a boolean. -/
def bool? : Json → Option Bool
  | .bool value => some value
  | _ => none

/-- The items of an array. -/
def items? : Json → Option (List Json)
  | .array items => some items
  | _ => none

/-- True of `null` only. -/
def isNull : Json → Bool
  | .null => true
  | _ => false

/-- The natural number that fits an unsigned 64-bit word. -/
def natural? : Json → Option Nat
  | .number (.integer (.ofNat n) _) => some n
  | _ => none

mutual

/-- How deep arrays and objects are nested in a value. -/
def depth : Json → Nat
  | .array items => depthOfItems items + 1
  | .object members => depthOfMembers members + 1
  | _ => 0

/-- The depth of the deepest item. -/
def depthOfItems : List Json → Nat
  | [] => 0
  | item :: rest => max item.depth (depthOfItems rest)

/-- The depth of the deepest member. -/
def depthOfMembers : List (String × Json) → Nat
  | [] => 0
  | (_, value) :: rest => max value.depth (depthOfMembers rest)

end

/-- A member is smaller than its object. -/
theorem sizeOf_get? {key : String} {value member : Json} (h : value.get? key = some member) :
    sizeOf member < sizeOf value := by
  cases value with
  | object members =>
    have hm := Keyed.mem_of_get? h
    have := List.sizeOf_lt_of_mem hm
    simp only [Json.object.sizeOf_spec, Prod.mk.sizeOf_spec] at this ⊢
    omega
  | _ => simp [get?] at h

end Json

end RowFilter
