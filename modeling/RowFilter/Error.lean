import RowFilter.Decimal.Layout

/-!
# Why no filter can be built

Each way in which building a filter can fail is a constructor that carries what
was at fault; `message` is its wording.

These are the fatal conditions of the specification (section 7).
-/

namespace RowFilter

/-- The ways in which building a filter fails. -/
inductive FilterError where
  /-- A field is neither a path into the document nor a column's key. -/
  | unknownField (field : String)
  /-- A column is not among those a filter may name. -/
  | columnNotWhitelisted (column : String)
  /-- The document's column is not among those a filter may name, or not as JSON. -/
  | documentFieldNotJson (column : String)
  /-- A group joins its children by something other than AND or OR. -/
  | unknownConjunction (text : String)
  /-- A node lies deeper in its tree than the bound. -/
  | tooDeep (bound : Nat)
  /-- A number has no decimal form. -/
  | nonFiniteNumber (value : Binary64)
  deriving DecidableEq, Repr

/-- The wording of an error. -/
def FilterError.message : FilterError → String
  | .unknownField field =>
    "field '" ++ field ++ "' is neither a config path nor a registered column"
  | .columnNotWhitelisted column =>
    "column '" ++ column ++ "' is not whitelisted for this source"
  | .documentFieldNotJson column =>
    "document field '" ++ column ++ "' is not whitelisted as a JSON column"
  | .unknownConjunction text => "unknown logic operator: " ++ text
  | .tooDeep bound => "filter tree is nested deeper than " ++ toString bound ++ " levels"
  | .nonFiniteNumber value =>
    "number atom must be finite, got "
      ++ String.ofList (Decimal.double Decimal.plain value)

end RowFilter
