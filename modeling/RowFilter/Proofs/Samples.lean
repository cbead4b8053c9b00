import RowFilter.Proofs.Node
import RowFilter.Source.Builtin

/-!
# Sources and rows that several examples share

The annotations of variables have columns and a document; a source with a document alone is
enough where only the shape of a tree matters. Rows on either are handed over as the query
builder does it:

> `ofJson_rowOf`: of such a row nothing is lost or added when it is read.
-/

namespace RowFilter

/-- A source with a document and no columns. -/
def Scope.documentOnly : Scope := ⟨⟨"config", [("config", .json)]⟩, ⟨[]⟩, defaultMaxDepth⟩

namespace Builtin

/-- What filters of the annotations are built for. -/
def annotationsScope : Scope :=
  ⟨variableAnnotations.context, ⟨variableAnnotations.columns⟩, defaultMaxDepth⟩

/-- A row as the query builder hands it over. -/
def rowOf (field operator : String) (value : Json) : Json :=
  .object [("type", .string "rule"), ("properties", .object
    [("field", .string field), ("operator", .string operator), ("value", .array [value])])]

/-- The node of such a row. -/
@[simp] theorem ofJson_rowOf (field operator : String) (value : Json) :
    Node.ofJson (rowOf field operator value)
      = .rule ⟨some field, some operator, [value]⟩ := Node.ofJson_rule rfl

/-- One half. -/
def half : Json := .number (.double ⟨0x3FE0000000000000⟩ (by decide))

/-- A negated group of a row on a column and one on a place in the document. -/
def titleQuery : Json :=
  .object [("type", .string "group"), ("properties", .object [("not", .bool true)]),
    ("children1", .array [rowOf "name" "like" (.string "gdp"), rowOf "/title" "is_null" .null])]

/-- The filter of that group. -/
def titleFilter : Operation :=
  .negation (.logic .and (.contains (.column "variables.name") (.string "gdp"))
    [.nullCheck .isNull (.pointer "grapherConfig" "/title")])

end Builtin

end RowFilter
