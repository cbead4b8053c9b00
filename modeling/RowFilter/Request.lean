import RowFilter.Grammar.Render
import RowFilter.Source.Compile
import RowFilter.Text.Percent

/-!
# Requests for rows

A request asks an endpoint for one page of the rows that a filter lets through.
Its query string has at most two parameters, joined by an ampersand:

> `filter=` and the percent-encoded text of the filter, if there is one;
> `offset=` and the number of rows to skip, in decimal.

These are the query parameters of the specification (section 4.6).
-/

namespace RowFilter

/-- How many rows an endpoint serves at once. -/
def pageSize : Nat := 50

/-- The number of rows in front of a page, pages counted from zero. It stays within
an unsigned 64-bit word. -/
def offsetOfPage (page : Nat) : Nat := min (page * pageSize) 0xFFFFFFFFFFFFFFFF

/-- What a request asks for. -/
structure Request where
  filter : Option Operation
  offset : Nat

namespace Request

/-- The parameters of a request. -/
def queryChars (request : Request) : List Char :=
  let offset := "offset=".toList ++ Decimal.natural request.offset
  match request.filter with
  | none => offset
  | some operation =>
    "filter=".toList ++ Text.Percent.encode operation.text ++ '&' :: offset

/-- The query string of a request. -/
def query (request : Request) : String := String.ofList request.queryChars

/-- The path of a request to a source's endpoint. -/
def path (request : Request) (source : DataSource) : String :=
  source.endpoint ++ "?" ++ request.query

end Request

end RowFilter
