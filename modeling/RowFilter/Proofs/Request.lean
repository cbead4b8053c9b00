import RowFilter.Proofs.Decimal.Plain
import RowFilter.Proofs.Text.Percent
import RowFilter.Request
import RowFilter.Source.Builtin

/-!
# A request can be taken apart

Percent encoding leaves nothing in a value that has a meaning in a query string, so the
ampersand, the equals sign and the question mark stand only where the request puts them.

> `query_parameters`: cut at ampersands, a query string is its parameters;
> `mem_query`: the characters of a query string;
> `taken_apart`: the endpoint, the filter's text and the offset are read back from a path.
-/

namespace RowFilter.Request

open Text

/-- The parameter with the filter. -/
def filterParameter (operation : Operation) : List Char :=
  "filter=".toList ++ Percent.encode operation.text

/-- The parameter with the offset. -/
def offsetParameter (offset : Nat) : List Char := "offset=".toList ++ Decimal.natural offset

/-- True of the characters of a query string. -/
def isQueryChar (c : Char) : Bool := Percent.isEncoded c || c == '=' || c == '&'

theorem isQueryChar_iff {c : Char} :
    isQueryChar c = true ↔ c.isAlphanum = true ∨ c ∈ "-_.~%=&".toList := by
  simp [isQueryChar, Percent.isEncoded, or_assoc]

/-! ## Parameters -/

/-- A parameter with an encoded value has no ampersand. -/
theorem mem_parameter {name value : List Char} {c : Char}
    (hname : (name.all fun c => isQueryChar c && c != '&') = true)
    (hvalue : ∀ c ∈ value, Percent.isEncoded c = true) (h : c ∈ name ++ value) :
    isQueryChar c = true ∧ c ≠ '&' := by
  rcases List.mem_append.mp h with h | h
  · simpa using List.all_eq_true.mp hname c h
  · have hc : Percent.isEncoded c = true := hvalue c h
    refine ⟨by rw [isQueryChar, hc]; rfl, ?_⟩
    rintro rfl
    exact absurd hc (by decide)

theorem mem_filterParameter {operation : Operation} {c : Char}
    (h : c ∈ filterParameter operation) : isQueryChar c = true ∧ c ≠ '&' :=
  mem_parameter (by decide) (fun _ hc => Percent.mem_encode hc) h

theorem mem_offsetParameter {offset : Nat} {c : Char} (h : c ∈ offsetParameter offset) :
    isQueryChar c = true ∧ c ≠ '&' := by
  refine mem_parameter (by decide) (fun d hd => ?_) h
  have hdigit : d.isDigit = true :=
    (Decimal.isDigits_iff.mp (Decimal.isDigits_natural offset)).2 d hd
  rw [Percent.isEncoded, Char.isAlphanum, hdigit, Bool.or_true, Bool.true_or]

variable (request : Request)

/-- Cut at ampersands, a query string is the filter's parameter, if there is a filter, and
the parameter with the offset. -/
theorem query_parameters :
    request.query.toList.splitOn '&'
      = (request.filter.map filterParameter).toList ++ [offsetParameter request.offset] := by
  have hoffset : '&' ∉ offsetParameter request.offset :=
    fun h => (mem_offsetParameter h).2 rfl
  rw [query, String.toList_ofList, queryChars]
  cases request.filter with
  | none => exact List.splitOn_eq_singleton hoffset
  | some operation =>
    have hfilter : '&' ∉ filterParameter operation := fun h => (mem_filterParameter h).2 rfl
    show (filterParameter operation ++ '&' :: offsetParameter request.offset).splitOn '&' = _
    rw [List.splitOn_append_cons_self_of_not_mem hfilter, List.splitOn_eq_singleton hoffset]
    rfl

/-- A query string is letters, digits, the marks of an encoded text, and what joins names,
values and parameters. -/
theorem mem_query {c : Char} (h : c ∈ request.query.toList) : isQueryChar c = true := by
  rw [query, String.toList_ofList, queryChars] at h
  cases hfilter : request.filter with
  | none =>
    rw [hfilter] at h
    exact (mem_offsetParameter h).1
  | some operation =>
    rw [hfilter] at h
    rcases List.mem_append.mp h with h | h
    · exact (mem_filterParameter h).1
    · rcases List.mem_cons.mp h with rfl | h
      · decide
      · exact (mem_offsetParameter h).1

/-- Different texts give different parameters. -/
theorem text_eq_of_filterParameter {left right : Operation}
    (h : filterParameter left = filterParameter right) : left.text = right.text := by
  have hencoded := congrArg Percent.decode? (List.append_cancel_left h)
  rw [Percent.decode?_encode, Percent.decode?_encode] at hencoded
  exact Option.some.inj hencoded

/-- Different offsets give different parameters. -/
theorem offset_eq_of_offsetParameter {left right : Nat}
    (h : offsetParameter left = offsetParameter right) : left = right := by
  have hdigits := congrArg (Decimal.naturalIn? 10) (List.append_cancel_left h)
  rw [Decimal.naturalIn?_natural, Decimal.naturalIn?_natural] at hdigits
  exact Option.some.inj hdigits

/-- Requests with the same query string ask for the same. -/
theorem eq_of_query_eq {request other : Request} (h : other.query = request.query) :
    other.offset = request.offset ∧
      other.filter.map Operation.text = request.filter.map Operation.text := by
  have hparameters := congrArg (fun text : String => text.toList.splitOn '&') h
  simp only [query_parameters] at hparameters
  obtain ⟨hfilter, hoffset⟩ := List.append_inj' hparameters rfl
  refine ⟨offset_eq_of_offsetParameter (List.singleton_inj.mp hoffset), ?_⟩
  cases hother : other.filter with
  | none =>
    cases hrequest : request.filter with
    | none => rfl
    | some operation => simp [hother, hrequest] at hfilter
  | some left =>
    cases hrequest : request.filter with
    | none => simp [hother, hrequest] at hfilter
    | some right =>
      rw [hother, hrequest] at hfilter
      have htext := text_eq_of_filterParameter (List.singleton_inj.mp hfilter)
      rw [Option.map_some, Option.map_some, htext]

/-- **A request can be taken apart.** In front of the first question mark of a path stands
the endpoint, and behind it the query string. Cut at ampersands that is the offset alone
without a filter, and else the filter and the offset. The filter's value is the percent
encoding of the filter's text as UTF-8, and the offset's value its decimal digits. The query
string has only ASCII letters, digits and the characters `-_.~%=&`. So requests with the
same query string have the same offset, and filters with the same text or none. -/
theorem taken_apart {source : DataSource} (h : '?' ∉ source.endpoint.toList) :
    (request.path source).toList.takeWhile (· != '?') = source.endpoint.toList ∧
    (request.path source).toList.dropWhile (· != '?') = '?' :: request.query.toList ∧
    (∃ digits, Decimal.naturalIn? 10 digits = some request.offset ∧
      match request.filter with
      | none => request.query.toList.splitOn '&' = ["offset=".toList ++ digits]
      | some operation =>
        ∃ value, Percent.decode? value = some operation.text ∧
          request.query.toList.splitOn '&'
            = ["filter=".toList ++ value, "offset=".toList ++ digits]) ∧
    (∀ c ∈ request.query.toList, c.isAlphanum = true ∨ c ∈ "-_.~%=&".toList) ∧
    ∀ other : Request, other.query = request.query →
      other.offset = request.offset ∧
        other.filter.map Operation.text = request.filter.map Operation.text := by
  have hpath : (request.path source).toList
      = source.endpoint.toList ++ '?' :: request.query.toList := by
    rw [path, String.toList_append, String.toList_append, List.append_assoc]
    rfl
  have hrun : ∀ c ∈ source.endpoint.toList, (c != '?') = true := by
    intro c hc
    exact bne_iff_ne.mpr fun he => h (he ▸ hc)
  have hstop : ∀ c ∈ ('?' :: request.query.toList).head?, (c != '?') = false := by
    intro c hc
    obtain rfl := Option.some.inj hc
    rfl
  obtain ⟨hfront, hback⟩ := run_append hrun hstop
  rw [hpath]
  refine ⟨hfront, hback, ⟨_, Decimal.naturalIn?_natural request.offset, ?_⟩,
    fun c hc => isQueryChar_iff.mp (request.mem_query hc), fun _ => eq_of_query_eq⟩
  have hparameters := request.query_parameters
  cases hfilter : request.filter with
  | none =>
    rw [hfilter] at hparameters
    exact hparameters
  | some operation =>
    rw [hfilter] at hparameters
    exact ⟨_, Percent.decode?_encode _, hparameters⟩

/-- A request with a filter for a text that has all the marks of a query string. -/
def markedRequest : Request :=
  ⟨some (.contains (.column "name") (.string "a&b=50% ü+?")), 50⟩

/-- The request is sent to the endpoint of the charts, and the text comes out again. -/
theorem markedRequest_taken_apart :
    ∃ source, Builtin.charts.compile "charts" = .ok source ∧ '?' ∉ source.endpoint.toList ∧
      (markedRequest.path source).toList.takeWhile (· != '?') = "/api/chart-bulk-update".toList ∧
      ∃ digits value, Decimal.naturalIn? 10 digits = some 50 ∧
        Percent.decode? value = some "(CONTAINS name \"a&b=50% ü+?\")" ∧
        markedRequest.query.toList.splitOn '&'
          = ["filter=".toList ++ value, "offset=".toList ++ digits] := by
  obtain ⟨source, hcompile, hendpoint⟩ : ∃ source, Builtin.charts.compile "charts" = .ok source ∧
      source.endpoint = "/api/chart-bulk-update" := ⟨_, rfl, rfl⟩
  have hmark : '?' ∉ source.endpoint.toList := by
    rw [hendpoint]
    decide
  obtain ⟨hfront, -, ⟨digits, hdigits, value, hvalue, hcut⟩, -, -⟩ :=
    markedRequest.taken_apart hmark
  rw [hendpoint] at hfront
  have htext : (Operation.contains (.column "name") (.string "a&b=50% ü+?")).text
      = "(CONTAINS name \"a&b=50% ü+?\")" := by decide
  rw [htext] at hvalue
  exact ⟨source, hcompile, hmark, hfront, digits, value, hdigits, hvalue, hcut⟩

end RowFilter.Request
