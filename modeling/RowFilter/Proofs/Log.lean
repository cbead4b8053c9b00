import RowFilter.Proofs.Faults
import RowFilter.Proofs.Rows

/-!
# Every row is accounted for

A row of a tree either makes a condition of its filter or stands in the log. Reading the
tree leaves a line for each group whose children cannot be read and for each node of a type
that is not known, and building the filter one for each row that makes no condition.

> `readingLines_eq`, `invariant_droppingLines`: these lines, from the tree's values and from its
> rows one by one;
> `rows_accounted_for`: there are no others, those of reading come first, and there are as
> many rows as conditions and lines that say that a row is dropped.

The lines are compared by urgency and wording, so a row counts as dropped only if its line
says so.
-/

namespace RowFilter

/-- A line of the log. -/
structure LogLine where
  /-- True of a line that a user should see. -/
  isWarning : Bool
  wording : String
  deriving DecidableEq, Repr

namespace LogLine

/-- True of a line that says that a row is dropped. -/
def saysDropping (line : LogLine) : Bool :=
  "Dropping rule".toList.isPrefixOf line.wording.toList

end LogLine

/-- The line that an event leaves. -/
def Event.line (event : Event) : LogLine := ⟨event.isWarning, event.message⟩

/-- True of a string, a number or a truth value: what can be no children of a group, and is
not `null` either. -/
def Json.isScalar : Json → Bool
  | .string _ | .number _ | .bool _ => true
  | _ => false

/-- What the log says of a JSON value when its tree is read, whatever is below it. -/
def Node.remark? (value : Json) : Option LogLine :=
  if type? value = some "group" then
    (value.get? "children1").bind fun content =>
      if content.isScalar then
        some ⟨true, "Unexpected content of children1, treating as empty: " ++ content.text⟩
      else none
  else if type? value = some "rule" then none
  else some ⟨false, "Ignoring filter node with type " ++ Text.Visible.optional (type? value)⟩

/-- What the log says of a row that is dropped: the first that is missing of a field, an
operator that is known, and a usable value. -/
def Rule.dropping (row : Rule) : LogLine where
  isWarning := false
  wording :=
    match row.field with
    | none => "Dropping rule without a field"
    | some field =>
      if row.operator.bind RuleOperator.ofName? = none then
        "Dropping rule on '" ++ field ++ "' with operator " ++ Text.Visible.optional row.operator
      else "Dropping rule on '" ++ field ++ "' without a value"

/-- What the log says of some rows when a filter is built. -/
def Scope.dropped (scope : Scope) (rows : List Rule) : List LogLine :=
  (rows.filter fun row => (scope.rowFilter? row).isNone).map Rule.dropping

/-! ## Reading a tree -/

namespace Node

/-- What is remarkable about a JSON tree. -/
def notices (value : Json) : List Notice := (read value).2

theorem snd_readAll : ∀ values : List Json, (readAll values).2 = values.flatMap notices
  | [] => by rw [readAll]; rfl
  | value :: rest => by
    rw [readAll, List.flatMap_cons, ← snd_readAll rest]
    rfl

theorem notices_group {value : Json} (h : type? value = some "group") :
    notices value = childNotices (value.get? "children1") ++ (children value).flatMap notices := by
  rw [notices, read, dif_pos h]
  show _ ++ (readAll (childValues (value.get? "children1"))).2 = _
  rw [snd_readAll]
  rfl

theorem notices_rule {value : Json} (h : type? value = some "rule") : notices value = [] := by
  have hg := ne_group_of_rule h
  rw [notices, read, dif_neg hg, if_pos h]

theorem notices_unknown {value : Json} (hg : type? value ≠ some "group")
    (hr : type? value ≠ some "rule") : notices value = [.unknownNode (type? value)] := by
  rw [notices, read, dif_neg hg, if_neg hr]

/-- The lines of reading a JSON tree. -/
def readingLines (value : Json) : List LogLine :=
  (notices value).map fun notice => (Event.noticed notice).line

theorem remark?_rule {value : Json} (h : type? value = some "rule") : remark? value = none := by
  have hg := ne_group_of_rule h
  rw [remark?, if_neg hg, if_pos h]

theorem lines_unknownNode {value : Json} (hg : type? value ≠ some "group")
    (hr : type? value ≠ some "rule") :
    [(Event.noticed (.unknownNode (type? value))).line] = (remark? value).toList := by
  rw [remark?, if_neg hg, if_neg hr]
  rfl

theorem lines_childNotices {value : Json} (h : type? value = some "group") :
    (childNotices (value.get? "children1")).map (fun notice => (Event.noticed notice).line)
      = (remark? value).toList := by
  rw [remark?, if_pos h]
  cases value.get? "children1" with
  | none => rfl
  | some content => cases content <;> rfl

/-- What there is to say of the values at some places, in their order. -/
def remarks (places : List (Nat × Json)) : List LogLine :=
  places.filterMap fun place => remark? place.2

theorem remarks_cons (depth : Nat) (value : Json) (rest : List (Nat × Json)) :
    remarks ((depth, value) :: rest) = (remark? value).toList ++ remarks rest := by
  unfold remarks
  cases h : remark? value with
  | none => simp only [List.filterMap_cons, h]; rfl
  | some line => simp only [List.filterMap_cons, h]; rfl

theorem remarks_append (front back : List (Nat × Json)) :
    remarks (front ++ back) = remarks front ++ remarks back := List.filterMap_append

theorem flatMap_readingLines {depth : Nat} : ∀ {values : List Json},
    (∀ value ∈ values, readingLines value = remarks (places depth value)) →
    values.flatMap readingLines = remarks (placesOf depth values)
  | [], _ => by rw [placesOf]; rfl
  | value :: rest, h => by
    have hrest := flatMap_readingLines fun other ho => h other (List.mem_cons_of_mem _ ho)
    rw [List.flatMap_cons, hrest, h value (List.mem_cons_self ..), placesOf, remarks_append]

/-- Reading a tree leaves what there is to say of its values, in document order. -/
theorem readingLines_eq (depth : Nat) (value : Json) :
    readingLines value = remarks (places depth value) := by
  induction value using ofJson_induction generalizing depth with
  | group value h ih =>
    have hchildren := flatMap_readingLines fun child hc => ih child hc (depth + 1)
    rw [places_group h, remarks_cons, ← hchildren, ← lines_childNotices h, readingLines,
      notices_group h, List.map_append, List.map_flatMap]
    rfl
  | rule value h =>
    have hg := ne_group_of_rule h
    rw [places_of_ne_group hg, remarks_cons, remark?_rule h, readingLines, notices_rule h]
    rfl
  | unknown value hg hr =>
    rw [places_of_ne_group hg, remarks_cons, ← lines_unknownNode hg hr, readingLines,
      notices_unknown hg hr]
    rfl

end Node

/-! ## Building a filter -/

namespace Scope

variable {scope : Scope}

/-- The lines of building what something comes to. -/
def droppingLines (omitted : List Omission) : List LogLine :=
  omitted.map fun omission => (Event.omitted omission).line

theorem dropped_of_none {row : Rule} {rest : List Rule} (h : scope.rowFilter? row = none) :
    scope.dropped (row :: rest) = row.dropping :: scope.dropped rest := by
  rw [dropped, List.filter_cons_of_pos (by rw [h]; rfl)]
  rfl

theorem dropped_of_some {row : Rule} {rest : List Rule} {operation : Operation}
    (h : scope.rowFilter? row = some operation) :
    scope.dropped (row :: rest) = scope.dropped rest := by
  rw [dropped, List.filter_cons_of_neg (by rw [h]; exact Bool.false_ne_true)]
  rfl

theorem dropped_singleton (row : Rule) :
    scope.dropped [row] = bif (scope.rowFilter? row).isNone then [row.dropping] else [] := by
  cases h : scope.rowFilter? row with
  | none => exact dropped_of_none h
  | some operation => exact dropped_of_some h

theorem dropped_append (rows more : List Rule) :
    scope.dropped (rows ++ more) = scope.dropped rows ++ scope.dropped more := by
  rw [dropped, List.filter_append, List.map_append]
  rfl

/-- A row that makes no condition leaves a line, and one that makes one leaves none. -/
theorem droppingLines_buildRule {row : Rule} {built : Built} (h : scope.buildRule row = .ok built) :
    droppingLines built.omitted = bif built.filter.isNone then [row.dropping] else [] := by
  rw [buildRule_eq] at h
  unfold Rule.dropping
  -- in the order in which building looks for them: a field, an operator, a value
  cases hfield : row.field with
  | none =>
    rw [hfield] at h
    obtain rfl := Except.ok.inj h
    rfl
  | some field =>
    rw [hfield, Option.elim_some] at h
    obtain ⟨target, -, rfl⟩ := map_eq_ok_iff.mp h
    unfold completed
    cases row.operator.bind RuleOperator.ofName? with
    | none => rfl
    | some operator =>
      dsimp only
      cases condition? operator target row.firstValue? with
      | none => rfl
      | some operation => rfl

/-- Building a tree leaves what there is to say of its rows, in document order. -/
theorem invariant_droppingLines (scope : Scope) :
    scope.Invariant
      (fun _ node built => droppingLines built.omitted = scope.dropped node.rules)
      (fun _ nodes _ omitted => droppingLines omitted = scope.dropped (Node.rulesOf nodes)) where
  unknown _ := rfl
  rule {_ row _} _ h := by
    rw [droppingLines_buildRule h, buildRule_filter h, Node.rules_rule, dropped_singleton]
  group _ _ h := h
  nil := rfl
  cons hfirst hmore := by
    rw [Node.rulesOf_cons, dropped_append, ← hfirst, ← hmore, droppingLines, List.map_append]
    rfl

end Scope

/-! ## Rows, conditions and lines -/

namespace LogLine

theorem saysDropping_dropping (row : Rule) : row.dropping.saysDropping = true := by
  unfold Rule.dropping saysDropping
  cases row.field with
  | none =>
    show "Dropping rule".toList.isPrefixOf "Dropping rule without a field".toList = true
    decide
  | some field =>
    dsimp only
    split
    next => simp [String.toList_append]
    next => simp [String.toList_append]

theorem saysDropping_remark {value : Json} {line : LogLine} (h : Node.remark? value = some line) :
    line.saysDropping = false := by
  unfold Node.remark? at h
  split at h
  next =>
    obtain ⟨content, -, h⟩ := Option.bind_eq_some_iff.mp h
    split at h
    next =>
      obtain rfl := Option.some.inj h
      simp [saysDropping, String.toList_append, List.isPrefixOf]
    next => exact absurd h (by simp)
  next =>
    split at h
    next => exact absurd h (by simp)
    next =>
      obtain rfl := Option.some.inj h
      simp [saysDropping, String.toList_append, List.isPrefixOf]

end LogLine

namespace Scope

variable {scope : Scope}

/-- Each row makes a condition or leaves a line, and none does both. -/
theorem length_rows (scope : Scope) : ∀ rows : List Rule,
    rows.length = (rows.filterMap scope.rowFilter?).length + (scope.dropped rows).length
  | [] => rfl
  | row :: rest => by
    have ih := length_rows scope rest
    cases hrow : scope.rowFilter? row with
    | none =>
      rw [List.filterMap_cons_none hrow, dropped_of_none hrow, List.length_cons, List.length_cons,
        ih]
      omega
    | some operation =>
      rw [List.filterMap_cons_some hrow, dropped_of_some hrow, List.length_cons, List.length_cons,
        ih]
      omega

theorem saysDropping_dropped {rows : List Rule} {line : LogLine} (h : line ∈ scope.dropped rows) :
    line.saysDropping = true := by
  obtain ⟨row, -, rfl⟩ := List.mem_map.mp h
  exact LogLine.saysDropping_dropping row

/-- The log of a tree that can be built, line by line. -/
theorem run_of_filterOfJson {value : Json} {result : Option Operation}
    (h : scope.filterOfJson value = .ok result) :
    ∃ log, scope.run value = .ok (result, log) ∧
      log.map Event.line = Node.remarks (Node.places 0 value)
        ++ scope.dropped (Node.ofJson value).rules := by
  obtain ⟨built, hbuilt, rfl⟩ := filter_eq_ok_iff.mp h
  refine ⟨(Node.notices value).map .noticed ++ built.omitted.map .omitted, ?_, ?_⟩
  · have hbuild : scope.build (Node.read value).1 = .ok built := hbuilt
    unfold run
    dsimp only
    rw [hbuild]
    rfl
  · rw [List.map_append, List.map_map, List.map_map, ← Node.readingLines_eq 0 value,
      ← (invariant_droppingLines scope).buildAt _ hbuilt]
    rfl

/-- **Every row is a condition of the filter or a line of the log.** The log of a tree that
can be built holds what there is to say of its values, one for each node, in document order;
behind that a line for each row that comes to nothing on its own, in document order; and
nothing else. So there are as many rows as conditions and lines that say that a row is
dropped. -/
theorem rows_accounted_for {value : Json} {result : Option Operation}
    (h : scope.filterOfJson value = .ok result) :
    (Node.ofJson value).preorder 0 = (Node.places 0 value).map Node.atPlace ∧
    (∀ row ∈ (Node.ofJson value).rules, scope.filter (.rule row) = .ok (scope.rowFilter? row)) ∧
    ∃ log, scope.run value = .ok (result, log) ∧
      log.map Event.line = Node.remarks (Node.places 0 value)
        ++ scope.dropped (Node.ofJson value).rules ∧
      (Node.ofJson value).rules.length = (result.toList.flatMap Operation.leaves).length
        + (log.map Event.line).countP LogLine.saysDropping := by
  obtain ⟨log, hrun, hlines⟩ := run_of_filterOfJson h
  obtain ⟨built, hbuilt, -⟩ := filter_eq_ok_iff.mp h
  refine ⟨Node.preorder_ofJson 0 value, (invariant_filter_rule scope).buildAt _ hbuilt, log, hrun, hlines, ?_⟩
  -- the lines of reading say nothing of dropping, and those of building nothing else
  have hreading : (Node.remarks (Node.places 0 value)).countP LogLine.saysDropping = 0 := by
    rw [List.countP_eq_zero]
    intro line hline
    obtain ⟨place, -, hremark⟩ := List.mem_filterMap.mp hline
    rw [LogLine.saysDropping_remark hremark]
    exact Bool.false_ne_true
  have hdropped : (scope.dropped (Node.ofJson value).rules).countP LogLine.saysDropping
      = (scope.dropped (Node.ofJson value).rules).length :=
    List.countP_eq_length.mpr fun line hline => saysDropping_dropped hline
  rw [hlines, List.countP_append, hreading, hdropped, Nat.zero_add, leaves_filter h]
  exact length_rows scope _

end Scope

namespace Builtin

/-- A group with children that are no children, a finished row, a row of an operator that is
not known, a node of a type that is not known, a row without a field, and one without a
value. -/
def mixedQuery : Json :=
  .object [("type", .string "group"), ("children1", .array
    [.object [("type", .string "group"), ("children1", .bool true)],
      rowOf "name" "like" (.string "gdp"),
      rowOf "name" "between" (.string "gdp"),
      .object [("type", .string "case_group"), ("children1", .bool true)],
      .object [("type", .string "rule")],
      rowOf "/title" "equal" .null])]

/-- The filter of the finished row. -/
def mixedFilter : Operation :=
  .logic .and (.contains (.column "variables.name") (.string "gdp")) []

/-- The lines of the two nodes that are no rows. -/
def mixedReading : List LogLine :=
  [⟨true, "Unexpected content of children1, treating as empty: true"⟩,
    ⟨false, "Ignoring filter node with type Some(\"case_group\")"⟩]

/-- The lines of the three rows that are not finished. -/
def mixedDropping : List LogLine :=
  [⟨false, "Dropping rule on 'name' with operator Some(\"between\")"⟩,
    ⟨false, "Dropping rule without a field"⟩,
    ⟨false, "Dropping rule on '/title' without a value"⟩]

/-- Of four rows one makes a condition and three leave a line, behind the lines of two nodes
that are no rows. -/
theorem mixedQuery_accounted_for :
    annotationsScope.filterOfJson mixedQuery = .ok (some mixedFilter) ∧
    ∃ log, annotationsScope.run mixedQuery = .ok (some mixedFilter, log) ∧
      log.map Event.line = mixedReading ++ mixedDropping ∧
      (Node.ofJson mixedQuery).rules.length
        = 1 + (mixedReading ++ mixedDropping).countP LogLine.saysDropping ∧
      (mixedReading ++ mixedDropping).countP LogLine.saysDropping = 3 := by
  have hfilter : annotationsScope.filterOfJson mixedQuery = .ok (some mixedFilter) := by cbv
  have hreading : Node.remarks (Node.places 0 mixedQuery) = mixedReading := by cbv
  have hdropping : annotationsScope.dropped (Node.ofJson mixedQuery).rules = mixedDropping := by
    cbv
  obtain ⟨-, -, log, hrun, hlog, hcount⟩ := Scope.rows_accounted_for hfilter
  rw [hreading, hdropping] at hlog
  rw [hlog] at hcount
  exact ⟨hfilter, log, hrun, hlog, hcount, by decide⟩

end Builtin

end RowFilter
