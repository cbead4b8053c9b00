import RowFilter.Proofs.Meaning
import RowFilter.Proofs.Node
import RowFilter.Proofs.Rows

/-!
# Rows that make a condition

Nothing is certain of a row but its type: its properties may be missing or of any shape.
A row is finished (`Json.Finished`) if its field is a text, its operator one of the known
names, and its first value a text, a number or a truth value. The operators that ask
something of the field alone (`RuleOperator.needsValue`) do without the value.

> `finished_rows_make_conditions`: a row fails if and only if its field is a text that refers
> to nothing, and otherwise makes a condition if and only if it is finished. The condition is
> on what the field refers to, under the word of the operator.

A value that is not usable is the only one that is dropped, so no number ever is.
-/

namespace RowFilter

/-! ## What operators ask for -/

namespace RuleOperator

/-- The word that an operator is sent as. A match with the empty text is a match. -/
def token : RuleOperator → Token
  | .comparison op => op.token
  | .equality op => op.token
  | .contains => .contains
  | .nullCheck op => op.token
  | .emptiness op => op.token

/-- False of an operator that asks something of the field alone. -/
def needsValue : RuleOperator → Bool
  | .comparison _ => true
  | .equality _ => true
  | .contains => true
  | .nullCheck _ => false
  | .emptiness _ => false

end RuleOperator

/-- The word of a single condition. -/
def Operation.token? : Operation → Option Token
  | .comparison op _ _ => some op.token
  | .equality op _ _ => some op.token
  | .contains _ _ => some .contains
  | .nullCheck op _ => some op.token
  | _ => none

namespace Json

/-- True of a value that a row can compare with: a text, a number or a truth value. -/
def IsUsable : Json → Prop
  | .string _ => True
  | .number _ => True
  | .bool _ => True
  | _ => False

/-- True of a row with a field and an operator, and with a usable first value if the
operator needs one. -/
structure Finished (value : Json) (field : String) (operator : RuleOperator) : Prop where
  hasField : Node.property? "field" value = some (.string field)
  hasOperator : ∃ name, Node.property? "operator" value = some (.string name) ∧
    Keyed.get? name RuleOperator.spellings = some operator
  hasValue : operator.needsValue = true → ∃ first rest,
    Node.property? "value" value = some (.array (first :: rest)) ∧ first.IsUsable

/-- A member is a text only if it is a string. -/
theorem bind_string?_eq_some_iff {member : Option Json} {text : String} :
    member.bind string? = some text ↔ member = some (.string text) := by
  cases member with
  | none => simp
  | some value => cases value <;> simp [string?]

end Json

/-! ## Literals and texts to search for -/

/-- Every number is a literal, because every number is finite. -/
theorem Atom.exists_ofNumber? (n : Json.Number) : ∃ atom, ofNumber? n = some atom := by
  rcases ofNumber?_cases n with ⟨_, h⟩ | ⟨_, -, h⟩ | ⟨_, -, -, h⟩
  · exact ⟨_, h⟩
  · exact ⟨_, h⟩
  · exact ⟨_, h⟩

/-- Exactly the usable values are literals. -/
theorem Atom.exists_ofJson?_iff {value : Json} :
    (∃ atom, ofJson? value = some atom) ↔ value.IsUsable := by
  cases value with
  | string text => exact ⟨fun _ => trivial, fun _ => ⟨_, rfl⟩⟩
  | number n => exact ⟨fun _ => trivial, fun _ => exists_ofNumber? n⟩
  | bool value => exact ⟨fun _ => trivial, fun _ => ⟨_, rfl⟩⟩
  | _ => simp [ofJson?, Json.IsUsable]

/-- Exactly the usable values can be searched for. -/
theorem exists_searchText?_iff {value : Json} :
    (∃ text, searchText? value = some text) ↔ value.IsUsable := by
  cases value with
  | string text => exact ⟨fun _ => trivial, fun _ => ⟨_, rfl⟩⟩
  | number n => exact ⟨fun _ => trivial, fun _ => ⟨_, rfl⟩⟩
  | bool value => exact ⟨fun _ => trivial, fun _ => ⟨_, rfl⟩⟩
  | _ => simp [searchText?, Json.IsUsable]

namespace Scope

variable {scope : Scope}

/-- What is made of a value that may be missing is made of a value that is there. -/
theorem exists_map_bind_iff {α : Type} {value : Option Json} {read : Json → Option α}
    {make : α → Operation} (hread : ∀ first, (∃ part, read first = some part) ↔ first.IsUsable) :
    (∃ operation, (value.bind read).map make = some operation) ↔
      ∃ first, value = some first ∧ first.IsUsable := by
  constructor
  · rintro ⟨operation, h⟩
    obtain ⟨part, hpart, -⟩ := Option.map_eq_some_iff.mp h
    obtain ⟨first, hfirst, hpart⟩ := Option.bind_eq_some_iff.mp hpart
    exact ⟨first, hfirst, (hread first).mp ⟨part, hpart⟩⟩
  · rintro ⟨first, rfl, husable⟩
    obtain ⟨part, hpart⟩ := (hread first).mpr husable
    exact ⟨make part, by rw [Option.bind_some, hpart, Option.map_some]⟩

/-- An operator makes a condition if it needs no value, or has a usable one. -/
theorem exists_condition?_iff {operator : RuleOperator} {target : Symbol}
    {value : Option Json} :
    (∃ operation, condition? operator target value = some operation) ↔
      (operator.needsValue = true → ∃ first, value = some first ∧ first.IsUsable) := by
  have needed {p : Prop} : (true = true → p) ↔ p := ⟨fun h => h rfl, fun h _ => h⟩
  cases operator with
  | comparison op =>
    exact (exists_map_bind_iff fun _ => Atom.exists_ofJson?_iff).trans needed.symm
  | equality op =>
    exact (exists_map_bind_iff fun _ => Atom.exists_ofJson?_iff).trans needed.symm
  | contains => exact (exists_map_bind_iff fun _ => exists_searchText?_iff).trans needed.symm
  | nullCheck op => exact ⟨fun _ h => absurd h Bool.false_ne_true, fun _ => ⟨_, rfl⟩⟩
  | emptiness op => exact ⟨fun _ h => absurd h Bool.false_ne_true, fun _ => ⟨_, rfl⟩⟩

/-- A condition has the word of its operator. -/
theorem token?_condition? {operator : RuleOperator} {target : Symbol} {value : Option Json}
    {operation : Operation} (h : condition? operator target value = some operation) :
    operation.token? = some operator.token := by
  cases operator with
  | comparison op =>
    obtain ⟨atom, -, rfl⟩ := Option.map_eq_some_iff.mp h
    rfl
  | equality op =>
    obtain ⟨atom, -, rfl⟩ := Option.map_eq_some_iff.mp h
    rfl
  | contains =>
    obtain ⟨text, -, rfl⟩ := Option.map_eq_some_iff.mp h
    rfl
  | nullCheck op =>
    obtain rfl := Option.some.inj h
    rfl
  | emptiness op =>
    obtain rfl := Option.some.inj h
    rfl

/-! ## JSON rows -/

/-- The condition that a JSON row makes of a symbol. -/
def conditionOn? (value : Json) (target : Symbol) : Option Operation :=
  (((Node.property? "operator" value).bind Json.string?).bind RuleOperator.ofName?).bind
    fun operator => condition? operator target (Node.ruleOf value).firstValue?

/-- A JSON row fails by its field only, and otherwise comes to its condition. -/
theorem map_filter_buildRule_ruleOf (scope : Scope) (value : Json) :
    (scope.buildRule (Node.ruleOf value)).map Built.filter
      = ((Node.property? "field" value).bind Json.string?).elim (.ok none) fun field =>
          (scope.symbol field).map (conditionOn? value) :=
  map_filter_buildRule scope (Node.ruleOf value)

theorem filterOfJson_rule {value : Json} (h : Node.type? value = some "rule") :
    scope.filterOfJson value
      = ((Node.property? "field" value).bind Json.string?).elim (.ok none) fun field =>
          (scope.symbol field).map (conditionOn? value) := by
  rw [filterOfJson, Node.ofJson_rule h, filter_rule, map_filter_buildRule_ruleOf]

/-- The first value of a row is usable if it is the first item of an array and usable; a
`null` there is none, and is not usable either. -/
theorem exists_firstValue?_iff {value : Json} :
    (∃ first, (Node.ruleOf value).firstValue? = some first ∧ first.IsUsable) ↔
      ∃ first rest, Node.property? "value" value = some (.array (first :: rest)) ∧
        first.IsUsable := by
  have hvalue : (Node.ruleOf value).value
      = ((Node.property? "value" value).bind Json.items?).getD [] := rfl
  rw [Rule.firstValue?, hvalue]
  cases Node.property? "value" value with
  | none => simp
  | some values =>
    cases values with
    | array items =>
      cases items with
      | nil => simp [Json.items?]
      | cons head tail => cases head <;> simp [Json.items?, Json.isNull, Json.IsUsable]
    | _ => simp [Json.items?]

/-- A row makes a condition of a symbol if its operator is known and has what it needs. -/
theorem exists_conditionOn?_iff {value : Json} {field : String} {target : Symbol}
    (hfield : Node.property? "field" value = some (.string field)) :
    (∃ operation, conditionOn? value target = some operation) ↔
      ∃ operator, value.Finished field operator := by
  constructor
  · rintro ⟨operation, h⟩
    obtain ⟨operator, hoperator, h⟩ := Option.bind_eq_some_iff.mp h
    obtain ⟨name, hname, hspelled⟩ := Option.bind_eq_some_iff.mp hoperator
    rw [RuleOperator.ofName?_eq_get?] at hspelled
    have hneeds := exists_condition?_iff.mp ⟨operation, h⟩
    exact ⟨operator, hfield, ⟨name, Json.bind_string?_eq_some_iff.mp hname, hspelled⟩,
      fun hneed => exists_firstValue?_iff.mp (hneeds hneed)⟩
  · rintro ⟨operator, -, ⟨name, hname, hspelled⟩, hfirst⟩
    obtain ⟨operation, hoperation⟩ : ∃ operation,
        condition? operator target (Node.ruleOf value).firstValue? = some operation :=
      exists_condition?_iff.mpr fun hneed => exists_firstValue?_iff.mpr (hfirst hneed)
    refine ⟨operation, ?_⟩
    rw [conditionOn?, Json.bind_string?_eq_some_iff.mpr hname, Option.bind_some,
      RuleOperator.ofName?_eq_get?, hspelled]
    exact hoperation

/-- A row's condition is on the symbol, under the word of the row's operator. -/
theorem token?_conditionOn? {value : Json} {field : String} {operator : RuleOperator}
    {target : Symbol} {operation : Operation} (hfinished : value.Finished field operator)
    (h : conditionOn? value target = some operation) :
    operation.target? = some target ∧ operation.token? = some operator.token := by
  obtain ⟨name, hname, hspelled⟩ := hfinished.hasOperator
  rw [conditionOn?, Json.bind_string?_eq_some_iff.mpr hname, Option.bind_some,
    RuleOperator.ofName?_eq_get?, hspelled, Option.bind_some] at h
  exact ⟨(leaves_condition? h).2, token?_condition? h⟩

/-- A row fails if its field is a text that refers to nothing, and only then. -/
theorem filterOfJson_rule_error_iff {value : Json} (h : Node.type? value = some "rule")
    {error : FilterError} :
    scope.filterOfJson value = .error error ↔
      ∃ field, Node.property? "field" value = some (.string field) ∧
        scope.symbol field = .error error := by
  simp only [filterOfJson_rule h, ← Json.bind_string?_eq_some_iff]
  cases (Node.property? "field" value).bind Json.string? with
  | none => simp
  | some field => simp

/-- A row has the filter that its condition is. -/
theorem filterOfJson_rule_some_iff {value : Json} (h : Node.type? value = some "rule")
    {operation : Operation} :
    scope.filterOfJson value = .ok (some operation) ↔
      ∃ field target, Node.property? "field" value = some (.string field) ∧
        scope.symbol field = .ok target ∧ conditionOn? value target = some operation := by
  simp only [filterOfJson_rule h, ← Json.bind_string?_eq_some_iff]
  cases (Node.property? "field" value).bind Json.string? with
  | none => simp
  | some field => simp

/-- **Exactly the finished rows make a condition.** A row of any shape fails if and only if
its field is a text that refers to nothing, and with what is wrong with the field. Otherwise
it makes a condition if and only if it is finished, and the condition is on what the field
refers to, under the word of the row's operator. -/
theorem finished_rows_make_conditions (scope : Scope) {value : Json}
    (h : Node.type? value = some "rule") :
    (∀ error, scope.filterOfJson value = .error error ↔
      ∃ field, Node.property? "field" value = some (.string field) ∧
        scope.symbol field = .error error) ∧
    ((∃ operation, scope.filterOfJson value = .ok (some operation)) ↔
      ∃ field target operator, value.Finished field operator ∧
        scope.symbol field = .ok target) ∧
    ∀ operation field target operator, scope.filterOfJson value = .ok (some operation) →
      value.Finished field operator → scope.symbol field = .ok target →
        operation.target? = some target ∧ operation.token? = some operator.token := by
  refine ⟨fun error => filterOfJson_rule_error_iff h, ⟨?_, ?_⟩, ?_⟩
  · rintro ⟨operation, hoperation⟩
    obtain ⟨field, target, hfield, htarget, hcondition⟩ :=
      (filterOfJson_rule_some_iff h).mp hoperation
    obtain ⟨operator, hfinished⟩ := (exists_conditionOn?_iff hfield).mp ⟨operation, hcondition⟩
    exact ⟨field, target, operator, hfinished, htarget⟩
  · rintro ⟨field, target, operator, hfinished, htarget⟩
    obtain ⟨operation, hcondition⟩ :=
      (exists_conditionOn?_iff hfinished.hasField).mpr ⟨operator, hfinished⟩
    exact ⟨operation, (filterOfJson_rule_some_iff h).mpr
      ⟨field, target, hfinished.hasField, htarget, hcondition⟩⟩
  · intro operation field target operator hoperation hfinished htarget
    obtain ⟨other, found, hother, hfound, hcondition⟩ :=
      (filterOfJson_rule_some_iff h).mp hoperation
    obtain rfl : other = field :=
      Json.string.inj (Option.some.inj (hother.symm.trans hfinished.hasField))
    obtain rfl : found = target := Except.ok.inj (hfound.symm.trans htarget)
    exact token?_conditionOn? hfinished hcondition

end Scope

namespace Builtin

/-- A row that asks for names other than zero, with a second value, in the words of a select
widget. The zero is a double with a sign. -/
def zeroRow : Json :=
  .object [("properties", .object
      [("value", .array [.number (.double ⟨0x8000000000000000⟩ (by decide)), .null]),
        ("operator", .string "select_not_equals"), ("field", .string "name")]),
    ("type", .string "rule")]

/-- The same row without its properties' names. -/
def listedRow : Json :=
  .object [("properties", .array [.string "name", .string "select_not_equals"]),
    ("type", .string "rule")]

/-- The zero is not dropped, and a row whose properties are an array comes to nothing. -/
theorem zeroRow_makes_condition :
    (Node.type? zeroRow = some "rule" ∧
      ∃ operation, annotationsScope.filterOfJson zeroRow = .ok (some operation) ∧
        operation.target? = some (.column "variables.name") ∧
        operation.token? = some .unequal) ∧
    Node.type? listedRow = some "rule" ∧ annotationsScope.filterOfJson listedRow = .ok none := by
  have hfinished : zeroRow.Finished "name" (.equality .unequal) :=
    ⟨rfl, ⟨"select_not_equals", rfl, by decide⟩, fun _ => ⟨_, [.null], rfl, trivial⟩⟩
  have hname : annotationsScope.symbol "name" = .ok (.column "variables.name") := by rfl
  have hzero : Node.type? zeroRow = some "rule" := rfl
  have hlist : Node.type? listedRow = some "rule" := rfl
  obtain ⟨-, hcondition, hmade⟩ := Scope.finished_rows_make_conditions annotationsScope hzero
  obtain ⟨operation, hoperation⟩ := hcondition.mpr ⟨_, _, _, hfinished, hname⟩
  obtain ⟨hfails, hlisted, -⟩ := Scope.finished_rows_make_conditions annotationsScope hlist
  refine ⟨⟨hzero, operation, hoperation, hmade _ _ _ _ hoperation hfinished hname⟩, hlist, ?_⟩
  cases hresult : annotationsScope.filterOfJson listedRow with
  | error error =>
    obtain ⟨field, hfield, -⟩ := (hfails error).mp hresult
    exact absurd hfield (by simp [listedRow, Node.property?, Json.get?, Keyed.get?])
  | ok result =>
    cases result with
    | none => rfl
    | some operation =>
      obtain ⟨field, _, _, hfinished, -⟩ := hlisted.mp ⟨operation, hresult⟩
      exact absurd hfinished.hasField (by simp [listedRow, Node.property?, Json.get?, Keyed.get?])

end Builtin

end RowFilter
