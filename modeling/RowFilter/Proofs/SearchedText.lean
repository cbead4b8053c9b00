import RowFilter.Proofs.Decimal.Notation
import RowFilter.Proofs.FinishedRows
import RowFilter.Proofs.Samples

/-!
# The text that a row searches for

A row with the operator `like` searches for its value as JSON writes it, and a row with the
operator `equal` compares to it as the grammar writes it. For truth values and integers that
is the same text. A double is always marked as one in JSON:

> `like_searches_literal_iff`: the two texts of a double are the same only if it has decimal
> places, and not always then;
> `five_searched_apart`: a row that searches for `5.0` does not find the `5` that a row that
> compares to `5.0` asks for.
-/

namespace RowFilter

/-- True of the values that JSON and the grammar write alike. A double is one if it is not
whole, has one shortest decimal, and that decimal begins at the fifth decimal place or before. -/
def Json.WrittenAlike : Json → Prop
  | .bool _ | .number (.integer _ _) => True
  | .number (.double x _) => x.toInt? = none ∧
    Decimal.shortest .toEven x = Decimal.shortest .up x ∧ -5 ≤ (Decimal.shortest .up x).first
  | _ => False

/-- True of numbers and truth values. -/
def Json.IsNumberOrBool (value : Json) : Prop :=
  (∃ number, value = .number number) ∨ ∃ truth, value = .bool truth

/-- True of a row with the field, the operator and the first value. -/
structure Rule.Asks (row : Rule) (field operator : String) (value : Json) : Prop where
  field : row.field = some field
  operator : row.operator = some operator
  first : row.firstValue? = some value

/-- A double as an atom is written as a whole number below the bound, or as a double. -/
theorem Atom.render_ofNumber? {x : Binary64} {finite : x.isFinite = true} {atom : Atom}
    (h : ofNumber? (.double x finite) = some atom) :
    (∃ n, x.toInt? = some n ∧ atom.render = Decimal.integer n) ∨
      atom.render = Decimal.double Decimal.plain x := by
  rw [ofNumber?_double] at h
  rcases ofDouble_cases finite with ⟨i, hwhole, -, hi⟩ | ⟨-, hx⟩
  · rw [hi] at h
    obtain rfl := Option.some.inj h
    exact Or.inl ⟨i.toInt, hwhole, rfl⟩
  · rw [hx] at h
    obtain rfl := Option.some.inj h
    exact Or.inr rfl

/-- The text of a double that is searched for is its literal if the two notations of the
double are the same. -/
theorem Atom.double_compact_eq_render_iff {x : Binary64} {finite : x.isFinite = true}
    {atom : Atom} (h : ofNumber? (.double x finite) = some atom) :
    Decimal.double Decimal.compact x = atom.render ↔
      (Json.number (.double x finite)).WrittenAlike := by
  rcases render_ofNumber? h with ⟨n, hwhole, hrender⟩ | hrender
  · rw [hrender]
    refine iff_of_false (Decimal.double_compact_ne_integer finite n) fun halike => ?_
    exact absurd (halike.1.symm.trans hwhole) (by simp)
  · rw [hrender]
    exact Decimal.double_compact_eq_plain_iff finite

theorem searchText?_eq_text_iff {value : Json} {text : String} {atom : Atom}
    (hvalue : value.IsNumberOrBool) (htext : searchText? value = some text)
    (hatom : Atom.ofJson? value = some atom) : text = atom.text ↔ value.WrittenAlike := by
  rcases hvalue with ⟨number, rfl⟩ | ⟨truth, rfl⟩
  · obtain rfl := Option.some.inj htext
    rw [Atom.text, String.ofList_inj]
    cases number with
    | integer n inRange =>
      refine iff_of_true ?_ trivial
      exact (Atom.render_ofNumber?_integer hatom).symm
    | double x finite => exact Atom.double_compact_eq_render_iff hatom
  · obtain rfl := Option.some.inj htext
    obtain rfl := Option.some.inj hatom
    exact iff_of_true rfl trivial

namespace Scope

variable {scope : Scope}

/-- A row with a known operator comes to what the operator makes of its value. -/
theorem filter_of_asks {row : Rule} {field name : String} {operator : RuleOperator}
    {target : Symbol} {value : Json} (h : row.Asks field name value)
    (hoperator : RuleOperator.ofName? name = some operator)
    (htarget : scope.symbol field = .ok target) :
    scope.filter (.rule row) = .ok (condition? operator target (some value)) := by
  rw [filter_rule, map_filter_buildRule, h.field, h.operator, h.first, Option.elim_some, htarget,
    Option.bind_some, hoperator]
  rfl

/-- **What is searched for is what is compared to, for values written alike only.** Rows that
search for a number or truth value and that compare to it, on a field that can be looked up,
make a condition each. The text in the one is the literal in the other if and only if JSON and
the grammar write the value alike. -/
theorem like_searches_literal_iff {field : String} {target : Symbol} {value : Json}
    {searching comparing : Rule} (htarget : scope.symbol field = .ok target)
    (hvalue : value.IsNumberOrBool) (hsearching : searching.Asks field "like" value)
    (hcomparing : comparing.Asks field "equal" value) :
    ∃ text atom,
      scope.filter (.rule searching) = .ok (some (.contains target (.string text))) ∧
      scope.filter (.rule comparing) = .ok (some (.equality .equal target atom)) ∧
      (text = atom.text ↔ value.WrittenAlike) := by
  have husable : value.IsUsable := by
    rcases hvalue with ⟨number, rfl⟩ | ⟨truth, rfl⟩
    · trivial
    · trivial
  have hlike : RuleOperator.ofName? "like" = some .contains := by decide
  have hequal : RuleOperator.ofName? "equal" = some (.equality .equal) := by decide
  obtain ⟨text, htext⟩ := exists_searchText?_iff.mpr husable
  obtain ⟨atom, hatom⟩ := Atom.exists_ofJson?_iff.mpr husable
  refine ⟨text, atom, ?_, ?_, searchText?_eq_text_iff hvalue htext hatom⟩
  · rw [filter_of_asks hsearching hlike htarget, condition?, Option.bind_some, htext,
      Option.map_some]
  · rw [filter_of_asks hcomparing hequal htarget, condition?, Option.bind_some, hatom,
      Option.map_some]

end Scope

namespace Builtin

/-- One millionth. -/
def millionth : Json := .number (.double ⟨0x3EB0C6F7A0B5ED8D⟩ (by decide))

/-- A row on the names. -/
def nameRow (operator : String) (value : Json) : Rule := ⟨some "name", some operator, [value]⟩

/-- One half is searched for as it is compared to, and one millionth is not. -/
theorem half_and_millionth_searched :
    (annotationsScope.symbol "name" = .ok (.column "variables.name") ∧
      half.WrittenAlike ∧ ¬millionth.WrittenAlike) ∧
    (∃ text atom,
      annotationsScope.filter (.rule (nameRow "like" half))
        = .ok (some (.contains (.column "variables.name") (.string text))) ∧
      annotationsScope.filter (.rule (nameRow "equal" half))
        = .ok (some (.equality .equal (.column "variables.name") atom)) ∧ text = atom.text) ∧
    ∃ text atom,
      annotationsScope.filter (.rule (nameRow "like" millionth))
        = .ok (some (.contains (.column "variables.name") (.string text))) ∧
      annotationsScope.filter (.rule (nameRow "equal" millionth))
        = .ok (some (.equality .equal (.column "variables.name") atom)) ∧ text ≠ atom.text := by
  have hname : annotationsScope.symbol "name" = .ok (.column "variables.name") := by rfl
  have hhalf : half.WrittenAlike := by
    refine ⟨?_, ?_, ?_⟩
    · decide +kernel
    · decide +kernel
    · decide +kernel
  have hmillionth : ¬millionth.WrittenAlike := by
    rintro ⟨-, -, hplace⟩
    exact absurd hplace (by decide +kernel)
  have hasks : ∀ operator number, (nameRow operator (.number number)).Asks "name" operator
      (.number number) := fun _ _ => ⟨rfl, rfl, rfl⟩
  obtain ⟨text, atom, hlike, hequal, hsame⟩ := Scope.like_searches_literal_iff hname
    (Or.inl ⟨_, rfl⟩) (hasks "like" _) (hasks "equal" _)
  obtain ⟨marked, literal, hsearched, hcompared, hdiffer⟩ := Scope.like_searches_literal_iff hname
    (Or.inl ⟨_, rfl⟩) (hasks "like" _) (hasks "equal" _)
  exact ⟨⟨hname, hhalf, hmillionth⟩, ⟨text, atom, hlike, hequal, hsame.mpr hhalf⟩,
    marked, literal, hsearched, hcompared, mt hdiffer.mp hmillionth⟩

/-- Five, as `5`. -/
def five : Json := .number (.integer 5 (by decide))

/-- Five, as `5.0`. -/
def fivePointZero : Json := .number (.double ⟨0x4014000000000000⟩ (by decide))

/-- The two spellings of five are one literal and are searched for apart, only one of them as
that literal. -/
theorem five_searched_apart :
    annotationsScope.filter (.rule (nameRow "like" fivePointZero))
      = .ok (some (.contains (.column "variables.name") (.string "5.0"))) ∧
    annotationsScope.filter (.rule (nameRow "equal" fivePointZero))
      = .ok (some (.equality .equal (.column "variables.name") (.integer 5))) ∧
    annotationsScope.filter (.rule (nameRow "like" five))
      = .ok (some (.contains (.column "variables.name") (.string "5"))) ∧
    annotationsScope.filter (.rule (nameRow "equal" five))
      = .ok (some (.equality .equal (.column "variables.name") (.integer 5))) ∧
    (Atom.integer 5).text = "5" ∧ "5.0" ≠ "5" :=
  ⟨by rfl, by rfl, by rfl, by rfl, by decide, by decide⟩

end Builtin

end RowFilter
