import RowFilter.Grammar.Render
import RowFilter.Proofs.Grammar.Leaves
import RowFilter.Proofs.Grammar.SExpr

/-!
# Filters as words, literals and parentheses

A filter is written with eight kinds of operation, two of symbol and four of literal.
All of them come down to the three forms of `SExpr`, so whatever only concerns words,
literals and parentheses is proved for three cases:

> `render_toSExpr`: the text of an operation is the text of its parts;
> `eachWord_toSExpr`: their words are operators, names of columns and literals.
-/

namespace RowFilter

/-- A symbol as a part of a text. -/
def Symbol.toSExpr : Symbol → SExpr
  | .column name => .word name.toList
  | .pointer document path =>
    .list (.word Token.jsonExtract.chars) [.word document.toList, .quoted path.toList]

/-- A literal as a part of a text. -/
def Atom.toSExpr : Atom → SExpr
  | .string text => .quoted text.toList
  | .integer n => .word (Decimal.integer n.toInt)
  | .unsigned n => .word (Decimal.integer n.toNat)
  | .double x => .word (Decimal.double Decimal.plain x)
  | .boolean value => .word (Json.boolText value)

namespace Operation

mutual

/-- An operation as a part of a text. -/
def toSExpr : Operation → SExpr
  | .atom value => value.toSExpr
  | .symbol target => target.toSExpr
  | .comparison op target value => .list (.word op.token.chars) [target.toSExpr, value.toSExpr]
  | .equality op target value => .list (.word op.token.chars) [target.toSExpr, value.toSExpr]
  | .contains target value => .list (.word Token.contains.chars) [target.toSExpr, value.toSExpr]
  | .nullCheck op target => .list (.word op.token.chars) [target.toSExpr]
  | .logic op first rest => .list (.word op.token.chars) (toSExpr first :: toSExprs rest)
  | .negation inner => .list (.word Token.not.chars) [toSExpr inner]

/-- Several operations as parts of a text. -/
def toSExprs : List Operation → List SExpr
  | [] => []
  | operand :: rest => toSExpr operand :: toSExprs rest

end

end Operation

theorem Symbol.render_toSExpr (symbol : Symbol) : symbol.toSExpr.render = symbol.render := by
  cases symbol with
  | column name => simp [toSExpr, SExpr.render, render]
  | pointer document path => simp [toSExpr, SExpr.render, SExpr.renderMore, render]

theorem Atom.render_toSExpr (atom : Atom) : atom.toSExpr.render = atom.render := by
  cases atom <;> simp [toSExpr, SExpr.render, render]

namespace Operation

mutual

theorem render_toSExpr : ∀ operation : Operation, operation.toSExpr.render = operation.render
  | .atom value => by rw [toSExpr, render, Atom.render_toSExpr]
  | .symbol target => by rw [toSExpr, render, Symbol.render_toSExpr]
  | .comparison op target value => by
    simp [toSExpr, render, SExpr.render, SExpr.renderMore, Symbol.render_toSExpr,
      Atom.render_toSExpr]
  | .equality op target value => by
    simp [toSExpr, render, SExpr.render, SExpr.renderMore, Symbol.render_toSExpr,
      Atom.render_toSExpr]
  | .contains target value => by
    simp [toSExpr, render, SExpr.render, SExpr.renderMore, Symbol.render_toSExpr,
      Atom.render_toSExpr]
  | .nullCheck op target => by
    simp [toSExpr, render, SExpr.render, SExpr.renderMore, Symbol.render_toSExpr]
  | .logic op first rest => by
    simp [toSExpr, render, SExpr.render, SExpr.renderMore, render_toSExpr first,
      renderMore_toSExprs rest]
  | .negation inner => by
    simp [toSExpr, render, SExpr.render, SExpr.renderMore, render_toSExpr inner]

theorem renderMore_toSExprs : ∀ operands : List Operation,
    SExpr.renderMore (toSExprs operands) = renderMore operands
  | [] => rfl
  | operand :: rest => by
    simp [toSExprs, renderMore, SExpr.renderMore, render_toSExpr operand,
      renderMore_toSExprs rest]

end

end Operation

/-! ## The words of a filter -/

theorem Symbol.eachWord_toSExpr {good : List Char → Prop}
    (tokens : ∀ token : Token, good token.chars) {symbol : Symbol}
    (h : good symbol.name.toList) : symbol.toSExpr.EachWord good := by
  cases symbol with
  | column name => exact h
  | pointer document path => exact ⟨tokens _, h, trivial, trivial⟩

/-- The word of a literal that is no text: a decimal, or a keyword. -/
theorem Atom.eachWord_toSExpr {good : List Char → Prop}
    (decimals : ∀ word, Decimal.isDecimal word = true → good word)
    (keywords : ∀ value, good (Json.boolText value)) {atom : Atom} (h : atom.IsFinite) :
    atom.toSExpr.EachWord good := by
  cases atom with
  | string text => exact trivial
  | integer n => exact decimals _ (Decimal.isDecimal_integer n.toInt)
  | unsigned n => exact decimals _ (Decimal.isDecimal_integer n.toNat)
  | double x => exact decimals _ (Decimal.isDecimal_double h)
  | boolean value => exact keywords value

namespace Operation

variable {good : List Char → Prop}

/-- True of a single condition whose words are good. -/
def GoodWords (good : List Char → Prop) (leaf : Operation) : Prop :=
  (∀ symbol, leaf.target? = some symbol → symbol.toSExpr.EachWord good) ∧
    ∀ atom, leaf.value? = some atom → atom.toSExpr.EachWord good

mutual

/-- The words of an operation are operators and the words of its conditions. -/
theorem eachWord_toSExpr (tokens : ∀ token : Token, good token.chars) :
    ∀ operation : Operation, (∀ leaf ∈ operation.leaves, leaf.GoodWords good) →
      operation.toSExpr.EachWord good
  | .atom value, h => (h _ (List.mem_singleton.mpr rfl)).2 value rfl
  | .symbol target, h => (h _ (List.mem_singleton.mpr rfl)).1 target rfl
  | .comparison op target value, h => by
    obtain ⟨htarget, hvalue⟩ := h _ (List.mem_singleton.mpr rfl)
    exact ⟨tokens _, htarget target rfl, hvalue value rfl, trivial⟩
  | .equality op target value, h => by
    obtain ⟨htarget, hvalue⟩ := h _ (List.mem_singleton.mpr rfl)
    exact ⟨tokens _, htarget target rfl, hvalue value rfl, trivial⟩
  | .contains target value, h => by
    obtain ⟨htarget, hvalue⟩ := h _ (List.mem_singleton.mpr rfl)
    exact ⟨tokens _, htarget target rfl, hvalue value rfl, trivial⟩
  | .nullCheck op target, h =>
    ⟨tokens _, (h _ (List.mem_singleton.mpr rfl)).1 target rfl, trivial⟩
  | .logic op first rest, h => by
    rw [leaves_logic] at h
    obtain ⟨hfirst, hrest⟩ := List.forall_mem_append.mp h
    exact ⟨tokens _, eachWord_toSExpr tokens first hfirst, eachWordOf_toSExprs tokens rest hrest⟩
  | .negation inner, h => by
    rw [leaves_negation] at h
    exact ⟨tokens _, eachWord_toSExpr tokens inner h, trivial⟩

theorem eachWordOf_toSExprs (tokens : ∀ token : Token, good token.chars) :
    ∀ operands : List Operation, (∀ leaf ∈ leavesOf operands, leaf.GoodWords good) →
      SExpr.EachWordOf good (toSExprs operands)
  | [], _ => trivial
  | operand :: rest, h => by
    rw [leavesOf_cons] at h
    obtain ⟨hfirst, hrest⟩ := List.forall_mem_append.mp h
    exact ⟨eachWord_toSExpr tokens operand hfirst, eachWordOf_toSExprs tokens rest hrest⟩

end

end Operation

end RowFilter
