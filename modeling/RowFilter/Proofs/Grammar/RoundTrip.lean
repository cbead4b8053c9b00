import RowFilter.Proofs.Grammar.Leaves
import RowFilter.Proofs.Grammar.Reading
import RowFilter.Proofs.Grammar.Written

/-!
# The grammar is uniquely readable

The reader of the grammar gives back what was written:

> `readFront_render`: reading the text of an operation gives its `expression`, which is
> the operation with every number known by its digits, and whatever stands behind it.

That takes conditions that can be read (`Operation.IsReadable`): names are words, a
bare column is not spelled like a literal, and numbers are finite. A column named
`true` would be read as a truth value, and one with a space in it as two words.
-/

namespace RowFilter

open SExpr (PlainWord Stops)

/-- A literal without the way in which its number is stored. -/
def Atom.literal : Atom → Literal
  | .string text => .string text
  | .integer n => .number (Decimal.integer n.toInt)
  | .unsigned n => .number (Decimal.integer n.toNat)
  | .double x => .number (Decimal.double Decimal.plain x)
  | .boolean value => .boolean value

namespace Operation

mutual

/-- An operation without the way in which its numbers are stored. -/
def expression : Operation → Expression
  | .atom value => .literal value.literal
  | .symbol target => .symbol target
  | .comparison op target value => .condition (.comparison op target value.literal)
  | .equality op target value => .condition (.equality op target value.literal)
  | .contains target value => .condition (.contains target value.literal)
  | .nullCheck op target => .condition (.nullCheck op target)
  | .logic op first rest => .logic op (expression first) (expressions rest)
  | .negation inner => .negation (expression inner)

/-- Several operations without the way in which their numbers are stored. -/
def expressions : List Operation → List Expression
  | [] => []
  | operand :: rest => expression operand :: expressions rest

end

end Operation

/-! ## What can be read -/

/-- True of a symbol whose name is a word. -/
def Symbol.IsPlain (symbol : Symbol) : Prop := PlainWord symbol.name.toList

/-- True of a symbol that is not spelled like a literal. -/
def Symbol.IsNoLiteral : Symbol → Prop
  | .column name => name ≠ "true" ∧ name ≠ "false" ∧ Decimal.isDecimal name.toList = false
  | .pointer .. => True

/-- What it takes for a single condition to be read. Where a symbol must stand, a name
spelled like a literal does no harm. -/
structure Operation.IsReadable (leaf : Operation) : Prop where
  name : ∀ symbol, leaf.target? = some symbol → symbol.IsPlain
  finite : ∀ atom, leaf.value? = some atom → atom.IsFinite
  bare : ∀ symbol, leaf = .symbol symbol → symbol.IsNoLiteral

/-- The characters are looked at one by one; there are too many to go through all. -/
instance (word : List Char) : Decidable (PlainWord word) :=
  @instDecidableAnd _ _ inferInstance (List.decidableBAll _ word)

instance (symbol : Symbol) : Decidable symbol.IsPlain :=
  inferInstanceAs (Decidable (PlainWord symbol.name.toList))

instance : (symbol : Symbol) → Decidable symbol.IsNoLiteral
  | .column _ => inferInstanceAs (Decidable (_ ∧ _ ∧ _))
  | .pointer .. => inferInstanceAs (Decidable True)

instance : (atom : Atom) → Decidable atom.IsFinite
  | .string _ => inferInstanceAs (Decidable True)
  | .integer _ => inferInstanceAs (Decidable True)
  | .unsigned _ => inferInstanceAs (Decidable True)
  | .double x => inferInstanceAs (Decidable (x.isFinite = true))
  | .boolean _ => inferInstanceAs (Decidable True)

/-! ## Words -/

theorem Token.ofChars?_chars (token : Token) : Token.ofChars? token.chars = some token := by
  cases token <;> rfl

theorem Token.plainWord_chars (token : Token) : PlainWord token.chars := by
  cases token <;> decide

/-- A decimal is a word. -/
theorem Decimal.plainWord_of_isDecimal {text : List Char} (h : Decimal.isDecimal text = true) :
    PlainWord text := by
  obtain ⟨hne, hmem⟩ := Decimal.mem_of_isDecimal h
  refine ⟨hne, fun c hc => ?_⟩
  rw [Bool.eq_false_iff]
  intro hd
  have hcases : ((c = ' ' ∨ c = '(') ∨ c = ')') ∨ c = '"' := by
    simpa [SExpr.isDelimiter] using hd
  -- a delimiter is no digit, no point and no minus sign
  rcases hmem c hc with hdigit | rfl | rfl
  · rcases hcases with ((rfl | rfl) | rfl) | rfl <;> exact absurd hdigit (by decide)
  · exact absurd hd (by decide)
  · exact absurd hd (by decide)

theorem Literal.ofWord?_of_isDecimal {text : List Char} (h : Decimal.isDecimal text = true) :
    Literal.ofWord? text = some (.number text) := by
  have hkeyword : ∀ word, Decimal.isDecimal word = false → text ≠ word := by
    rintro word hw rfl
    rw [hw] at h
    exact absurd h (by decide)
  rw [Literal.ofWord?, if_neg (hkeyword _ (by decide)), if_neg (hkeyword _ (by decide)), if_pos h]

theorem Literal.ofWord?_name {name : String} (h : (Symbol.column name).IsNoLiteral) :
    Literal.ofWord? name.toList = none := by
  obtain ⟨ht, hf, hd⟩ := h
  have hother : ∀ word : String, name ≠ word → name.toList ≠ word.toList :=
    fun word hne heq => hne (String.toList_inj.mp heq)
  have htrue : name.toList ≠ ['t', 'r', 'u', 'e'] := hother "true" ht
  have hfalse : name.toList ≠ ['f', 'a', 'l', 's', 'e'] := hother "false" hf
  rw [Literal.ofWord?, if_neg htrue, if_neg hfalse, hd]
  rfl

/-! ## Symbols and literals read back -/

theorem Symbol.ofSExpr?_toSExpr (symbol : Symbol) :
    Symbol.ofSExpr? symbol.toSExpr = some symbol := by
  cases symbol with
  | column name => simp [toSExpr, ofSExpr?]
  | pointer document path => simp [toSExpr, ofSExpr?]

theorem Literal.ofSExpr?_toSExpr {atom : Atom} (h : atom.IsFinite) :
    Literal.ofSExpr? atom.toSExpr = some atom.literal := by
  cases atom with
  | string text => simp [Atom.toSExpr, ofSExpr?, Atom.literal]
  | integer n => exact ofWord?_of_isDecimal (Decimal.isDecimal_integer n.toInt)
  | unsigned n => exact ofWord?_of_isDecimal (Decimal.isDecimal_integer n.toNat)
  | double x => exact ofWord?_of_isDecimal (Decimal.isDecimal_double h)
  | boolean value => cases value <;> rfl

/-! ## Operations read back -/

/-- A part with an operator in front is what its operator makes of the rest. -/
theorem Expression.ofSExpr?_headed (token : Token) (operands : List SExpr) :
    Expression.ofSExpr? (.list (.word token.chars) operands)
      = Expression.headed? operands (Expression.ofSExprs? operands) token := by
  rw [Expression.ofSExpr?, Token.ofChars?_chars]
  rfl

theorem Condition.binary?_toSExpr (make : Symbol → Literal → Condition) (target : Symbol)
    {value : Atom} (h : value.IsFinite) :
    Condition.binary? make [target.toSExpr, value.toSExpr]
      = some (.condition (make target value.literal)) := by
  rw [Condition.binary?, Symbol.ofSExpr?_toSExpr, Literal.ofSExpr?_toSExpr h]
  rfl

theorem Condition.unary?_toSExpr (make : Symbol → Condition) (target : Symbol) :
    Condition.unary? make [target.toSExpr] = some (.condition (make target)) := by
  rw [Condition.unary?, Symbol.ofSExpr?_toSExpr]
  rfl

namespace Expression

/-- A literal on its own is read as one. -/
theorem ofSExpr?_atom {value : Atom} (h : value.IsFinite) :
    ofSExpr? value.toSExpr = some (.literal value.literal) := by
  have hl := Literal.ofSExpr?_toSExpr h
  cases value with
  | string text => simp [Atom.toSExpr, ofSExpr?, Atom.literal]
  | integer n =>
    rw [Atom.toSExpr, Literal.ofSExpr?] at hl
    rw [Atom.toSExpr, ofSExpr?, hl]
  | unsigned n =>
    rw [Atom.toSExpr, Literal.ofSExpr?] at hl
    rw [Atom.toSExpr, ofSExpr?, hl]
  | double x =>
    rw [Atom.toSExpr, Literal.ofSExpr?] at hl
    rw [Atom.toSExpr, ofSExpr?, hl]
  | boolean value =>
    rw [Atom.toSExpr, Literal.ofSExpr?] at hl
    rw [Atom.toSExpr, ofSExpr?, hl]

/-- A symbol on its own is read as one. -/
theorem ofSExpr?_symbol {target : Symbol} (h : target.IsNoLiteral) :
    ofSExpr? target.toSExpr = some (.symbol target) := by
  cases target with
  | column name =>
    rw [Symbol.toSExpr, ofSExpr?, Literal.ofWord?_name h]
    simp
  | pointer document path =>
    rw [Symbol.toSExpr, ofSExpr?_headed]
    simp [headed?, Symbol.ofSExpr?]

end Expression

namespace Operation

/-- The conditions of a conjunction or disjunction can be read if those of its
operands can. -/
theorem readable_logic {op : LogicOperator} {first : Operation} {rest : List Operation}
    (h : ∀ leaf ∈ (Operation.logic op first rest).leaves, leaf.IsReadable) :
    (∀ leaf ∈ first.leaves, leaf.IsReadable) ∧ ∀ leaf ∈ leavesOf rest, leaf.IsReadable := by
  rw [leaves_logic] at h
  exact List.forall_mem_append.mp h

mutual

theorem ofSExpr?_toSExpr : ∀ operation : Operation,
    (∀ leaf ∈ operation.leaves, leaf.IsReadable) →
    Expression.ofSExpr? operation.toSExpr = some operation.expression
  | .atom value, h => by
    rw [toSExpr, expression]
    exact Expression.ofSExpr?_atom ((h _ (List.mem_singleton.mpr rfl)).finite value rfl)
  | .symbol target, h => by
    rw [toSExpr, expression]
    exact Expression.ofSExpr?_symbol ((h _ (List.mem_singleton.mpr rfl)).bare target rfl)
  | .comparison op target value, h => by
    have hvalue := (h _ (List.mem_singleton.mpr rfl)).finite value rfl
    rw [toSExpr, Expression.ofSExpr?_headed]
    cases op <;> exact Condition.binary?_toSExpr _ target hvalue
  | .equality op target value, h => by
    have hvalue := (h _ (List.mem_singleton.mpr rfl)).finite value rfl
    rw [toSExpr, Expression.ofSExpr?_headed]
    cases op <;> exact Condition.binary?_toSExpr _ target hvalue
  | .contains target value, h => by
    have hvalue := (h _ (List.mem_singleton.mpr rfl)).finite value rfl
    rw [toSExpr, Expression.ofSExpr?_headed]
    exact Condition.binary?_toSExpr _ target hvalue
  | .nullCheck op target, _ => by
    rw [toSExpr, Expression.ofSExpr?_headed]
    cases op <;> exact Condition.unary?_toSExpr _ target
  | .logic op first rest, h => by
    -- the reader takes any operands for AND and OR, so theirs decide alone
    obtain ⟨hfirst, hrest⟩ := readable_logic h
    rw [toSExpr, Expression.ofSExpr?_headed, Expression.ofSExprs?, ofSExpr?_toSExpr first hfirst,
      ofSExprs?_toSExprs rest hrest]
    cases op <;> rfl
  | .negation inner, h => by
    rw [leaves_negation] at h
    rw [toSExpr, Expression.ofSExpr?_headed, Expression.ofSExprs?, ofSExpr?_toSExpr inner h]
    rfl

theorem ofSExprs?_toSExprs : ∀ operands : List Operation,
    (∀ leaf ∈ leavesOf operands, leaf.IsReadable) →
    Expression.ofSExprs? (toSExprs operands) = some (expressions operands)
  | [], _ => rfl
  | operand :: rest, h => by
    rw [leavesOf_cons] at h
    obtain ⟨hfirst, hrest⟩ := List.forall_mem_append.mp h
    rw [toSExprs, Expression.ofSExprs?, ofSExpr?_toSExpr operand hfirst,
      ofSExprs?_toSExprs rest hrest]
    rfl

end

/-- The words of a condition that can be read are words. -/
theorem goodWords_of_isReadable {leaf : Operation} (h : leaf.IsReadable) :
    leaf.GoodWords PlainWord := by
  refine ⟨fun symbol hs => ?_, fun atom ha => ?_⟩
  · exact Symbol.eachWord_toSExpr Token.plainWord_chars (h.name symbol hs)
  · refine Atom.eachWord_toSExpr (fun _ => Decimal.plainWord_of_isDecimal) ?_ (h.finite atom ha)
    intro value
    cases value <;> decide

/-- The text of an operation reads back as the operation, whatever follows it. -/
theorem readFront_render {operation : Operation} {rest : List Char}
    (h : ∀ leaf ∈ operation.leaves, leaf.IsReadable) (hr : Stops rest) :
    Expression.readFront (operation.render ++ rest) = some (operation.expression, rest) := by
  have hwords := eachWord_toSExpr Token.plainWord_chars operation fun leaf hm =>
    goodWords_of_isReadable (h leaf hm)
  obtain ⟨_, hread⟩ := SExpr.read_render operation.toSExpr rest hwords hr
  rw [← render_toSExpr, Expression.readFront, hread]
  show (Expression.ofSExpr? operation.toSExpr).map _ = _
  rw [ofSExpr?_toSExpr operation h]
  rfl

/-- The whole text of an operation reads back as the operation. -/
theorem read_text {operation : Operation} (h : ∀ leaf ∈ operation.leaves, leaf.IsReadable) :
    Expression.read operation.text = some operation.expression := by
  have hstops : Stops [] := by intro c hc; exact absurd hc (by simp)
  have hread : Expression.readFront (operation.render ++ []) = some (operation.expression, []) :=
    readFront_render h hstops
  rw [List.append_nil] at hread
  rw [Expression.read, text, String.toList_ofList, hread]

/-- True of an operation whose names are words that are no literals and whose numbers
are finite. -/
def IsWritable (operation : Operation) : Prop :=
  (∀ symbol ∈ operation.symbols, symbol.IsPlain ∧ symbol.IsNoLiteral) ∧
    ∀ atom ∈ operation.atoms, atom.IsFinite

/-- The conditions of such an operation can be read. -/
theorem IsWritable.readable {operation : Operation} (h : operation.IsWritable) :
    ∀ leaf ∈ operation.leaves, leaf.IsReadable := by
  intro leaf hm
  have symbols : ∀ symbol, leaf.target? = some symbol → symbol.IsPlain ∧ symbol.IsNoLiteral :=
    fun symbol hs => h.1 symbol (List.mem_filterMap.mpr ⟨leaf, hm, hs⟩)
  refine ⟨fun symbol hs => (symbols symbol hs).1, ?_, ?_⟩
  · exact fun atom ha => h.2 atom (List.mem_filterMap.mpr ⟨leaf, hm, ha⟩)
  · rintro symbol rfl
    exact (symbols symbol rfl).2

/-- **The grammar is uniquely readable.** The text of an operation with any text behind
it that can follow is read as the operation, a number known by its digits, and exactly
that text. So operations with the same text differ at most in how a number is stored. -/
theorem uniquely_readable :
    (∀ operation : Operation, operation.IsWritable → ∀ rest, Stops rest →
      Expression.readFront (operation.text.toList ++ rest) = some (operation.expression, rest)) ∧
    ∀ a b : Operation, a.IsWritable → b.IsWritable → a.text = b.text →
      a.expression = b.expression := by
  have reads : ∀ operation : Operation, operation.IsWritable → ∀ rest, Stops rest →
      Expression.readFront (operation.text.toList ++ rest)
        = some (operation.expression, rest) := by
    intro operation h rest hr
    rw [text, String.toList_ofList]
    exact readFront_render h.readable hr
  refine ⟨reads, ?_⟩
  -- one text is read in one way only, and it is the text of both
  intro a b ha hb htext
  have hstop : Stops [] := by intro c hc; exact absurd hc (by simp)
  have hread := reads a ha [] hstop
  rw [htext, reads b hb [] hstop] at hread
  exact (Prod.mk.inj (Option.some.inj hread)).1.symm

instance (operation : Operation) : Decidable operation.IsWritable :=
  inferInstanceAs (Decidable (_ ∧ _))

/-- Literals and a path that look like filters, below AND, NOT and OR. -/
def lookalike : Operation :=
  .logic .and (.equality .unequal (.column "variables.name") (.string "\") (NOT \\"))
    [.negation (.logic .or (.nullCheck .isNull (.pointer "grapherConfig" "/a\") (OR"))
      [.comparison .greater (.column "id") (.double ⟨0x3FE0000000000000⟩)]),
      .atom (.boolean true), .symbol (.column "id")]

/-- `2^53` stored as an integer. -/
def wholeNumber : Operation := .atom (.integer 9007199254740992)

/-- `2^53` stored as a double. -/
def wholeDouble : Operation := .atom (.double ⟨0x4340000000000000⟩)

/-- Such an operation in front of more text, and a number stored in two ways. -/
theorem lookalike_reads :
    (lookalike.IsWritable ∧ Stops [')', ' ', '"'] ∧
      Expression.readFront (lookalike.text.toList ++ [')', ' ', '"'])
        = some (lookalike.expression, [')', ' ', '"'])) ∧
    (wholeNumber.IsWritable ∧ wholeDouble.IsWritable ∧ wholeNumber.text = wholeDouble.text ∧
      wholeNumber.expression = wholeDouble.expression) := by
  have hwritable : lookalike.IsWritable := by decide
  have hstops : Stops [')', ' ', '"'] := SExpr.stops_cons (Or.inr rfl)
  have hnumber : wholeNumber.IsWritable := by decide
  have hdouble : wholeDouble.IsWritable := by decide
  have htext : wholeNumber.text = wholeDouble.text := by decide +kernel
  exact ⟨⟨hwritable, hstops, uniquely_readable.1 lookalike hwritable _ hstops⟩,
    hnumber, hdouble, htext, uniquely_readable.2 _ _ hnumber hdouble htext⟩

end Operation

end RowFilter
