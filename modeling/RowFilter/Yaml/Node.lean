import RowFilter.Yaml.Token

/-!
# Nodes of YAML

The tokens of a document make a tree of nodes: scalars, sequences and mappings, each
with the name and the tag it was given, and uses of names. What is left out between
two marks, such as the value of a key without one, is a node as well, which stands for
nothing.

> `Document.ofTokens?`: the only document of a text, an inner `none` if the text has
> none. A text of several documents is refused.

The readers are written by the number of tokens that they leave.
-/

namespace RowFilter.Yaml

/-- What is said of a part in front of it. -/
structure Properties where
  anchor : Option String
  tag : Option Tag
  deriving DecidableEq, Repr

/-- Nothing said. -/
def Properties.none : Properties := ⟨.none, .none⟩

/-- A part of a document. -/
inductive Node where
  | scalar (properties : Properties) (scalar : Scalar)
  | sequence (properties : Properties) (items : List Node)
  | mapping (properties : Properties) (members : List (Node × Node))
  /-- The part that has a name. -/
  | reference (name : String)
  deriving Repr

/-- A part that was left out. -/
def Node.omitted : Node := .scalar .none ⟨['~'], false⟩

/-- Tokens that are left after at least one was read. -/
abbrev Fewer (tokens : List Token) := { rest : List Token // rest.length < tokens.length }

/-- Tokens that are left after some may have been read. -/
abbrev NotMore (tokens : List Token) := { rest : List Token // rest.length ≤ tokens.length }

/-- The name and the tag in front of a part, in any order. -/
def readProperties : (tokens : List Token) → Properties × NotMore tokens
  | .anchor name :: .tag tag :: rest =>
    (⟨name, tag⟩, ⟨rest, by simp only [List.length_cons]; omega⟩)
  | .tag tag :: .anchor name :: rest =>
    (⟨name, tag⟩, ⟨rest, by simp only [List.length_cons]; omega⟩)
  | .anchor name :: rest => (⟨name, none⟩, ⟨rest, by simp⟩)
  | .tag tag :: rest => (⟨none, tag⟩, ⟨rest, by simp⟩)
  | tokens => (.none, ⟨tokens, Nat.le_refl _⟩)

/-- What follows the comma between items; in front of the first item there is none. -/
def readComma (first : Bool) (tokens : List Token) : Option (NotMore tokens) :=
  if first then some ⟨tokens, Nat.le_refl _⟩
  else
    match tokens with
    | .flowEntry :: rest => some ⟨rest, by simp⟩
    | _ => none

/-- True if the first token is one of those that show that a part was left out. -/
def startsWith (marks tokens : List Token) : Bool :=
  match tokens with
  | [] => false
  | token :: _ => marks.contains token

/-- The marks in front of which an item of a block sequence was left out. -/
def itemMarks : List Token := [.blockEntry, .blockEnd]

/-- The marks in front of which a key or a value of a block mapping was left out. -/
def memberMarks : List Token := [.key, .value, .blockEnd]

/-- The marks in front of which a value inside square brackets was left out. -/
def pairMarks : List Token := [.flowEntry, .flowSequenceEnd]

/-- The marks in front of which a value inside braces was left out. -/
def braceMarks : List Token := [.flowEntry, .flowMappingEnd]

mutual

/-- The part at the front. Block collections are found outside brackets only, and a
sequence without an indentation of its own only as a `member` of a block mapping. What
has a name or a tag may be empty. -/
def readNode (inBlock member : Bool) (tokens : List Token) : Option (Node × Fewer tokens) :=
  match tokens with
  | .reference name :: rest => some (.reference name, ⟨rest, by simp⟩)
  | tokens =>
    match readProperties tokens with
    | (properties, ⟨[], h⟩) =>
      if h' : 0 < tokens.length then some (.scalar properties ⟨[], false⟩, ⟨[], h'⟩) else none
    | (properties, ⟨token :: rest, h⟩) =>
      have h' : rest.length < tokens.length := by simp only [List.length_cons] at h; omega
      match token.scalar? with
      | some scalar => some (.scalar properties scalar, ⟨rest, h'⟩)
      | none =>
        if token = .flowSequenceStart then
          match readFlowItems true rest with
          | none => none
          | some (items, ⟨left, _⟩) => some (.sequence properties items, ⟨left, by omega⟩)
        else if token = .flowMappingStart then
          match readFlowMembers true rest with
          | none => none
          | some (members, ⟨left, _⟩) => some (.mapping properties members, ⟨left, by omega⟩)
        else if token = .blockSequenceStart ∧ inBlock then
          match readBlockItems rest with
          | none => none
          | some (items, ⟨left, _⟩) => some (.sequence properties items, ⟨left, by omega⟩)
        else if token = .blockMappingStart ∧ inBlock then
          match readBlockMembers rest with
          | none => none
          | some (members, ⟨left, _⟩) => some (.mapping properties members, ⟨left, by omega⟩)
        else if token = .blockEntry ∧ member then
          match readFlatItems rest with
          | none => none
          | some (items, ⟨left, _⟩) => some (.sequence properties items, ⟨left, by omega⟩)
        else if h'' : (token :: rest).length < tokens.length then
          some (.scalar properties ⟨[], false⟩, ⟨token :: rest, h''⟩)
        else none
  termination_by 4 * tokens.length

/-- The part at the front, unless one of the marks shows that it was left out. -/
def readPart (marks : List Token) (inBlock member : Bool) (tokens : List Token) :
    Option (Node × NotMore tokens) :=
  if startsWith marks tokens then some (.omitted, ⟨tokens, Nat.le_refl _⟩)
  else
    match readNode inBlock member tokens with
    | none => none
    | some (node, ⟨rest, h⟩) => some (node, ⟨rest, by omega⟩)
  termination_by 4 * tokens.length + 1

/-- The value of a key, which may be left out with its mark. -/
def readValue (marks : List Token) (inBlock : Bool) (tokens : List Token) :
    Option (Node × NotMore tokens) :=
  match tokens with
  | .value :: rest =>
    match readPart marks inBlock inBlock rest with
    | none => none
    | some (node, ⟨left, h⟩) => some (node, ⟨left, by simp only [List.length_cons]; omega⟩)
  | tokens => some (.omitted, ⟨tokens, Nat.le_refl _⟩)
  termination_by 4 * tokens.length + 1

/-- The items of a block sequence up to its end. -/
def readBlockItems (tokens : List Token) : Option (List Node × Fewer tokens) :=
  match tokens with
  | .blockEnd :: rest => some ([], ⟨rest, by simp⟩)
  | .blockEntry :: rest =>
    match readPart itemMarks true false rest with
    | none => none
    | some (item, ⟨more, h₁⟩) =>
      match readBlockItems more with
      | none => none
      | some (items, ⟨left, h₂⟩) =>
        some (item :: items, ⟨left, by simp only [List.length_cons]; omega⟩)
  | _ => none
  termination_by 4 * tokens.length + 2

/-- The items of a sequence without an indentation of its own, from behind the first
hyphen on. -/
def readFlatItems (tokens : List Token) : Option (List Node × NotMore tokens) :=
  match readPart (.blockEntry :: memberMarks) true false tokens with
  | none => none
  | some (item, ⟨more, h₁⟩) =>
    match more with
    | .blockEntry :: rest =>
      have h₂ : rest.length < tokens.length := by simp only [List.length_cons] at h₁; omega
      match readFlatItems rest with
      | none => none
      | some (items, ⟨left, _⟩) => some (item :: items, ⟨left, by omega⟩)
    | left => some ([item], ⟨left, h₁⟩)
  termination_by 4 * tokens.length + 2

/-- The members of a block mapping up to its end. -/
def readBlockMembers (tokens : List Token) : Option (List (Node × Node) × Fewer tokens) :=
  match tokens with
  | .blockEnd :: rest => some ([], ⟨rest, by simp⟩)
  | .key :: rest =>
    match readPart memberMarks true true rest with
    | none => none
    | some (key, ⟨behind, h₁⟩) =>
      match readValue memberMarks true behind with
      | none => none
      | some (value, ⟨more, h₂⟩) =>
        match readBlockMembers more with
        | none => none
        | some (members, ⟨left, h₃⟩) =>
          some ((key, value) :: members, ⟨left, by simp only [List.length_cons]; omega⟩)
  | .value :: rest =>
    match readPart memberMarks true true rest with
    | none => none
    | some (value, ⟨more, h₁⟩) =>
      match readBlockMembers more with
      | none => none
      | some (members, ⟨left, h₂⟩) =>
        some ((.omitted, value) :: members, ⟨left, by simp only [List.length_cons]; omega⟩)
  | _ => none
  termination_by 4 * tokens.length + 2

/-- The key of a pair inside square brackets that is written out. A key that is left
out takes the mark behind it along. -/
def readPairKey (tokens : List Token) : Option (Node × NotMore tokens) :=
  match tokens with
  | .value :: rest | .flowEntry :: rest | .flowSequenceEnd :: rest =>
    some (.omitted, ⟨rest, by simp⟩)
  | tokens =>
    match readNode false false tokens with
    | none => none
    | some (key, ⟨rest, h⟩) => some (key, ⟨rest, by omega⟩)
  termination_by 4 * tokens.length + 1

/-- The items inside square brackets up to the closing one. -/
def readFlowItems (first : Bool) (tokens : List Token) : Option (List Node × Fewer tokens) :=
  if startsWith [.flowSequenceEnd] tokens then readFlowItemsFrom tokens
  else
    match readComma first tokens with
    | none => none
    | some ⟨here, h⟩ =>
      match readFlowItemsFrom here with
      | none => none
      | some (items, ⟨left, _⟩) => some (items, ⟨left, by omega⟩)
  termination_by 4 * tokens.length + 3

/-- The items inside square brackets from behind a comma on. -/
def readFlowItemsFrom (tokens : List Token) : Option (List Node × Fewer tokens) :=
  match tokens with
  | .flowSequenceEnd :: rest => some ([], ⟨rest, by simp⟩)
  | .key :: rest =>
    match readPairKey rest with
    | none => none
    | some (key, ⟨behind, h₁⟩) =>
      match readValue pairMarks false behind with
      | none => none
      | some (value, ⟨more, h₂⟩) =>
        match readFlowItems false more with
        | none => none
        | some (items, ⟨left, h₃⟩) =>
          some (.mapping .none [(key, value)] :: items,
            ⟨left, by simp only [List.length_cons]; omega⟩)
  | tokens =>
    match readNode false false tokens with
    | none => none
    | some (item, ⟨more, _⟩) =>
      match readFlowItems false more with
      | none => none
      | some (items, ⟨left, _⟩) => some (item :: items, ⟨left, by omega⟩)
  termination_by 4 * tokens.length + 2

/-- The members inside braces up to the closing one. -/
def readFlowMembers (first : Bool) (tokens : List Token) :
    Option (List (Node × Node) × Fewer tokens) :=
  if startsWith [.flowMappingEnd] tokens then readFlowMembersFrom tokens
  else
    match readComma first tokens with
    | none => none
    | some ⟨here, h⟩ =>
      match readFlowMembersFrom here with
      | none => none
      | some (members, ⟨left, _⟩) => some (members, ⟨left, by omega⟩)
  termination_by 4 * tokens.length + 3

/-- The members inside braces from behind a comma on. -/
def readFlowMembersFrom (tokens : List Token) : Option (List (Node × Node) × Fewer tokens) :=
  match tokens with
  | .flowMappingEnd :: rest => some ([], ⟨rest, by simp⟩)
  | .key :: rest =>
    match readPart (.value :: braceMarks) false false rest with
    | none => none
    | some (key, ⟨behind, h₁⟩) =>
      match readValue braceMarks false behind with
      | none => none
      | some (value, ⟨more, h₂⟩) =>
        match readFlowMembers false more with
        | none => none
        | some (members, ⟨left, h₃⟩) =>
          some ((key, value) :: members, ⟨left, by simp only [List.length_cons]; omega⟩)
  | .value :: rest =>
    match readPart braceMarks false false rest with
    | none => none
    | some (value, ⟨more, h₁⟩) =>
      match readFlowMembers false more with
      | none => none
      | some (members, ⟨left, h₂⟩) =>
        some ((.omitted, value) :: members, ⟨left, by simp only [List.length_cons]; omega⟩)
  | tokens =>
    match readNode false false tokens with
    | none => none
    | some (key, ⟨more, _⟩) =>
      match readFlowMembers false more with
      | none => none
      | some (members, ⟨left, _⟩) => some ((key, .omitted) :: members, ⟨left, by omega⟩)
  termination_by 4 * tokens.length + 2

end

/-! ## Documents -/

/-- A document: its root and what its directives say handles mean. -/
structure Document where
  root : Node
  handles : List (String × String)
  deriving Repr

/-- The directives in front of a document. The version is given once, and each
directive takes the place of the one before it. -/
def readDirectives (hasVersion : Bool) (handles : List (String × String)) :
    List Token → Option (List (String × String) × List Token)
  | .version :: rest => if hasVersion then none else readDirectives true [] rest
  | .handle handle meaning :: rest => readDirectives hasVersion [(handle, meaning)] rest
  | tokens => some (handles, tokens)

/-- The part at the front of a document and the tokens behind it. -/
def readRoot (tokens : List Token) : Option (Node × List Token) :=
  match readNode true false tokens with
  | none => none
  | some (node, ⟨rest, _⟩) => some (node, rest)

/-- The root behind the marker of a document's start, which may be left out. -/
def readMarkedRoot (tokens : List Token) : Option (Node × List Token) :=
  match tokens with
  | [] => some (.omitted, [])
  | .version :: _ | .handle _ _ :: _ | .documentStart :: _ | .documentEnd :: _ =>
    some (.omitted, tokens)
  | tokens => readRoot tokens

/-- The only document of a text. Directives are followed by the marker of its start. -/
def Document.ofTokens? (tokens : List Token) : Option (Option Document) :=
  match tokens.dropWhile (· == .documentEnd) with
  | [] => some none
  | tokens =>
    match readDirectives false [] tokens with
    | none => none
    | some (handles, rest) =>
      let content :=
        match rest with
        | .documentStart :: rest => readMarkedRoot rest
        | rest => if rest.length = tokens.length then readRoot rest else none
      match content with
      | none => none
      | some (root, rest) =>
        if rest.all (· == Token.documentEnd) then some (some ⟨root, handles⟩) else none

end RowFilter.Yaml
