import RowFilter.Yaml.Scalar

/-!
# Tokens of YAML

A YAML text is a row of tokens: the marks of its collections, scalars, names given
to parts and used for them, tags, and what belongs to a document as a whole. Block
collections have no marks for their start and end in the text; their tokens stand
where the indentation changes.
-/

namespace RowFilter.Yaml

/-- What a part is said to be: a handle, which a directive may explain, and what
follows it. -/
structure Tag where
  handle : String
  suffix : String
  deriving DecidableEq, Repr

/-- A token. -/
inductive Token where
  | blockSequenceStart
  | blockMappingStart
  | blockEnd
  | flowSequenceStart
  | flowSequenceEnd
  | flowMappingStart
  | flowMappingEnd
  /-- The hyphen in front of an item. -/
  | blockEntry
  /-- The comma between items. -/
  | flowEntry
  /-- What follows is a key. -/
  | key
  /-- What follows is the value of a key. -/
  | value
  /-- A part that was named before. -/
  | reference (name : String)
  /-- A name for the part that follows. -/
  | anchor (name : String)
  | tag (tag : Tag)
  | scalar (scalar : Scalar)
  /-- A directive on the version of the format. -/
  | version
  /-- A directive on the meaning of a handle. -/
  | handle (handle meaning : String)
  | documentStart
  | documentEnd
  deriving DecidableEq, Repr

/-- The scalar of a token that is one. -/
def Token.scalar? : Token → Option Scalar
  | .scalar s => some s
  | _ => none

end RowFilter.Yaml
