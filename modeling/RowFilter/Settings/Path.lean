import RowFilter.Decimal.Reading
import RowFilter.Settings.FileValue

/-!
# Keys that are paths

A key at the top of a settings file is a path into the settings, so one file may
set parts of a table or a list one by one. A path is a name and then any number of
steps: `.name` into a table and `[3]` into a list. A key that is no path is taken as
the name of a member.

> `FileValue.setAt`: sets a value at a path. Whatever stands in the way of a step is
> replaced by an empty table or an empty list, and a list grows with `null` until it
> has the wanted place. A table is merged into what is there, member by member;
> anything else takes its place.

An index below zero counts from the end of the list. One that lies in front of the
list's start makes the list grow at its front, and means its new first item.
-/

namespace RowFilter.Settings

/-- A step of a path: into a table or into a list. -/
inductive Step where
  | key (name : String)
  | index (i : Int)
  deriving DecidableEq, Repr

namespace Step

/-- True of the characters that names in a path are made of. -/
def isNameChar (c : Char) : Bool :=
  ('a' ≤ c && c ≤ 'z') || ('A' ≤ c && c ≤ 'Z') || ('0' ≤ c && c ≤ '9') || c == '_' || c == '-'

/-- True of a space and a tab, which may stand around an index. -/
def isPadding (c : Char) : Bool := c == ' ' || c == '\t'

/-- The index between brackets: digits behind a minus sign or none, if they fit a
signed 64-bit word. -/
def index? (text : List Char) : Option Int :=
  let bare := ((text.dropWhile isPadding).reverse.dropWhile isPadding).reverse
  match bare with
  | '+' :: _ => none
  | other => Decimal.integer? 10 other

/-- The steps of a path behind its first name. -/
def more? (text : List Char) : Option (List Step) :=
  match text with
  | [] => some []
  | c :: rest =>
    if c = '.' then
      let name := rest.takeWhile isNameChar
      if name.isEmpty then none
      else (more? (rest.dropWhile isNameChar)).map (.key (String.ofList name) :: ·)
    else if c = '[' then
      match index? (rest.takeWhile (· != ']')) with
      | none => none
      | some i =>
        if rest.contains ']' then
          (more? ((rest.dropWhile (· != ']')).drop 1)).map (.index i :: ·)
        else none
    else none
  termination_by text.length
  decreasing_by
    · have := (List.dropWhile_suffix (l := rest) isNameChar).length_le
      simp only [List.length_cons]; omega
    · have := (List.dropWhile_suffix (l := rest) (· != ']')).length_le
      simp only [List.length_cons, List.length_drop]; omega

/-- The steps of a key; one that is no path is a single step. -/
def ofKey (key : String) : List Step :=
  let name := key.toList.takeWhile isNameChar
  match more? (key.toList.dropWhile isNameChar) with
  | some steps => if name.isEmpty then [.key key] else .key (String.ofList name) :: steps
  | none => [.key key]

end Step

namespace FileValue

/-- The members of a table; other values have none. -/
def members : FileValue → List (String × FileValue)
  | .table members => members
  | _ => []

/-- The items of a list; other values have none. -/
def items : FileValue → List FileValue
  | .list items => items
  | _ => []

mutual

/-- A value set over another one: tables are merged, anything else is replaced. -/
def merge (base : FileValue) : FileValue → FileValue
  | .table incoming => .table (mergeMembers base.members incoming)
  | .list items => .list items
  | .text value => .text value
  | .double x => .double x
  | .integer n => .integer n
  | .bool value => .bool value
  | .null => .null

/-- Members set over others, one by one. -/
def mergeMembers (base : List (String × FileValue)) :
    List (String × FileValue) → List (String × FileValue)
  | [] => base
  | (key, value) :: rest =>
    mergeMembers (Keyed.put key (merge ((Keyed.get? key base).getD .null) value) base) rest

end

/-- A list that has a place for an index, and that place. -/
def makeRoom (i : Int) (items : List FileValue) : List FileValue × Nat :=
  let place := if 0 ≤ i then i else items.length + i
  if 0 ≤ place then
    (items ++ List.replicate (place.toNat + 1 - items.length) .null, place.toNat)
  else (List.replicate (-place).toNat .null ++ items, 0)

/-- A value set at a path. -/
def setAt (value : FileValue) : (path : List Step) → (base : FileValue) → FileValue
  | [], base => merge base value
  | .key name :: path, base =>
    .table (Keyed.put name (setAt value path ((Keyed.get? name base.members).getD .null))
      base.members)
  | .index i :: path, base =>
    let (items, place) := makeRoom i base.items
    .list (items.set place (setAt value path (items[place]?.getD .null)))

/-- The content of a file with the keys at its top taken as paths. -/
def assemble : FileValue → FileValue
  | .table members =>
    members.foldl (fun base (key, value) => setAt value (Step.ofKey key) base) (.table [])
  | other => other

end FileValue

end RowFilter.Settings
