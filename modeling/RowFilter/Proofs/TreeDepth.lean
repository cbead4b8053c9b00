import RowFilter.Proofs.Batch
import RowFilter.Proofs.Json.Depth
import RowFilter.Proofs.Json.Reading
import RowFilter.Proofs.Subtree

/-!
# How deep a tree can be

A tree is read from a JSON value before any bound is looked at, so what keeps the reading in
bounds is the text. From a group to its children there are two steps down in the value, one
to `children1` and one to the child. So a node at a depth lies below twice as many arrays
and objects:

> `two_mul_depth_le`: twice the depth of a node is at most the depth of the value;
> `tree_half_as_deep`: with a reader that nests 127 arrays and objects at most, no tree is
> deeper than 63, and no bound from there on refuses one.

`parse_nested` is a text of 127 nested arrays and objects for which both are exact.
-/

namespace RowFilter

/-! ## From a group to its children -/

/-- A child lies two steps below its group. -/
theorem Node.depth_add_two_le_of_mem_children {value child : Json} (h : child ∈ children value) :
    child.depth + 2 ≤ value.depth := by
  unfold children at h
  cases hc : value.get? "children1" with
  | none =>
    rw [hc] at h
    exact absurd h List.not_mem_nil
  | some content =>
    rw [hc] at h
    have hcontent : content.depth < value.depth := Json.depth_lt_of_get? hc
    have hchild : child.depth + 1 ≤ content.depth := by
      cases content with
      | array items =>
        rw [Json.depth]
        exact Nat.succ_le_succ (Json.depthOfItems_le_iff.mp (Nat.le_refl _) child h)
      | object members =>
        obtain ⟨member, hmember, rfl⟩ := List.mem_map.mp h
        rw [Json.depth]
        exact Nat.succ_le_succ (Json.depthOfMembers_le_iff.mp (Nat.le_refl _) member hmember)
      | _ => exact absurd h List.not_mem_nil
    omega

/-- What hangs at a depth reaches down half as far as the value that it is read from. -/
theorem Node.two_mul_depth_le (value : Json) (depth : Nat) :
    ∀ place ∈ (ofJson value).preorder depth, 2 * place.1 ≤ 2 * depth + value.depth := by
  induction value using ofJson_induction generalizing depth with
  | group value h ih =>
    intro place hplace
    rw [ofJson_group h, preorder, preorderOf_eq_flatMap] at hplace
    rcases List.mem_cons.mp hplace with rfl | hbelow
    · omega
    · obtain ⟨node, hnode, hplace⟩ := List.mem_flatMap.mp hbelow
      obtain ⟨child, hchild, rfl⟩ := List.mem_map.mp hnode
      have hdeep := ih child hchild (depth + 1) place hplace
      have hstep := depth_add_two_le_of_mem_children hchild
      omega
  | rule value h =>
    intro place hplace
    rw [ofJson_rule h] at hplace
    rw [List.mem_singleton.mp hplace]
    omega
  | unknown value hg hr =>
    intro place hplace
    rw [ofJson_unknown hg hr] at hplace
    rw [List.mem_singleton.mp hplace]
    omega

namespace Command

/-- A text whose tree is refused is JSON, and its tree has no filter. -/
theorem exists_parse_of_refused {scope : Scope} {text : List Char} {error : FilterError}
    (h : (readTree scope text).1 = .error (.refused error)) :
    ∃ value, Json.parseChars text = .ok value ∧ scope.filterOfJson value = .error error := by
  rw [fst_readTree] at h
  cases hparse : Json.parseChars text with
  | error fault =>
    rw [hparse] at h
    exact absurd (Except.error.inj h) (by simp)
  | ok value =>
    rw [hparse] at h
    obtain ⟨found, hfilter, hfound⟩ := mapError_eq_error_iff.mp h
    obtain rfl := TreeError.refused.inj hfound
    exact ⟨value, rfl, hfilter⟩

end Command

/-- **A tree is half as deep as its text is nested.** Twice the depth of a node is at most
the nesting of the value that its tree is read from. The reader gives no value with more
than 127 nested arrays and objects. From such values, whatever they were read by, come trees
no deeper than 63, which no bound from there on refuses for their depth. So no text of a
tree is refused for its depth under such a bound. -/
theorem tree_half_as_deep :
    (∀ value : Json, ∀ place ∈ (Node.ofJson value).preorder 0, 2 * place.1 ≤ value.depth) ∧
    (∀ (text : String) (value : Json), Json.parse text = .ok value → value.depth ≤ 127) ∧
    (∀ value : Json, value.depth ≤ 127 →
      (∀ place ∈ (Node.ofJson value).preorder 0, place.1 ≤ 63) ∧
      ∀ (scope : Scope) (bound : Nat), 63 ≤ scope.maxDepth →
        scope.filterOfJson value ≠ .error (.tooDeep bound)) ∧
    ∀ (scope : Scope) (text : List Char) (bound : Nat), 63 ≤ scope.maxDepth →
      (Command.readTree scope text).1 ≠ .error (.refused (.tooDeep bound)) := by
  have half : ∀ value : Json, ∀ place ∈ (Node.ofJson value).preorder 0,
      2 * place.1 ≤ value.depth := by
    intro value place hplace
    have hdeep := Node.two_mul_depth_le value 0 place hplace
    omega
  have shallow : ∀ value : Json, value.depth ≤ 127 →
      ∀ place ∈ (Node.ofJson value).preorder 0, place.1 ≤ 63 := by
    intro value hvalue place hplace
    have hdeep := half value place hplace
    omega
  have admitted : ∀ value : Json, value.depth ≤ 127 → ∀ (scope : Scope) (bound : Nat),
      63 ≤ scope.maxDepth → scope.filterOfJson value ≠ .error (.tooDeep bound) := by
    intro value hvalue scope bound hbound hrefused
    obtain ⟨place, hplace, hlt⟩ := Scope.exists_lt_of_filter_eq_tooDeep hrefused
    have hdeep := shallow value hvalue place hplace
    omega
  refine ⟨half, fun _ _ hparse => Json.depth_parseChars_le hparse,
    fun value hvalue => ⟨shallow value hvalue, admitted value hvalue⟩, ?_⟩
  intro scope text bound hbound hrefused
  obtain ⟨value, hparse, hfilter⟩ := Command.exists_parse_of_refused hrefused
  exact admitted value (Json.depth_parseChars_le hparse) scope bound hbound hfilter

/-! ## A text for which both bounds are exact -/

/-- Groups in one another around an empty object. -/
def nested : Nat → Json
  | 0 => .object []
  | n + 1 => .object [("type", .string "group"), ("children1", .array [nested n])]

theorem depth_nested : ∀ n : Nat, (nested n).depth = 2 * n + 1
  | 0 => rfl
  | n + 1 => by
    show max 0 (max (max (nested n).depth 0 + 1) 0) + 1 = _
    rw [depth_nested n]
    omega

/-- Each of the groups is around the next one, and the innermost around nothing known. -/
theorem ofJson_nested : ∀ n : Nat,
    Node.ofJson (nested n) = Node.hang (List.replicate n ⟨none, false, [], []⟩) .unknown
  | 0 => Node.ofJson_unknown (by decide) (by decide)
  | n + 1 => by
    have htype : Node.type? (nested (n + 1)) = some "group" := by rfl
    have hchildren : Node.children (nested (n + 1)) = [nested n] := by rfl
    rw [Node.ofJson_group htype, hchildren, List.map_singleton, ofJson_nested n]
    rfl

namespace Json

/-- Two levels are enough for a group, and one for the empty object. -/
theorem gives_nested : ∀ (n : Nat) {levels : Nat} (rest : List Char), 2 * n + 1 ≤ levels →
    Gives (readValue levels ((nested n).compact ++ rest)) (nested n) rest
  | 0, levels, rest, h => by
    obtain ⟨inner, rfl⟩ := Nat.exists_eq_add_of_le' h
    exact gives_object gives_firstMember_nil
  | n + 1, levels, rest, h => by
    obtain ⟨inner, rfl⟩ := Nat.exists_eq_add_of_le' (show 2 ≤ levels by omega)
    have htext : (nested (n + 1)).compact ++ rest
        = '\x7b' :: (Text.Quoted.encode "type".toList ++ ':' ::
          (Text.Quoted.encode "group".toList ++ ',' ::
            (Text.Quoted.encode "children1".toList ++ ':' ::
              ('[' :: ((nested n).compact ++ ']' :: '\x7d' :: rest))))) := by
      simp [nested, compact, compactMembers, compactItems, List.intercalate]
    have hitem := gives_nested n (']' :: '\x7d' :: rest) (show 2 * n + 1 ≤ inner by omega)
    -- the reader looks at the brace of the item to see that the array does not end
    obtain ⟨tail, htail⟩ : ∃ tail, (nested n).compact = '\x7b' :: tail := by
      cases n with
      | zero => exact ⟨_, rfl⟩
      | succ n => exact ⟨_, rfl⟩
    rw [htext]
    rw [htail, List.cons_append] at hitem ⊢
    have hitems := gives_firstItem (by decide) (by decide) hitem gives_moreItems_nil
    have hchildren := gives_moreMembers "children1" (gives_array hitems) gives_moreMembers_nil
    exact gives_object (gives_firstMember "type" (gives_string "group" _) hchildren)

/-- As many groups as the reader has levels for are read from their text. -/
theorem parse_nested {n : Nat} (h : 2 * n + 1 ≤ maxDepth) :
    parse (nested n).text = .ok (nested n) := by
  have hgives := gives_nested n [] h
  rw [List.append_nil] at hgives
  rw [parse, text, String.toList_ofList, parseChars_of_gives hgives]

end Json

/-- A text of 63 groups nests 127 arrays and objects and is read. Its innermost node has the
depth 63, so a bound of 62 refuses the tree and one of 63 does not. -/
theorem nested_half_as_deep :
    (Json.parse (nested 63).text = .ok (nested 63) ∧ (nested 63).depth = 127) ∧
    ((63, .unknown) ∈ (Node.ofJson (nested 63)).preorder 0 ∧ 2 * 63 ≤ (nested 63).depth) ∧
    (Scope.documentOnly.within 62).filterOfJson (nested 63) = .error (.tooDeep 62) ∧
    (∀ bound, (Scope.documentOnly.within 63).filterOfJson (nested 63) ≠ .error (.tooDeep bound)) ∧
    ∀ bound, (Command.readTree (Scope.documentOnly.within 63) (nested 63).text.toList).1
      ≠ .error (.refused (.tooDeep bound)) := by
  obtain ⟨half, ofText, shallow, refusals⟩ := tree_half_as_deep
  have hparse := Json.parse_nested (show 2 * 63 + 1 ≤ Json.maxDepth by decide)
  obtain ⟨-, hadmitted⟩ := shallow (nested 63) (ofText _ _ hparse)
  have hbound : 63 ≤ (Scope.documentOnly.within 63).maxDepth := by decide
  have hplace : (63, .unknown) ∈ (Node.ofJson (nested 63)).preorder 0 := by
    rw [ofJson_nested]
    exact Node.mem_preorder_iff.mpr ⟨_, List.length_replicate, rfl⟩
  have hrefused : (Scope.documentOnly.within 62).filterOfJson (nested 63)
      = .error (.tooDeep 62) := by
    rw [Scope.filterOfJson, ofJson_nested]
    rfl
  exact ⟨⟨hparse, depth_nested 63⟩, ⟨hplace, half _ _ hplace⟩, hrefused,
    fun bound => hadmitted _ bound hbound, fun bound => refusals _ _ bound hbound⟩

end RowFilter
