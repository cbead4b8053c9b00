/-!
# Blank characters and words

The search box, the line reader and the number of "empty" lines all rest on one
class of characters: Unicode's `White_Space`. It has 25 members, of which six
are ASCII.

> `words`: the maximal runs of characters that are not blank, in order.

A word is never empty and never holds a blank, so every blank in front, at the
end or repeated in the middle disappears.
-/

namespace RowFilter.Text

/-- The characters of Unicode's `White_Space` class: the five ASCII controls from
tab to carriage return, the space, and eighteen code points beyond ASCII. -/
def isBlank (c : Char) : Bool :=
  let n := c.toNat
  (0x9 ≤ n && n ≤ 0xD) || n == 0x20 || n == 0x85 || n == 0xA0 || n == 0x1680
    || (0x2000 ≤ n && n ≤ 0x200A) || n == 0x2028 || n == 0x2029 || n == 0x202F
    || n == 0x205F || n == 0x3000

/-- True of a text in which every character is blank; the empty text is one. -/
def allBlank (text : List Char) : Bool := text.all isBlank

/-- The maximal runs of characters that are not blank. A run starts at the first
character that is not blank and takes everything up to the next blank. -/
def words : List Char → List (List Char)
  | [] => []
  | c :: rest =>
    if isBlank c then words rest
    else (c :: rest.takeWhile (!isBlank ·)) :: words (rest.dropWhile (!isBlank ·))
  termination_by text => text.length
  decreasing_by
    · simp
    · have h := (List.dropWhile_suffix (l := rest) (!isBlank ·)).length_le
      simp only [List.length_cons]; omega

end RowFilter.Text
