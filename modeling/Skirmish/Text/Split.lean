/-!
# Parts of a text

Cutting a list at every occurrence of one member, which is in none of the parts. There is one part
more than there are cuts, so the empty list has one, empty, part.
-/

namespace Skirmish.Text

/-- The parts of a list between the members equal to `mark`. There is always one. -/
def splitAt {α : Type} [DecidableEq α] (mark : α) : List α → List (List α)
  | [] => [[]]
  | x :: rest =>
    if x = mark then [] :: splitAt mark rest
    else
      match splitAt mark rest with
      | [] => [[x]]
      | part :: parts => (x :: part) :: parts

/-- The parts of `text` between its line feeds. -/
def lines (text : String) : List String :=
  (splitAt '\n' text.toList).map String.ofList

end Skirmish.Text
