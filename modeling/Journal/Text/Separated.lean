/-!
# Lists in a text

A list that is written on one line has its parts between separators. A text without a separator is
one part, so that there is always a part more than there are separators.
-/

namespace Journal.Text

/-- The parts of a list of characters between the separators. -/
def separated (mark : Char) : List Char → List (List Char)
  | [] => [[]]
  | c :: rest =>
    if c = mark then [] :: separated mark rest
    else match separated mark rest with
      | part :: parts => (c :: part) :: parts
      | [] => [[c]]

end Journal.Text
