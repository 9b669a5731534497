/-!
# Cutting text at a separator

## Main definitions

* `Text.pieces`: the pieces between separators, at least one
* `Text.lines`: the lines of a text, ended by a line feed with or without a carriage return
-/

namespace SourceTally.Text

/-- The pieces of a text between the occurrences of a separator; a text without it is one piece. -/
def pieces (sep : Char) : List Char → List (List Char)
  | [] => [[]]
  | c :: rest =>
    if c = sep then
      [] :: pieces sep rest
    else
      match pieces sep rest with
      | [] => [[c]]
      | piece :: more => (c :: piece) :: more

/-- Drop one carriage return from the end of a line. -/
def dropReturn : List Char → List Char
  | [] => []
  | ['\r'] => []
  | c :: rest => c :: dropReturn rest

/-- The lines of a text. A carriage return before a line feed belongs to the line's end; text behind
the last line feed is a line of its own if there is any, and keeps its carriage return. -/
def lines (text : List Char) : List (List Char) :=
  let all := pieces '\n' text
  let last := all.getLast?.getD []
  all.dropLast.map dropReturn ++ (if last.isEmpty then [] else [last])

end SourceTally.Text
