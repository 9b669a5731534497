/-!
# Columns

Texts padded with spaces to the width of a column. A text longer than its column keeps its length.
In an indented text, all lines but the first start with four spaces.

## Main definitions

* `Text.left`, `Text.right`: flush left and flush right in a column
* `Text.indented`: further lines set off from the first
-/

namespace SourceTally.Text

/-- Flush left in a column of the given width. -/
def left (width : Nat) (text : String) : String :=
  text ++ String.ofList (List.replicate (width - text.length) ' ')

/-- Flush right in a column of the given width. -/
def right (width : Nat) (text : String) : String :=
  String.ofList (List.replicate (width - text.length) ' ') ++ text

/-- Four spaces in front of every line but the first. -/
def indented (text : String) : String := text.replace "\n" "\n    "

end SourceTally.Text
