import SourceTally.Data.Value

/-!
# Block layout

Records and lists written in YAML's block style: one field or item per line, the fields of an inner
record two spaces deeper, the items of a list under its key. Empty records and lists are written in
brackets. Texts are written as they are: those of reports are names and addresses, which read back
as texts without quotes.

## Main definitions

* `Block.render`: write a value
-/

namespace SourceTally.Block

/-- Put the lines of an item behind its dash. -/
def dashed : List String → List String
  | [] => []
  | first :: rest => ("- " ++ first) :: rest.map ("  " ++ ·)

/-- Put the lines of a field behind its name. -/
def named (name : String) (value : Value) (lines : List String) : List String :=
  match value with
  | .list (_ :: _) => (name ++ ":") :: lines
  | .record (_ :: _) => (name ++ ":") :: lines.map ("  " ++ ·)
  | _ =>
    match lines with
    | [] => [name ++ ":"]
    | first :: rest => (name ++ ": " ++ first) :: rest

mutual

def lines : Value → List String
  | .null => ["null"]
  | .bool b => [if b then "true" else "false"]
  | .number digits => [digits]
  | .text text => [text]
  | .list [] => ["[]"]
  | .list (item :: rest) => dashed (lines item) ++ itemLines rest
  | .record [] => ["\x7b\x7d"]
  | .record ((name, value) :: rest) => named name value (lines value) ++ fieldLines rest

def itemLines : List Value → List String
  | [] => []
  | item :: rest => dashed (lines item) ++ itemLines rest

def fieldLines : List (String × Value) → List String
  | [] => []
  | (name, value) :: rest => named name value (lines value) ++ fieldLines rest

end

/-- Write a value; each line ends with a line feed. -/
def render (value : Value) : String := String.join ((lines value).map (· ++ "\n"))

end SourceTally.Block
