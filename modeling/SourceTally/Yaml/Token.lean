/-!
# Tokens of a YAML text

## Main definitions

* `Style`: how a scalar is written
* `Tag`: the bytes of a tag, as escapes in it may stand for any bytes
* `Token`: the units of a YAML text
-/

namespace SourceTally.Yaml

/-- How a scalar is written. -/
inductive Style where
  | plain
  | quoted
  | block
  deriving DecidableEq, Repr

abbrev Tag := List UInt8

/-- The bytes of an ASCII text. -/
def Tag.ofChars (chars : List Char) : Tag := chars.map fun c => c.toNat.toUInt8

/-- The tag of one exclamation mark. -/
def Tag.bang : Tag := Tag.ofChars ['!']

/-- The text of a tag that starts with an exclamation mark, without the mark unless it is alone. -/
def Tag.name? (tag : Tag) : Option String :=
  match tag with
  | [] => none
  | first :: rest =>
    if first = 33 then
      String.fromUTF8? ⟨(if rest.isEmpty then tag else rest).toArray⟩
    else
      none

/-- The units of a YAML text. -/
inductive Token where
  | streamEnd
  | version (major minor : Nat)
  | tagDirective (handle stem : Tag)
  | documentStart
  | documentEnd
  | blockSequence
  | blockMapping
  | blockEnd
  | flowSequenceStart
  | flowSequenceEnd
  | flowMappingStart
  | flowMappingEnd
  | blockEntry
  | flowEntry
  | key
  | value
  | alias (name : String)
  | anchor (name : String)
  | tag (handle suffix : Tag)
  | scalar (text : String) (style : Style)
  deriving DecidableEq, Repr

end SourceTally.Yaml
