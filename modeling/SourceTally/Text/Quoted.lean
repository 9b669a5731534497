import SourceTally.Text.Hidden

/-!
# Quoted text

Text inside quotes, written so that it can be told from its surroundings: the quote and the
backslash have a backslash in front, the common controls have a letter, and every other hidden
character is written by its number in hexadecimal.

## Main definitions

* `Text.quote`: a text in double quotes
* `Text.quoteChar`: one character in single quotes
* `Text.quoteList`: a bracketed list of quoted texts
-/

namespace SourceTally.Text

/-- One character inside quotes of the given kind. -/
def escape (mark : Char) (c : Char) : String :=
  if c = '\x00' then "\\0"
  else if c = '\t' then "\\t"
  else if c = '\n' then "\\n"
  else if c = '\r' then "\\r"
  else if c = '\\' then "\\\\"
  else if c = mark then String.ofList ['\\', c]
  else if isHidden c then "\\u\x7b" ++ String.ofList (Nat.toDigits 16 c.toNat) ++ "\x7d"
  else c.toString

def quote (text : String) : String :=
  "\"" ++ String.join (text.toList.map (escape '"')) ++ "\""

def quoteChar (c : Char) : String :=
  "'" ++ escape '\'' c ++ "'"

def quoteList (texts : List String) : String :=
  "[" ++ ", ".intercalate (texts.map quote) ++ "]"

end SourceTally.Text
