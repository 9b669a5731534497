import SourceTally.Yaml.Fault

/-!
# Moving over a YAML text

A cursor is a place in a text: what follows, and how many bytes, lines and columns lie before it. A
text is taken in by blocks, and a block that holds a character YAML forbids is refused as a
whole: the text then ends before it, and reading there is a fault.

## Main definitions

* `isBreak`, `isSpace`, `isWord`: classes of characters
* `Mark`: a line and a column, as messages name them
* `Cursor`: a place in a text
* `Cursor.ofText`: the start of a text, with a refused block cut off
* `Cursor.advance`, `Cursor.skipLine`, `Cursor.readLine`: the moves
-/

namespace SourceTally.Yaml

/-- Line breaks: carriage return, line feed, next line, line separator, paragraph separator. -/
def isBreak (c : Char) : Bool :=
  c == '\n' || c == '\r' || c == '\u0085' || c == '\u2028' || c == '\u2029'

def isSpace (c : Char) : Bool := c == ' ' || c == '\t'

/-- Letters, digits, hyphen and underscore, which make up names. -/
def isWord (c : Char) : Bool := c.isAlphanum || c == '-' || c == '_'

/-- Characters that may stand in a text. -/
def isAllowed (c : Char) : Bool :=
  let n := c.toNat
  n == 0x9 || n == 0xa || n == 0xd || (0x20 ≤ n && n ≤ 0x7e) || n == 0x85 ||
    (0xa0 ≤ n && n ≤ 0xd7ff) || (0xe000 ≤ n && n ≤ 0xfffd) || (0x10000 ≤ n && n ≤ 0x10ffff)

/-- Whether a word ends here: at a space, a break or the end of the text. -/
def endsWord : Option Char → Bool
  | some c => isSpace c || isBreak c
  | none => true

/-- Whether a line ends here: at a break or the end of the text. -/
def endsLine : Option Char → Bool
  | some c => isBreak c
  | none => true

/-- Whether one of the given characters stands here. -/
def isOneOf (chars : List Char) : Option Char → Bool
  | some c => chars.contains c
  | none => false

/-- Most bytes that are taken in at once. -/
def blockSize : Nat := 16384

/-- The blocks of a text, each with as many characters as fit. The block that is being filled has
`used` bytes and is given in reverse. -/
def blocks (used : Nat) (block : List Char) : List Char → List (List Char)
  | [] => [block.reverse]
  | c :: rest =>
    if used + c.utf8Size ≤ blockSize then blocks (used + c.utf8Size) (c :: block) rest
    else block.reverse :: blocks c.utf8Size [c] rest

/-- A line and a column, both counted from zero. -/
structure Mark where
  line : Nat := 0
  column : Nat := 0
  deriving DecidableEq, Repr, Inhabited

/-- The end of a message about a mark, counted from one. The start of the text is not named. -/
def Mark.phrase (mark : Mark) : String :=
  if mark = {} then ""
  else " at line " ++ toString (mark.line + 1) ++ " column " ++ toString (mark.column + 1)

def byteCount (text : List Char) : Nat := text.foldr (fun c bytes => c.utf8Size + bytes) 0

/-- A place in a text. -/
structure Cursor where
  /-- The text from here on. -/
  rest : List Char
  /-- Bytes before this place. -/
  index : Nat := 0
  /-- Breaks before this place. -/
  line : Nat := 0
  /-- Characters before this place in its line. -/
  column : Nat := 0
  /-- Whether the text goes on with a refused block. -/
  refused : Bool := false
  deriving Repr

namespace Cursor

def ofText (text : List Char) : Cursor :=
  let all := blocks 0 [] text
  let good := all.takeWhile fun block => block.all isAllowed
  { rest := good.flatten, refused := good.length < all.length }

def mark (c : Cursor) : Mark := ⟨c.line, c.column⟩

def peek (c : Cursor) : Option Char := c.rest.head?

def peekAt (c : Cursor) (n : Nat) : Option Char := c.rest[n]?

/-- Whether the given character stands here. -/
def at? (c : Cursor) (char : Char) : Bool := c.peek == some char

/-- Move over `n` characters of the line. -/
def advance (c : Cursor) (n : Nat) : Cursor :=
  { c with
    rest := c.rest.drop n
    index := c.index + byteCount (c.rest.take n)
    column := c.column + n }

/-- Move over one character of the line. -/
def skip (c : Cursor) : Cursor := c.advance 1

/-- Read a line break: what it stands for, and the place behind it. A carriage return with a line
feed is one break, and all breaks but the two separators stand for a line feed. -/
def readLine (c : Cursor) : List Char × Cursor :=
  match c.rest with
  | '\r' :: '\n' :: rest =>
    (['\n'], { c with rest, index := c.index + 2, line := c.line + 1, column := 0 })
  | b :: rest =>
    if isBreak b then
      ([if b == '\u2028' || b == '\u2029' then b else '\n'],
        { c with rest, index := c.index + b.utf8Size, line := c.line + 1, column := 0 })
    else ([], c)
  | [] => ([], c)

/-- Move behind a line break. -/
def skipLine (c : Cursor) : Cursor := c.readLine.2

/-- Move over the characters of a class, none of them a break. -/
def skipWhile (c : Cursor) (p : Char → Bool) : Cursor :=
  c.advance (c.rest.takeWhile p).length

def toLineEnd (c : Cursor) : Cursor := c.skipWhile fun char => !isBreak char

/-- Whether three of the given character stand at the start of a line, with nothing behind them. -/
def atIndicator (c : Cursor) (char : Char) : Bool :=
  c.column == 0 && c.rest.take 3 == [char, char, char] && endsWord (c.peekAt 3)

/-- Whether a document starts or ends here. -/
def atDocumentIndicator (c : Cursor) : Bool := c.atIndicator '-' || c.atIndicator '.'

end Cursor

end SourceTally.Yaml
