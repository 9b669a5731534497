import SourceTally.Yaml.Scalar
import SourceTally.Yaml.Tag
import SourceTally.Yaml.Token

/-!
# From text to tokens

The start of a block collection shows only in the columns of its entries, and the start of a key
only in the colon behind it. So the scanner remembers, for each level of brackets, the last place
that may turn out to start a key; when the colon comes, the tokens for the key are put in at that
place. A token that may still turn out to start a key is held back, so a fault that comes up
meanwhile hides it.

## Main definitions

* `PlacedToken`: a token with the place where it starts
* `KeyPlace`: a place that may start a key
* `Scanner`: a cursor with the tokens found so far and the open levels
* `Scanner.fetch`: find the next token
* `tokens`: the tokens of a text that come before its first fault
-/

namespace SourceTally.Yaml

structure PlacedToken where
  token : Token
  mark : Mark
  deriving Repr

/-- A place that may turn out to start a key. -/
structure KeyPlace where
  /-- Whether a key must start here, as the place has the column of the current block. -/
  required : Bool
  /-- Number of tokens before the place. -/
  number : Nat
  /-- Bytes before the place. -/
  index : Nat
  mark : Mark
  deriving Repr

/-- A cursor with the tokens found so far and the open levels. -/
structure Scanner where
  cursor : Cursor
  /-- The tokens so far, the last one first. -/
  found : List PlacedToken := []
  /-- How many tokens there are so far. -/
  count : Nat := 0
  /-- Column of the current block; minus one outside every block. -/
  indent : Int := -1
  /-- Columns of the surrounding blocks. -/
  indents : List Int := []
  /-- Possible key of the current level of brackets. -/
  place : Option KeyPlace := none
  /-- Possible keys of the surrounding levels. -/
  outer : List (Option KeyPlace) := []
  /-- Whether a key may start at the next token. -/
  keyAllowed : Bool := true

namespace Scanner

/-- Whether the scanner is inside brackets. -/
def inFlow (s : Scanner) : Bool := !s.outer.isEmpty

/-- Append a token that starts at the given mark. -/
def push (s : Scanner) (mark : Mark) (token : Token) : Scanner :=
  { s with found := ⟨token, mark⟩ :: s.found, count := s.count + 1 }

def insert (s : Scanner) (number : Nat) (mark : Mark) (token : Token) : Scanner :=
  { s with found := s.found.insertIdx (s.count - number) ⟨token, mark⟩, count := s.count + 1 }

/-- The tokens so far. -/
def tokens (s : Scanner) : List PlacedToken := s.found.reverse

/-- Forget the possible key of this level; a required one is a fault. -/
def dropPlace (s : Scanner) : Except Fault Scanner :=
  if s.place.any (·.required) then .error .missingColon else .ok { s with place := none }

/-- Remember this place as a possible key, if a key may start here. -/
def savePlace (s : Scanner) : Except Fault Scanner :=
  if s.keyAllowed then do
    let s ← s.dropPlace
    let c := s.cursor
    let place : KeyPlace :=
      { required := !s.inFlow && s.indent == (c.column : Int)
        number := s.count
        index := c.index
        mark := c.mark }
    return { s with place := some place }
  else
    .ok s

/-- Whether a place is too far back to start a key: on an earlier line, or more than 1024 bytes
before. -/
def isStale (c : Cursor) (place : KeyPlace) : Bool :=
  place.mark.line < c.line || place.index + 1024 < c.index

/-- Forget a place that is too far back; a required one is a fault. -/
def refresh (c : Cursor) : Option KeyPlace → Except Fault (Option KeyPlace)
  | none => .ok none
  | some place =>
    if isStale c place then
      if place.required then .error .missingColon else .ok none
    else .ok (some place)

/-- Forget the places of all levels that are too far back. -/
def dropStale (s : Scanner) : Except Fault Scanner :=
  if (s.place :: s.outer).all fun place => place.all fun p => !isStale s.cursor p then .ok s
  else do
    let outer ← s.outer.mapM (refresh s.cursor)
    let place ← refresh s.cursor s.place
    return { s with outer, place }

/-- Open a block at the column of a mark, if it is deeper than the current one, with its token in
front of the token with the given number. -/
def openBlock (s : Scanner) (mark : Mark) (number : Nat) (token : Token) : Scanner :=
  if s.inFlow || (mark.column : Int) ≤ s.indent then s
  else
    { s.insert number mark token with indent := mark.column, indents := s.indent :: s.indents }

/-- Open a block at the cursor, if it is deeper than the current one. -/
def openBlockHere (s : Scanner) (token : Token) : Scanner :=
  s.openBlock s.cursor.mark s.count token

/-- Close the given blocks that are deeper than a column. -/
def closeTo (column : Int) : List Int → Scanner → Scanner
  | [], s => s
  | outer :: rest, s =>
    if column < s.indent then
      closeTo column rest { s.push s.cursor.mark .blockEnd with indent := outer, indents := rest }
    else s

def closeBlocks (s : Scanner) (column : Int) : Scanner :=
  if s.inFlow then s else closeTo column s.indents s

/-- Move over blanks, comments and breaks to the next token. A break outside brackets allows a key;
a tab counts as a blank only where no key may start, and a byte order mark only at the start of a
line. -/
def toToken : Nat → Scanner → Scanner
  | 0, s => s
  | fuel + 1, s =>
    let c := s.cursor
    let c := if c.column = 0 && c.at? '\ufeff' then c.skip else c
    let c := c.skipWhile fun char =>
      char == ' ' || ((s.inFlow || !s.keyAllowed) && char == '\t')
    let c := if c.at? '#' then c.toLineEnd else c
    if c.peek.any isBreak then
      toToken fuel { s with cursor := c.skipLine, keyAllowed := s.keyAllowed || !s.inFlow }
    else
      { s with cursor := c }

/-- Move over `n` characters and append a token. -/
def take (s : Scanner) (n : Nat) (token : Token) : Scanner :=
  { s with cursor := s.cursor.advance n }.push s.cursor.mark token

/-- The end of the text closes every block and starts a new line. -/
def fetchEnd (s : Scanner) : Except Fault Scanner := do
  let c := s.cursor
  let c := if c.column = 0 then c else { c with column := 0, line := c.line + 1 }
  let s ← ({ s with cursor := c }.closeBlocks (-1)).dropPlace
  return { s with keyAllowed := false }.push c.mark .streamEnd

/-- A directive closes every block. -/
def fetchDirective (s : Scanner) : Except Fault Scanner := do
  let s ← (s.closeBlocks (-1)).dropPlace
  let (token, c) ← scanDirective s.cursor
  return { s with cursor := c, keyAllowed := false }.push s.cursor.mark token

/-- The start or end of a document closes every block. -/
def fetchIndicator (s : Scanner) (token : Token) : Except Fault Scanner := do
  let s ← (s.closeBlocks (-1)).dropPlace
  return { s with keyAllowed := false }.take 3 token

/-- An opening bracket may start a key and opens a level. -/
def fetchOpen (s : Scanner) (token : Token) : Except Fault Scanner := do
  let s ← s.savePlace
  return { s with outer := s.place :: s.outer, place := none, keyAllowed := true }.take 1 token

/-- A closing bracket ends its level. -/
def fetchClose (s : Scanner) (token : Token) : Except Fault Scanner := do
  let s ← s.dropPlace
  let s :=
    match s.outer with
    | [] => s
    | place :: outer => { s with place, outer }
  return { s with keyAllowed := false }.take 1 token

/-- A comma between entries. -/
def fetchFlowEntry (s : Scanner) : Except Fault Scanner := do
  let s ← s.dropPlace
  return { s with keyAllowed := true }.take 1 .flowEntry

/-- A hyphen in front of an entry; outside brackets it may open a block. -/
def fetchBlockEntry (s : Scanner) : Except Fault Scanner := do
  if !s.inFlow && !s.keyAllowed then throw .entryNotAllowed
  let s ← (s.openBlockHere .blockSequence).dropPlace
  return { s with keyAllowed := true }.take 1 .blockEntry

/-- A question mark in front of a key; outside brackets it may open a block. -/
def fetchKey (s : Scanner) : Except Fault Scanner := do
  if !s.inFlow && !s.keyAllowed then throw .keyNotAllowed
  let s ← (s.openBlockHere .blockMapping).dropPlace
  return { s with keyAllowed := !s.inFlow }.take 1 .key

/-- A colon. If a place is remembered, the key starts there, and so may a block; otherwise the colon
follows a key with a question mark. -/
def fetchValue (s : Scanner) : Except Fault Scanner := do
  match s.place with
  | some place =>
    let s := s.insert place.number place.mark .key
    let s := s.openBlock place.mark place.number .blockMapping
    return { s with place := none, keyAllowed := false }.take 1 .value
  | none =>
    if !s.inFlow && !s.keyAllowed then throw .valueNotAllowed
    let s := s.openBlockHere .blockMapping
    return { s with keyAllowed := !s.inFlow }.take 1 .value

/-- An alias or anchor may start a key. -/
def fetchName (s : Scanner) (token : String → Token) : Except Fault Scanner := do
  let s ← s.savePlace
  let (name, c) ← scanName s.cursor
  return { s with cursor := c, keyAllowed := false }.push s.cursor.mark (token name)

/-- A tag may start a key. -/
def fetchTag (s : Scanner) : Except Fault Scanner := do
  let s ← s.savePlace
  let (handle, suffix, c) ← scanTag s.inFlow s.cursor
  return { s with cursor := c, keyAllowed := false }.push s.cursor.mark (.tag handle suffix)

/-- A block scalar is never a key, and a key may follow it. -/
def fetchBlock (s : Scanner) (fuel : Nat) (literal : Bool) : Except Fault Scanner := do
  let s ← s.dropPlace
  let (text, c) ← scanBlock fuel literal s.indent s.cursor
  return { s with cursor := c, keyAllowed := true }.push s.cursor.mark
    (.scalar (String.ofList text) .block)

/-- A quoted scalar may be a key. -/
def fetchQuoted (s : Scanner) (fuel : Nat) (single : Bool) : Except Fault Scanner := do
  let s ← s.savePlace
  let (text, c) ← scanQuoted fuel single s.cursor
  return { s with cursor := c, keyAllowed := false }.push s.cursor.mark
    (.scalar (String.ofList text) .quoted)

/-- A plain scalar may be a key, and a key may follow it on a new line. -/
def fetchPlain (s : Scanner) (fuel : Nat) : Except Fault Scanner := do
  let s ← s.savePlace
  let (text, broken, c) ← scanPlain fuel s.inFlow (s.indent + 1).toNat s.cursor
  return { s with cursor := c, keyAllowed := broken }.push s.cursor.mark
    (.scalar (String.ofList text) .plain)

/-- Whether a plain scalar may start with a character that has `next` behind it. -/
def startsPlain (flow : Bool) (char : Char) (next : Option Char) : Bool :=
  if char == '-' then !next.any isSpace
  else if char == '?' || char == ':' then !flow && !endsWord next
  else !(isSpace char || isBreak char ||
    [',', '[', ']', '{', '}', '#', '&', '*', '!', '|', '>', '\'', '"', '%', '@',
      '\x60'].contains char)

/-- Find the token that starts with the given character at the cursor. -/
def fetchAt (s : Scanner) (fuel : Nat) (char : Char) : Except Fault Scanner :=
  let c := s.cursor
  let next := c.peekAt 1
  if c.column = 0 && char == '%' then s.fetchDirective
  else if c.atIndicator '-' then s.fetchIndicator .documentStart
  else if c.atIndicator '.' then s.fetchIndicator .documentEnd
  else if char == '[' then s.fetchOpen .flowSequenceStart
  else if char == '{' then s.fetchOpen .flowMappingStart
  else if char == ']' then s.fetchClose .flowSequenceEnd
  else if char == '}' then s.fetchClose .flowMappingEnd
  else if char == ',' then s.fetchFlowEntry
  else if char == '-' && endsWord next then s.fetchBlockEntry
  else if char == '?' && (s.inFlow || endsWord next) then s.fetchKey
  else if char == ':' && (s.inFlow || endsWord next) then s.fetchValue
  else if char == '*' then s.fetchName .alias
  else if char == '&' then s.fetchName .anchor
  else if char == '!' then s.fetchTag
  else if char == '|' && !s.inFlow then s.fetchBlock fuel true
  else if char == '>' && !s.inFlow then s.fetchBlock fuel false
  else if char == '\'' then s.fetchQuoted fuel true
  else if char == '"' then s.fetchQuoted fuel false
  else if startsPlain s.inFlow char next then s.fetchPlain fuel
  else .error .noToken

/-- Find the next token, with the tokens for the blocks it closes. The fuel is more than the
characters ahead. -/
def fetch (fuel : Nat) (s : Scanner) : Except Fault Scanner := do
  let s := toToken fuel s
  let s ← s.dropStale
  let s := s.closeBlocks s.cursor.column
  if s.cursor.refused && s.cursor.rest.length < 4 then throw .forbiddenCharacter
  match s.cursor.peek with
  | none => (← s.fetchEnd).dropStale
  | some char =>
    let s ← s.fetchAt fuel char
    if s.cursor.refused && s.cursor.rest.isEmpty then throw .forbiddenCharacter
    s.dropStale

/-- The tokens that no possible key holds back. -/
def released (s : Scanner) : List PlacedToken :=
  let numbers := (s.place :: s.outer).filterMap fun place => place.map (·.number)
  s.tokens.take (numbers.foldl min s.count)

/-- Fetch tokens up to the end of the text or to a fault. Each token takes at least one character,
so the number of characters ahead bounds the tokens and the lines. -/
def run : Nat → Scanner → List PlacedToken × Option Fault
  | 0, s => (s.released, some .tooDeep)
  | fuel + 1, s =>
    match s.fetch (fuel + 1) with
    | .error fault => (s.released, some fault)
    | .ok next =>
      if next.found.head?.any (·.token = .streamEnd) then (next.tokens, none)
      else run fuel next

end Scanner

/-- The tokens of a text up to its end or first fault. -/
def tokens (text : List Char) : List PlacedToken × Option Fault :=
  Scanner.run (text.length + 2) { cursor := Cursor.ofText text }

end SourceTally.Yaml
