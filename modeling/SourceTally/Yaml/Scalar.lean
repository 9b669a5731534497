import SourceTally.Yaml.Cursor

/-!
# Scalars of a YAML text

Plain, quoted and block scalars. Inside plain and quoted scalars a run of blanks is a gap: blanks
within a line are kept, a line break with its surrounding blanks becomes a space, and further
breaks are kept. A literal block keeps its lines; a folded block joins them by spaces.

## Main definitions

* `Gap`, `Gap.joined`: blanks between words and what they stand for
* `scanPlain`: a plain scalar
* `scanQuoted`: a scalar in single or double quotes
* `scanBlock`: a literal or folded block
-/

namespace SourceTally.Yaml

/-- Blanks between two words. -/
structure Gap where
  /-- Blanks before the first break. -/
  blanks : List Char := []
  first : List Char := []
  further : List Char := []
  /-- Whether there is a break. -/
  broken : Bool := false
  deriving Repr

/-- Two breaks or a break and nothing: a first line feed folds into a space, or away if more breaks
follow. -/
def foldBreaks (first further : List Char) : List Char :=
  if first = ['\n'] then (if further.isEmpty then [' '] else further) else first ++ further

def Gap.joined (gap : Gap) : List Char :=
  if gap.broken then foldBreaks gap.first gap.further else gap.blanks

/-- Read the blanks and breaks from a cursor on. With a least column, a tab before it at the start
of a line is a fault. -/
def scanGap (least : Option Nat) : Nat → Gap → Cursor → Except Fault (Gap × Cursor)
  | 0, gap, c => .ok (gap, c)
  | fuel + 1, gap, c =>
    match c.peek with
    | none => .ok (gap, c)
    | some char =>
      if isSpace char then
        if gap.broken && char == '\t' && least.any (c.column < ·) then .error .tabInIndentation
        else
          let gap := if gap.broken then gap else { gap with blanks := gap.blanks ++ [char] }
          scanGap least fuel gap c.skip
      else if isBreak char then
        let (text, c) := c.readLine
        let gap := if gap.broken then { gap with further := gap.further ++ text }
          else { gap with blanks := [], first := text, broken := true }
        scanGap least fuel gap c
      else .ok (gap, c)

/-- The characters of a plain word: up to a blank, up to a colon with nothing behind it and, inside
brackets, up to a comma or bracket. -/
def plainWord (flow : Bool) : List Char → Except Fault (List Char)
  | [] => .ok []
  | c :: rest =>
    if isSpace c || isBreak c then .ok []
    else if flow && c == ':' && isOneOf [',', '?', '[', ']', '{', '}'] rest.head? then
      .error .colonInFlow
    else if c == ':' && endsWord rest.head? then .ok []
    else if flow && [',', '[', ']', '{', '}'].contains c then .ok []
    else (plainWord flow rest).map (c :: ·)

/-- Continue a plain scalar after a word, with its text in reverse. The scalar ends before a gap
with nothing of it behind; the second answer says whether that gap has a break. -/
def plainWords (flow : Bool) (least : Nat) : Nat → List Char → Cursor →
    Except Fault (List Char × Bool × Cursor)
  | 0, text, c => .ok (text, false, c)
  | fuel + 1, text, c => do
    let (gap, next) ← scanGap (some least) (fuel + 1) {} c
    if next.index = c.index then
      return (text, false, c)
    else if (!flow && next.column < least) || next.atDocumentIndicator || next.at? '#' then
      return (text, gap.broken, next)
    else
      let word ← plainWord flow next.rest
      if word.isEmpty then
        return (text, gap.broken, next)
      else
        plainWords flow least fuel (word.reverse ++ (gap.joined.reverse ++ text))
          (next.advance word.length)

/-- A plain scalar: its text, whether the blanks behind it hold a break, and the place behind them.
Outside brackets its lines have at least `least` columns before them. The fuel is more than the
characters ahead, here and in the other scalars. -/
def scanPlain (fuel : Nat) (flow : Bool) (least : Nat) (c : Cursor) :
    Except Fault (List Char × Bool × Cursor) := do
  let word ← plainWord flow c.rest
  let (text, broken, c) ← plainWords flow least fuel word.reverse (c.advance word.length)
  return (text.reverse, broken, c)

/-- The value of a hexadecimal digit. -/
def hexValue? (c : Char) : Option Nat :=
  if c.isDigit then some (c.toNat - '0'.toNat)
  else if 'a' ≤ c ∧ c ≤ 'f' then some (c.toNat - 'a'.toNat + 10)
  else if 'A' ≤ c ∧ c ≤ 'F' then some (c.toNat - 'A'.toNat + 10)
  else none

/-- The number written in exactly `n` hexadecimal digits. -/
def hexNumber? (n : Nat) (text : List Char) : Option Nat :=
  let digits := text.take n
  if digits.length = n then
    digits.foldlM (fun acc c => (hexValue? c).map (16 * acc + ·)) 0
  else
    none

def escapeLetter? : Char → Option Char
  | '0' => some '\x00'
  | 'a' => some '\x07'
  | 'b' => some '\x08'
  | 't' => some '\t'
  | '\t' => some '\t'
  | 'n' => some '\n'
  | 'v' => some '\x0b'
  | 'f' => some '\x0c'
  | 'r' => some '\r'
  | 'e' => some '\x1b'
  | ' ' => some ' '
  | '"' => some '"'
  | '/' => some '/'
  | '\\' => some '\\'
  | 'N' => some '\u0085'
  | '_' => some '\u00a0'
  | 'L' => some '\u2028'
  | 'P' => some '\u2029'
  | _ => none

/-- Escapes by number: how many digits follow the letter. -/
def escapeDigits? : Char → Option Nat
  | 'x' => some 2
  | 'u' => some 4
  | 'U' => some 8
  | _ => none

/-- The character a code point stands for. -/
def charOf? (n : Nat) : Option Char :=
  if n.isValidChar then some (Char.ofNat n) else none

/-- Read an escape behind its backslash: the character and how many characters the escape has. -/
def readEscape (rest : List Char) : Except Fault (Char × Nat) :=
  match rest with
  | [] => .error .badEscape
  | letter :: rest =>
    match escapeLetter? letter with
    | some c => .ok (c, 1)
    | none =>
      match (escapeDigits? letter).bind fun n =>
        ((hexNumber? n rest).bind charOf?).map (·, n + 1) with
      | some result => .ok result
      | none => .error .badEscape

/-- The characters of a quoted scalar up to its end, a blank or an escaped break, put in front of
`word` in reverse. The last answer says whether it was an escaped break. -/
def quotedWord (single : Bool) : Nat → List Char → Cursor →
    Except Fault (List Char × Cursor × Bool)
  | 0, word, c => .ok (word, c, false)
  | fuel + 1, word, c =>
    match c.rest with
    | [] => .ok (word, c, false)
    | char :: rest =>
      if isSpace char || isBreak char then .ok (word, c, false)
      else if single then
        if char == '\'' then
          if rest.head? == some '\'' then quotedWord single fuel ('\'' :: word) (c.advance 2)
          else .ok (word, c, false)
        else quotedWord single fuel (char :: word) c.skip
      else if char == '"' then .ok (word, c, false)
      else if char == '\\' then
        if rest.head?.any isBreak then .ok (word, c.skip.skipLine, true)
        else do
          let (escaped, n) ← readEscape rest
          quotedWord single fuel (escaped :: word) (c.advance (n + 1))
      else quotedWord single fuel (char :: word) c.skip

/-- Continue a quoted scalar to its end, with its text in reverse. -/
def quotedWords (single : Bool) : Nat → List Char → Cursor → Except Fault (List Char × Cursor)
  | 0, _, _ => .error .unexpectedEnd
  | fuel + 1, text, c => do
    if c.atDocumentIndicator then throw .indicatorInScalar
    if c.rest.isEmpty then throw .unexpectedEnd
    let (text, c, escaped) ← quotedWord single (fuel + 1) text c
    if c.at? (if single then '\'' else '"') then
      return (text, c.skip)
    else
      let (gap, c) ← scanGap none (fuel + 1) { broken := escaped } c
      quotedWords single fuel (gap.joined.reverse ++ text) c

/-- A scalar in quotes, from its first quote on. -/
def scanQuoted (fuel : Nat) (single : Bool) (c : Cursor) : Except Fault (List Char × Cursor) := do
  let (text, c) ← quotedWords single fuel [] c.skip
  return (text.reverse, c)

/-- What happens to the breaks at the end of a block. -/
inductive Chomping where
  | strip
  | clip
  | keep
  deriving DecidableEq, Repr

def chomping? : Option Char → Option Chomping
  | some '+' => some .keep
  | some '-' => some .strip
  | _ => none

/-- An indentation digit: none, or a number that is not zero. -/
def indentDigit (c : Cursor) : Except Fault (Nat × Cursor) :=
  match c.peek with
  | some d =>
    if d.isDigit then
      if d == '0' then .error .badBlockHeader else .ok (d.toNat - '0'.toNat, c.skip)
    else .ok (0, c)
  | none => .ok (0, c)

/-- The header of a block, from behind its indicator to the next line: chomping and indentation, in
either order. -/
def blockHeader (c : Cursor) : Except Fault (Chomping × Nat × Cursor) := do
  let (chomping, increment, c) ←
    match chomping? c.peek with
    | some chomping => do
      let (increment, c) ← indentDigit c.skip
      pure (chomping, increment, c)
    | none => do
      let (increment, next) ← indentDigit c
      if increment = 0 then pure (.clip, 0, c)
      else
        match chomping? next.peek with
        | some chomping => pure (chomping, increment, next.skip)
        | none => pure (.clip, increment, next)
  let c := c.skipWhile isSpace
  let c := if c.at? '#' then c.toLineEnd else c
  if endsLine c.peek then return (chomping, increment, c.skipLine) else throw .badBlockHeader

/-- Move over indentation and empty lines of a block. With no indentation known yet (zero), all
spaces count as indentation, and the widest is remembered. -/
def blockBreaks (indent : Nat) : Nat → Nat → List Char → Cursor →
    Except Fault (List Char × Nat × Cursor)
  | 0, widest, breaks, c => .ok (breaks, widest, c)
  | fuel + 1, widest, breaks, c =>
    let spaces := (c.rest.takeWhile (· == ' ')).length
    let c := c.advance (if indent = 0 then spaces else min spaces (indent - c.column))
    let widest := max widest c.column
    if (indent = 0 || c.column < indent) && c.at? '\t' then .error .tabInIndentation
    else
      let (text, next) := c.readLine
      if text.isEmpty then .ok (breaks, widest, c)
      else blockBreaks indent fuel widest (breaks ++ text) next

/-- The lines of a block: text so far in reverse, the break behind the last line, the breaks behind
that, and whether the last line started with a blank. -/
def blockLines (literal : Bool) (indent : Nat) : Nat → List Char → List Char → List Char → Bool →
    Cursor → Except Fault (List Char × List Char × List Char × Cursor)
  | 0, text, last, further, _, c => .ok (text, last, further, c)
  | fuel + 1, text, last, further, ledByBlank, c =>
    match c.peek with
    | some char =>
      if c.column = indent then do
        let blank := isSpace char
        let joint :=
          if !literal && last == ['\n'] && !ledByBlank && !blank then
            (if further.isEmpty then [' '] else further)
          else last ++ further
        let line := c.rest.takeWhile fun char => !isBreak char
        let (last, c) := (c.advance line.length).readLine
        let (further, _, c) ← blockBreaks indent (fuel + 1) 0 [] c
        blockLines literal indent fuel (line.reverse ++ (joint.reverse ++ text)) last further
          blank c
      else .ok (text, last, further, c)
    | none => .ok (text, last, further, c)

/-- A block, from its indicator on, where the surrounding block has `parent` columns before it. -/
def scanBlock (fuel : Nat) (literal : Bool) (parent : Int) (c : Cursor) :
    Except Fault (List Char × Cursor) := do
  let (chomping, increment, c) ← blockHeader c.skip
  let indent := if increment = 0 then 0 else parent.toNat + increment
  let (further, widest, c) ← blockBreaks indent fuel 0 [] c
  let indent := if indent = 0 then max widest (max (parent + 1).toNat 1) else indent
  let (text, last, further, c) ← blockLines literal indent fuel [] [] further false c
  match chomping with
  | .strip => return (text.reverse, c)
  | .clip => return (text.reverse ++ last, c)
  | .keep => return (text.reverse ++ last ++ further, c)

end SourceTally.Yaml
