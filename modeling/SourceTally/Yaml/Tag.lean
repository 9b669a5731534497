import SourceTally.Yaml.Cursor
import SourceTally.Yaml.Scalar
import SourceTally.Yaml.Token

/-!
# Names, tags and directives of a YAML text

## Main definitions

* `scanName`: the name of an anchor or alias
* `scanTag`: a tag
* `scanDirective`: a line that starts with a percent sign
-/

namespace SourceTally.Yaml

/-- The name of an anchor or alias, from its indicator on. -/
def scanName (c : Cursor) : Except Fault (String × Cursor) :=
  let c := c.skip
  let name := c.rest.takeWhile isWord
  let next := c.advance name.length
  if !name.isEmpty &&
      (endsWord next.peek || isOneOf ['?', ':', ',', ']', '}', '%', '@', '\x60'] next.peek) then
    .ok (String.ofList name, next)
  else
    .error .badAnchor

/-- The handle of a tag: an exclamation mark, a word, and a second mark if there is one. A directive
takes only a handle with two marks or one mark alone. -/
def scanHandle (directive : Bool) (c : Cursor) : Except Fault (List Char × Cursor) :=
  if !c.at? '!' then .error .badTag
  else
    let word := (c.rest.drop 1).takeWhile isWord
    let c := c.advance (1 + word.length)
    if c.at? '!' then .ok ('!' :: word ++ ['!'], c.skip)
    else if directive && !word.isEmpty then .error .badTag
    else .ok ('!' :: word, c)

/-- Number of bytes of a character by its first byte. -/
def sequenceLength (first : Nat) : Nat :=
  if first < 0x80 then 1
  else if 0xc0 ≤ first && first < 0xe0 then 2
  else if 0xe0 ≤ first && first < 0xf0 then 3
  else if 0xf0 ≤ first && first < 0xf8 then 4
  else 0

/-- One escaped byte: a percent sign and two hexadecimal digits. -/
def escapedByte? : List Char → Option Nat
  | '%' :: rest => hexNumber? 2 rest
  | _ => none

/-- `n` escaped bytes that continue a character. -/
def continuation? : Nat → List Char → Option Tag
  | 0, _ => some []
  | n + 1, text =>
    match escapedByte? text with
    | some b =>
      if 0x80 ≤ b && b < 0xc0 then (continuation? n (text.drop 3)).map (b.toUInt8 :: ·) else none
    | none => none

def escapedBytes? (text : List Char) : Option Tag :=
  match escapedByte? text with
  | some first =>
    match sequenceLength first with
    | 0 => none
    | n + 1 => (continuation? n (text.drop 3)).map (first.toUInt8 :: ·)
  | none => none

/-- Whether a character may stand in a tag; commas and square brackets only where nothing else can
be meant. -/
def isUriChar (verbatim : Bool) (c : Char) : Bool :=
  isWord c || [';', '/', '?', ':', '@', '&', '=', '+', '$', '.', '%', '!', '~', '*', '\'', '(',
    ')'].contains c || (verbatim && [',', '[', ']'].contains c)

/-- The bytes of a tag, with how many characters they take. -/
def uriBytes (verbatim : Bool) : Nat → List Char → Except Fault (Tag × Nat)
  | 0, _ => .ok ([], 0)
  | fuel + 1, text =>
    match text with
    | [] => .ok ([], 0)
    | c :: rest =>
      if !isUriChar verbatim c then .ok ([], 0)
      else if c == '%' then
        match escapedBytes? text with
        | some bytes =>
          (uriBytes verbatim fuel (text.drop (3 * bytes.length))).map fun (more, n) =>
            (bytes ++ more, n + 3 * bytes.length)
        | none => .error .badTag
      else
        (uriBytes verbatim fuel rest).map fun (more, n) => (c.toNat.toUInt8 :: more, n + 1)

/-- A byte string ends at its first zero byte. -/
def cutAtZero (bytes : Tag) : Tag := bytes.takeWhile (· ≠ 0)

/-- The bytes of a tag from a cursor on. Without a head there must be at least one. -/
def scanUri (verbatim headed : Bool) (c : Cursor) : Except Fault (Tag × Cursor) := do
  let run := c.rest.takeWhile (isUriChar verbatim)
  let (bytes, n) ← uriBytes verbatim run.length c.rest
  if n = 0 && !headed then throw .badTag
  return (cutAtZero bytes, c.advance n)

/-- A tag written in full between angle brackets, or a handle with a suffix, or a suffix alone. A
mark alone has no handle. -/
def scanTag (flow : Bool) (c : Cursor) : Except Fault (Tag × Tag × Cursor) := do
  let (handle, suffix, c) ←
    if c.peekAt 1 == some '<' then do
      let (suffix, c) ← scanUri true false (c.advance 2)
      if c.at? '>' then pure ([], suffix, c.skip) else throw .badTag
    else do
      let (handle, next) ← scanHandle false c
      if handle.length > 1 && handle.getLast? == some '!' then
        let (suffix, c) ← scanUri false false next
        pure (Tag.ofChars handle, suffix, c)
      else
        let (more, c) ← scanUri false true next
        let suffix := Tag.ofChars (handle.drop 1) ++ more
        if suffix.isEmpty then pure ([], Tag.bang, c) else pure (Tag.bang, suffix, c)
  if endsWord c.peek || (flow && c.at? ',') then return (handle, suffix, c) else throw .badTag

/-- A part of a version number: one to nine digits. -/
def scanVersionPart (c : Cursor) : Except Fault (Nat × Cursor) :=
  let digits := c.rest.takeWhile Char.isDigit
  if digits.isEmpty || digits.length > 9 then .error .badDirective
  else
    .ok (digits.foldl (fun n d => 10 * n + (d.toNat - '0'.toNat)) 0, c.advance digits.length)

def scanDirectiveValue (name : String) (c : Cursor) : Except Fault (Token × Cursor) := do
  let c := c.skipWhile isSpace
  if name = "YAML" then
    let (major, c) ← scanVersionPart c
    if !c.at? '.' then throw .badDirective
    let (minor, c) ← scanVersionPart c.skip
    return (.version major minor, c)
  else if name = "TAG" then
    let (handle, c) ← scanHandle true c
    if !c.peek.any isSpace then throw .badDirective
    let (stem, c) ← scanUri true false (c.skipWhile isSpace)
    if !endsWord c.peek then throw .badDirective
    return (.tagDirective (Tag.ofChars handle) stem, c)
  else
    throw .badDirective

/-- A directive, from its percent sign to the next line. -/
def scanDirective (c : Cursor) : Except Fault (Token × Cursor) := do
  let c := c.skip
  let name := c.rest.takeWhile isWord
  let c := c.advance name.length
  if name.isEmpty || !endsWord c.peek then throw .badDirective
  let (token, c) ← scanDirectiveValue (String.ofList name) c
  let c := c.skipWhile isSpace
  let c := if c.at? '#' then c.toLineEnd else c
  if endsLine c.peek then return (token, c.skipLine) else throw .badDirective

end SourceTally.Yaml
