/-!
# Terminal control in texts

A terminal takes some characters as orders: control characters, and sequences that an escape
character starts. A log must not let a text give such orders. There are two ways to that: the
characters that give orders are written by their numbers, or the orders are left out.

## Main definitions

* `Text.guarded`: a text with such characters written by their numbers
* `Text.Terminal.Mode`: what a terminal is reading
* `Text.unordered`: a text without the orders
-/

namespace SourceTally.Text

/-- Escape, bell, backspace, form feed and delete. -/
def isOrder (c : Char) : Bool := ['\x1b', '\x07', '\x08', '\x0c', '\x7f'].contains c

/-- The second block of control characters. -/
def isHighControl (c : Char) : Bool := 0x80 ≤ c.toNat && c.toNat ≤ 0x9f

/-- A number in hexadecimal, of at least two digits. -/
def hexPair (n : Nat) : String :=
  let digits := String.ofList (Nat.toDigits 16 n)
  if n < 16 then "0" ++ digits else digits

/-- A character, by its number if a terminal takes it as an order. -/
def guardedChar (c : Char) : String :=
  if isOrder c then "\\x" ++ hexPair c.toNat
  else if isHighControl c then "\\u\x7b" ++ hexPair c.toNat ++ "\x7d"
  else c.toString

/-- A text in which no character is an order to a terminal. -/
def guarded (text : String) : String := String.join (text.toList.map guardedChar)

namespace Terminal

/-- What a terminal is reading: text to show, or a part of a sequence. -/
inductive Mode where
  | shown
  | escape
  /-- Behind an escape character and further marks; the next letter ends the sequence. -/
  | escapeMarks
  /-- The numbers of a control sequence. -/
  | control
  /-- The numbers in front of a device string. -/
  | deviceHead
  /-- A device string, or one of the strings without a meaning. -/
  | device
  /-- A string to the operating system, ended by a bell. -/
  | system
  deriving DecidableEq, Repr

/-- Tab, line feed, form feed and carriage return, which are shown as blanks. -/
def isBlankControl (c : Char) : Bool := ['\t', '\n', '\x0c', '\r'].contains c

/-- Whether a character lies between two others. -/
def isBetween (low high : Char) (c : Char) : Bool := low ≤ c && c ≤ high

/-- Whether the byte that ends a string is one of the character's bytes. -/
def holdsTerminator (c : Char) : Bool := (String.utf8EncodeChar c).contains 0x9c

/-- What comes after a character, when it is neither an escape character nor a cancellation. -/
def Mode.after (c : Char) : Mode → Mode
  | shown => shown
  | escape =>
    if isBlankControl c then shown
    else if isBetween ' ' '/' c then escapeMarks
    else if c = '[' then control
    else if c = ']' then system
    else if c = 'P' then deviceHead
    else if c = 'X' ∨ c = '^' ∨ c = '_' then device
    else if isBetween '0' '~' c then shown
    else escape
  | escapeMarks => if isBlankControl c || isBetween '0' '~' c then shown else escapeMarks
  | control => if isBlankControl c || isBetween '@' '~' c then shown else control
  | deviceHead => if isBetween '@' '~' c then device else deviceHead
  | device => if holdsTerminator c then shown else device
  | system => if c = '\x07' then shown else system

/-- What comes after a character. An escape character starts a new sequence everywhere, and a
cancellation ends every one. -/
def Mode.next (c : Char) (mode : Mode) : Mode :=
  if c = '\x1b' then escape
  else if c = '\x18' ∨ c = '\x1a' then shown
  else mode.after c

/-- Whether a character is shown. Blanks are shown inside the short sequences too, which they
end. -/
def Mode.shows (c : Char) : Mode → Bool
  | shown => isBlankControl c || (' ' ≤ c && c ≠ '\x7f')
  | escape | escapeMarks | control => isBlankControl c
  | deviceHead | device | system => false

def shownFrom : Mode → List Char → List Char
  | _, [] => []
  | mode, c :: rest =>
    if mode.shows c then c :: shownFrom (mode.next c) rest else shownFrom (mode.next c) rest

end Terminal

/-- A text without orders to a terminal. -/
def unordered (text : String) : String :=
  String.ofList (Terminal.shownFrom .shown text.toList)

end SourceTally.Text
