/-!
# Text from bytes

A text is stored as bytes of UTF-8. Reading it back fails at the first bytes that are no character:
either the sequence is wrong, and then it is said how many bytes of it were still right, or the
bytes end too early.

## Main definitions

* `Utf8.Fault`: where and how reading failed
* `Utf8.decode`: the text of a byte string
-/

namespace SourceTally.Utf8

/-- Why bytes are no text. -/
inductive Fault where
  /-- `length` bytes from `index` on cannot be part of a character. -/
  | invalid (length index : Nat)
  /-- The bytes from `index` on are the start of a character. -/
  | incomplete (index : Nat)
  deriving DecidableEq, Repr

def Fault.message : Fault → String
  | invalid length index =>
    "invalid utf-8 sequence of " ++ toString length ++ " bytes from index " ++ toString index
  | incomplete index => "incomplete utf-8 byte sequence from index " ++ toString index

/-- Whether a byte continues a character. -/
def isTail (b : UInt8) : Bool := 0x80 ≤ b && b ≤ 0xbf

/-- Number of bytes of a character by its first byte; zero if no character starts with it. -/
def width (first : UInt8) : Nat :=
  if first ≤ 0x7f then 1
  else if 0xc2 ≤ first && first ≤ 0xdf then 2
  else if 0xe0 ≤ first && first ≤ 0xef then 3
  else if 0xf0 ≤ first && first ≤ 0xf4 then 4
  else 0

/-- Whether the second byte fits the first: no overlong forms, surrogates or numbers too large. -/
def fitsSecond (first second : UInt8) : Bool :=
  isTail second &&
    (if first = 0xe0 then 0xa0 ≤ second
    else if first = 0xed then second ≤ 0x9f
    else if first = 0xf0 then 0x90 ≤ second
    else if first = 0xf4 then second ≤ 0x8f
    else true)

/-- Check `n` bytes behind the second one, of which `seen` bytes of the character lie before. -/
def checkTail (index seen : Nat) : Nat → List UInt8 → Option Fault
  | 0, _ => none
  | _ + 1, [] => some (.incomplete index)
  | n + 1, b :: rest =>
    if isTail b then checkTail index (seen + 1) n rest else some (.invalid seen index)

/-- Check the character that starts with the given byte. -/
def checkChar (index : Nat) (first : UInt8) (rest : List UInt8) : Option Fault :=
  match width first with
  | 0 => some (.invalid 1 index)
  | 1 => none
  | n + 2 =>
    match rest with
    | [] => some (.incomplete index)
    | second :: more =>
      if fitsSecond first second then checkTail index 2 n more else some (.invalid 1 index)

/-- The first fault among bytes, of which the first `skip` belong to a checked character. -/
def firstFault (index skip : Nat) : List UInt8 → Option Fault
  | [] => none
  | b :: rest =>
    match skip with
    | n + 1 => firstFault (index + 1) n rest
    | 0 =>
      match checkChar index b rest with
      | some fault => some fault
      | none => firstFault (index + 1) (width b - 1) rest

def decode (bytes : List UInt8) : Except Fault String :=
  match firstFault 0 0 bytes with
  | some fault => .error fault
  | none => .ok ((String.fromUTF8? ⟨bytes.toArray⟩).getD "")

end SourceTally.Utf8
