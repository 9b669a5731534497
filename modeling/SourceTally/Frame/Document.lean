import SourceTally.Frame.Field
import SourceTally.Text.Blank
import SourceTally.Text.Pieces
import SourceTally.Text.Quoted

/-!
# Frames documents

A frames document holds one frame per line in hexadecimal digits. Blank lines and lines that start
with a hash sign are skipped, and blanks between digits do not count. The first line that is no
frame is reported by its number, counted from one.

## Main definitions

* `Frame.Fault`: why a line is no frame
* `Frame.ofHex`: the frame with given digits
* `Frame.parseDocument`: the frames of a document
-/

namespace SourceTally.Frame

/-- Why a line is no frame. -/
inductive Fault where
  /-- An odd number of bytes cannot be pairs of digits. -/
  | oddLength
  | invalidByte (byte : UInt8) (index : Nat)
  | other (reason : String)
  deriving DecidableEq, Repr

/-- Wording of the faults. A byte is shown as the character with its number. -/
def Fault.message : Fault → String
  | oddLength => "Odd number of digits"
  | invalidByte byte index =>
    "Invalid character " ++ Text.quoteChar (Char.ofNat byte.toNat) ++ " at position " ++
      toString index
  | other reason => reason

/-- The value of a hexadecimal digit. -/
def nibble? (b : UInt8) : Option UInt8 :=
  if 48 ≤ b ∧ b ≤ 57 then some (b - 48)
  else if 65 ≤ b ∧ b ≤ 70 then some (b - 55)
  else if 97 ≤ b ∧ b ≤ 102 then some (b - 87)
  else none

/-- Decode pairs of digits, the first of which is at `index`. -/
def pairs (index : Nat) : List UInt8 → Except Fault Frame
  | high :: low :: rest =>
    match nibble? high, nibble? low with
    | some a, some b => (pairs (index + 2) rest).map ((16 * a + b) :: ·)
    | none, _ => .error (.invalidByte high index)
    | some _, none => .error (.invalidByte low (index + 1))
  | _ => .ok []

/-- The frame with the given digits; their number is checked first. -/
def ofHex (digits : List UInt8) : Except Fault Frame :=
  if digits.length % 2 = 1 then .error .oddLength else pairs 0 digits

/-- The bytes of a line without its blanks. -/
def compact (line : List Char) : List UInt8 :=
  (line.filter fun c => !Text.isAsciiBlank c).flatMap String.utf8EncodeChar

/-- The frame of one line, or nothing if the line is skipped. -/
def ofLine (line : List Char) : Except Fault (Option Frame) :=
  let line := Text.trim line
  if line.isEmpty || line.head? = some '#' then .ok none else (ofHex (compact line)).map some

/-- The frames of the lines, the first of which has the given number. -/
def ofLines (number : Nat) : List (List Char) → Except (Nat × Fault) (List Frame)
  | [] => .ok []
  | line :: rest =>
    match ofLine line with
    | .error fault => .error (number, fault)
    | .ok frame => (ofLines (number + 1) rest).map (frame.toList ++ ·)

def parseDocument (text : String) : Except (Nat × Fault) (List Frame) :=
  ofLines 1 (Text.lines text.toList)

end SourceTally.Frame
