/-!
# Decimal numbers in text

Unsigned numbers written in decimal digits. A number may have a plus sign and leading zeros; it
may not be empty, hold anything else than digits, or exceed the largest value of its type.

## Main definitions

* `Decimal.ofDigits?`: a non-empty list of digits
* `Decimal.ReadError`, `Decimal.read`: a bounded number, with the reason when there is none
-/

namespace SourceTally.Decimal

def digit? (c : Char) : Option Nat :=
  if c.isDigit then some (c.toNat - '0'.toNat) else none

/-- Continue the number `n` with digits; `none` if one of them is no digit. -/
def extend? (n : Nat) : List Char → Option Nat
  | [] => some n
  | c :: rest =>
    match digit? c with
    | some d => extend? (10 * n + d) rest
    | none => none

/-- The number with the given digits, at least one. -/
def ofDigits? : List Char → Option Nat
  | [] => none
  | digits => extend? 0 digits

/-- Why a text is not a number of a bounded type. -/
inductive ReadError where
  | empty
  | invalidDigit
  | tooLarge
  deriving DecidableEq, Repr

def ReadError.message : ReadError → String
  | empty => "cannot parse integer from empty string"
  | invalidDigit => "invalid digit found in string"
  | tooLarge => "number too large to fit in target type"

/-- Continue the number `n` with digits, stopping at the first character that is no digit or that
takes the number past `limit`. -/
def readDigits (limit n : Nat) : List Char → Except ReadError Nat
  | [] => .ok n
  | c :: rest =>
    match digit? c with
    | some d => if 10 * n + d ≤ limit then readDigits limit (10 * n + d) rest else .error .tooLarge
    | none => .error .invalidDigit

/-- Read a number of at most `limit`: an optional plus sign and at least one digit. -/
def read (limit : Nat) (text : List Char) : Except ReadError Nat :=
  match text with
  | [] => .error .empty
  | ['+'] => .error .invalidDigit
  | '+' :: digits => readDigits limit 0 digits
  | digits => readDigits limit 0 digits

end SourceTally.Decimal
