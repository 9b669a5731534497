import SourceTally.Text.Decimal
import SourceTally.Text.Pieces

/-!
# IPv4 addresses

An address is four octets. Its key is the word whose bytes, least significant first, are the
octets in the order they have on the wire. Addresses are ordered octet by octet from the first.

## Main definitions

* `Address.key`, `Address.ofKey`: address and key are two writings of the same thing
* `Address.ofText?`, `Address.text`: dotted decimal
* `Address.value`, `Address.ofValue`: the order of addresses as the order of numbers
-/

namespace SourceTally

/-- An IPv4 address, by its octets in wire order. -/
structure Address where
  first : UInt8
  second : UInt8
  third : UInt8
  fourth : UInt8
  deriving DecidableEq, Repr

namespace Address

/-- The key of an address: the octets as a word, least significant byte first. -/
def key (addr : Address) : UInt32 :=
  addr.first.toUInt32 ||| addr.second.toUInt32 <<< 8 ||| addr.third.toUInt32 <<< 16 |||
    addr.fourth.toUInt32 <<< 24

def ofKey (key : UInt32) : Address :=
  ⟨key.toUInt8, (key >>> 8).toUInt8, (key >>> 16).toUInt8, (key >>> 24).toUInt8⟩

/-- Place of an address in the order of addresses: the first octet counts most. -/
def value (addr : Address) : UInt32 :=
  addr.first.toUInt32 <<< 24 ||| addr.second.toUInt32 <<< 16 ||| addr.third.toUInt32 <<< 8 |||
    addr.fourth.toUInt32

/-- The address at a place in the order of addresses. -/
def ofValue (value : UInt32) : Address :=
  ⟨(value >>> 24).toUInt8, (value >>> 16).toUInt8, (value >>> 8).toUInt8, value.toUInt8⟩

/-- Whether one address comes before another or is the same. -/
def le (a b : Address) : Bool := a.value ≤ b.value

/-- One octet: one to three digits, no leading zero, at most 255. -/
def octet? (digits : List Char) : Option UInt8 :=
  if digits.length ≤ 3 ∧ (digits.length ≤ 1 ∨ digits.head? ≠ some '0') then
    match Decimal.ofDigits? digits with
    | some n => if n ≤ 255 then some n.toUInt8 else none
    | none => none
  else
    none

/-- Read dotted decimal: exactly four octets and nothing else. -/
def ofText? (text : String) : Option Address :=
  match (Text.pieces '.' text.toList).map octet? with
  | [some a, some b, some c, some d] => some ⟨a, b, c, d⟩
  | _ => none

/-- Write dotted decimal. -/
def text (addr : Address) : String :=
  toString addr.first.toNat ++ "." ++ toString addr.second.toNat ++ "." ++
    toString addr.third.toNat ++ "." ++ toString addr.fourth.toNat

end Address

end SourceTally
