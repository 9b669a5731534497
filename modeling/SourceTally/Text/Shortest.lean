/-!
# Whole numbers through double precision

A gauge holds a double, so a whole number is first rounded to 53 significant bits, ties to even. It
is then written with the fewest significant digits that read back as the same double; of several
such texts the nearest one is taken, and the digits are filled up with zeros.

## Main definitions

* `Shortest.Double`: a whole number of 53 bits times a power of two
* `Shortest.round`: the nearest double
* `Shortest.digits`: the shortest whole number that reads back
* `Shortest.text`: rounding and writing a signed number
-/

namespace SourceTally.Shortest

/-- The double `mantissa * 2 ^ exponent`. -/
structure Double where
  mantissa : Nat
  exponent : Nat
  deriving DecidableEq, Repr

/-- The double nearest to a whole number; of two equally near ones the even one. -/
def round (n : Nat) : Double :=
  if n < Nat.pow 2 53 then
    ⟨n, 0⟩
  else
    let q := n.log2 - 52
    let m := n / Nat.pow 2 q
    let rest := n % Nat.pow 2 q
    let half := Nat.pow 2 (q - 1)
    let up := rest > half || (rest == half && m % 2 == 1)
    if up then
      if m + 1 = Nat.pow 2 53 then ⟨Nat.pow 2 52, q + 1⟩ else ⟨m + 1, q⟩
    else
      ⟨m, q⟩

/-- Whether four times a whole number lies in the interval that rounds to the double. Its ends
belong to it if the mantissa is even, and below a power of two it is half as wide. -/
def readsBack (d : Double) (fourfold : Nat) : Bool :=
  let unit := Nat.pow 2 d.exponent
  let value := 4 * d.mantissa * unit
  let low := if d.mantissa = Nat.pow 2 52 then value - unit else value - 2 * unit
  let high := value + 2 * unit
  if d.mantissa % 2 = 0 then low ≤ fourfold && fourfold ≤ high
  else low < fourfold && fourfold < high

/-- The multiple of `10 ^ k` nearest to the double among its two neighbours that read back. -/
def candidate? (d : Double) (k : Nat) : Option Nat :=
  let value := d.mantissa * Nat.pow 2 d.exponent
  let below := value / Nat.pow 10 k * Nat.pow 10 k
  let above := below + Nat.pow 10 k
  match readsBack d (4 * below), readsBack d (4 * above) with
  | true, true => some (if 2 * (value - below) < Nat.pow 10 k then below else above)
  | true, false => some below
  | false, true => some above
  | false, false => none

/-- The first candidate with at most `k` zeros filled in, or the value itself. -/
def search (d : Double) : Nat → Nat
  | 0 => d.mantissa * Nat.pow 2 d.exponent
  | k + 1 => (candidate? d (k + 1)).getD (search d k)

/-- The whole number with the fewest significant digits that reads back as the double. -/
def digits (d : Double) : Nat :=
  if d.exponent = 0 then d.mantissa else search d 19

/-- A signed whole number as a double shows it. -/
def text (n : Int) : String :=
  let shown := toString (digits (round n.natAbs))
  if n < 0 then "-" ++ shown else shown

end SourceTally.Shortest
