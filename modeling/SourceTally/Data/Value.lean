/-!
# Structured values

The values that documents hold: texts and numbers, lists, and records with their fields in order.

## Main definitions

* `Value`: a structured value
* `Value.ofNat`: a number
-/

namespace SourceTally

/-- A structured value. A number is kept as it is written. -/
inductive Value where
  | null
  | bool (value : Bool)
  | number (digits : String)
  | text (text : String)
  | list (items : List Value)
  | record (fields : List (String × Value))
  deriving Repr, Inhabited

def Value.ofNat (n : Nat) : Value := .number (toString n)

end SourceTally
