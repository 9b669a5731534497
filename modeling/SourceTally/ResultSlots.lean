/-!
# Result slots

A harness computes five numbers from two operands and leaves each in a numbered slot. Arithmetic is
on 64-bit words: it wraps, a quotient by zero is zero, and a remainder by zero is the dividend.

## Main definitions

* `ResultSlot`: the five named slots
* `ResultSlots`: a row of cells; access past its end is refused
* `Arithmetic.compute`, `Arithmetic.storeInto`: the harness
-/

namespace SourceTally

inductive ResultSlot where
  | sum
  | difference
  | product
  | quotient
  | remainder
  deriving DecidableEq, Repr

namespace ResultSlot

/-- Number of the cell that holds a result. -/
def index : ResultSlot → Nat
  | sum => 0
  | difference => 1
  | product => 2
  | quotient => 3
  | remainder => 4

def name : ResultSlot → String
  | sum => "sum"
  | difference => "difference"
  | product => "product"
  | quotient => "quotient"
  | remainder => "remainder"

/-- The results in the order of their cells. -/
def all : List ResultSlot := [sum, difference, product, quotient, remainder]

end ResultSlot

/-- Number of cells the control plane owns. -/
def resultsCapacity : Nat := 8

/-- A row of `N` cells. -/
structure ResultSlots (N : Nat) where
  cells : Vector UInt64 N
  deriving DecidableEq, Repr

namespace ResultSlots

variable {N : Nat}

def zero (N : Nat) : ResultSlots N := ⟨Vector.replicate N 0⟩

/-- Write a cell, if it exists. -/
def store? (s : ResultSlots N) (index : Nat) (value : UInt64) : Option (ResultSlots N) :=
  if h : index < N then some ⟨s.cells.set index value h⟩ else none

/-- Write a cell; writing past the end changes nothing. -/
def store (s : ResultSlots N) (index : Nat) (value : UInt64) : ResultSlots N :=
  (s.store? index value).getD s

/-- Read a cell, if it exists. -/
def load? (s : ResultSlots N) (index : Nat) : Option UInt64 := s.cells[index]?

/-- The cells as a printed list. -/
def description (s : ResultSlots N) : String :=
  "[" ++ ", ".intercalate (s.cells.toList.map fun cell => toString cell.toNat) ++ "]"

end ResultSlots

/-- The five results for one pair of operands. -/
structure Arithmetic where
  sum : UInt64
  difference : UInt64
  product : UInt64
  quotient : UInt64
  remainder : UInt64
  deriving DecidableEq, Repr

namespace Arithmetic

/-- Compute all results. The second operand is the minuend and the dividend. -/
def compute (lhs rhs : UInt64) : Arithmetic where
  sum := lhs + rhs
  difference := rhs - lhs
  product := lhs * rhs
  quotient := if lhs = 0 then 0 else rhs / lhs
  remainder := if lhs = 0 then rhs else rhs % lhs

def value (a : Arithmetic) : ResultSlot → UInt64
  | .sum => a.sum
  | .difference => a.difference
  | .product => a.product
  | .quotient => a.quotient
  | .remainder => a.remainder

/-- Write each result into its cell, as far as the row has it. -/
def storeInto {N : Nat} (a : Arithmetic) (s : ResultSlots N) : ResultSlots N :=
  ResultSlot.all.foldl (fun s slot => s.store slot.index (a.value slot)) s

end Arithmetic

end SourceTally
