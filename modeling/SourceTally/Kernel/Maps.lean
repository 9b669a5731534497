import SourceTally.Ledger
import SourceTally.ResultSlots
import SourceTally.Table.Basic

/-!
# Kernel maps

What the kernel programs share: a hash map from source keys to counts that holds at most as many
keys as a counting table, an array of control words, and the array of results. Arrays start at zero.

## Main definitions

* `Kernel.BoundedMap`: a hash map that keeps its limit; keys are never deleted
* `Kernel.BoundedMap.put`: the map with the count of one key set
* `Kernel.Maps`: all maps
* `Kernel.MapName`: their names in object files
-/

namespace SourceTally.Kernel

/-- A map from keys to counts that holds at most `limit` keys. -/
structure BoundedMap (limit : Nat) where
  counts : Ledger UInt32 UInt64 := []
  bounded : counts.size ≤ limit := by exact Nat.zero_le _
  deriving DecidableEq, Repr

namespace BoundedMap

variable {limit : Nat}

def entries (m : BoundedMap limit) : List (UInt32 × UInt64) := m.counts.entries

def get? (m : BoundedMap limit) (key : UInt32) : Option UInt64 := m.counts.get? key

/-- Number of keys. -/
def size (m : BoundedMap limit) : Nat := m.counts.size

/-- A key may be given a count if it is present or there is room for one more. -/
def takes (m : BoundedMap limit) (key : UInt32) : Bool := m.counts.contains key || m.size < limit

theorem size_put_le {m : BoundedMap limit} {key : UInt32} (h : m.takes key) (count : UInt64) :
    (m.counts.put key count).size ≤ limit := by
  cases hget : m.counts.get? key with
  | some old =>
    rw [Ledger.size_put_of_some hget]
    exact m.bounded
  | none =>
    have hroom : m.size < limit := by simpa [takes, Ledger.contains, hget] using h
    rw [Ledger.size_put_of_none hget]
    exact hroom

/-- The map with the count of one key set, if it takes that key. -/
def put (m : BoundedMap limit) (key : UInt32) (count : UInt64) : BoundedMap limit :=
  if h : m.takes key then ⟨m.counts.put key count, size_put_le h count⟩ else m

/-- Give a key a count, whether it is present or not; a new key needs room. -/
def set? (m : BoundedMap limit) (key : UInt32) (count : UInt64) : Option (BoundedMap limit) :=
  if m.takes key then some (m.put key count) else none

/-- Give a key its first count; refused if it is present or there is no room. -/
def insertNew? (m : BoundedMap limit) (key : UInt32) (count : UInt64) :
    Option (BoundedMap limit) :=
  if m.counts.contains key then none
  else if m.size < limit then some (m.put key count)
  else none

/-- Add one to the count of a key that is present, and report it. -/
def bump (m : BoundedMap limit) (key : UInt32) (count : UInt64) : Increment × BoundedMap limit :=
  let (result, cell) := bumpCell count
  (result, m.put key cell)

end BoundedMap

/-- Number of control words. -/
def controlSlots : Nat := 4

/-- The control word that holds the insert policy. -/
def policySlot : Nat := 0

structure Maps where
  counters : BoundedMap counterCapacity := {}
  control : Vector UInt32 controlSlots := Vector.replicate controlSlots 0
  results : ResultSlots resultsCapacity := .zero resultsCapacity
  deriving DecidableEq, Repr

/-- Write a control word, if it exists. -/
def Maps.setControl? (maps : Maps) (slot : Nat) (word : UInt32) : Option Maps :=
  if h : slot < controlSlots then some { maps with control := maps.control.set slot word h }
  else none

/-- Names of the maps in object files. -/
inductive MapName where
  | counters
  | results
  | control
  deriving DecidableEq, Repr

def MapName.text : MapName → String
  | counters => "CONNECTION_COUNTER"
  | results => "RESULTS"
  | control => "CONTROL"

end SourceTally.Kernel
