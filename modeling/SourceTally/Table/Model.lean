import SourceTally.Ledger
import SourceTally.Table.Basic

/-!
# What a counting table stands for

A counting table stands for a plain map from keys to counts that holds a bounded number of keys.
Here the operations are given on such a map, without slots, hashes or searching, beside those of the
table, as requests with answers.

## Main definitions

* `BoundedCounts`: the map
* `TableRequest`, `TableAnswer`: the operations and what they answer
* `TableAnswer.Agrees`: the same answer, up to the order of a listing
* `BoundedCounts.serve`, `CountingTable.serve`: serving a request on either
* `BoundedCounts.serveAll`, `CountingTable.serveAll`: serving requests in order
-/

namespace SourceTally

/-- A map from keys to counts that holds at most `capacity` keys. -/
structure BoundedCounts (capacity : Nat) where
  policy : InsertPolicy
  counts : Ledger UInt32 UInt64
  bounded : counts.size ≤ capacity

/-- What can be asked of a table. -/
inductive TableRequest where
  | seed (key : UInt32)
  | increment (key : UInt32)
  | get (key : UInt32)
  | contains (key : UInt32)
  | size
  | isEmpty
  | entries
  deriving DecidableEq, Repr

/-- The key that a request may change. -/
def TableRequest.written? : TableRequest → Option UInt32
  | seed key => some key
  | increment key => some key
  | _ => none

inductive TableAnswer where
  | seeded (result : Except TableFull Unit)
  | counted (result : Increment)
  | count (value : Option UInt64)
  | flag (value : Bool)
  | number (value : Nat)
  | listed (entries : List (UInt32 × UInt64))

/-- The same answer; two listings need not have the same order. -/
def TableAnswer.Agrees : TableAnswer → TableAnswer → Prop
  | listed a, listed b => a.Perm b
  | a, b => a = b

namespace BoundedCounts

variable {capacity : Nat}

/-- The map without keys. -/
def empty (capacity : Nat) (policy : InsertPolicy) : BoundedCounts capacity :=
  ⟨policy, [], Nat.zero_le _⟩

/-- The map with a new key. -/
def add (m : BoundedCounts capacity) (key : UInt32) (count : UInt64)
    (absent : m.counts.get? key = none) (room : m.counts.size < capacity) :
    BoundedCounts capacity where
  policy := m.policy
  counts := m.counts.put key count
  bounded := by
    rw [Ledger.size_put_of_none absent]
    exact room

/-- The map with another count for one of its keys. -/
def change (m : BoundedCounts capacity) (key : UInt32) (count : UInt64) {old : UInt64}
    (known : m.counts.get? key = some old) : BoundedCounts capacity where
  policy := m.policy
  counts := m.counts.put key count
  bounded := by
    rw [Ledger.size_put_of_some known]
    exact m.bounded

def serve (m : BoundedCounts capacity) : TableRequest → TableAnswer × BoundedCounts capacity
  | .seed key =>
    match known : m.counts.get? key with
    | some _ => (.seeded (.ok ()), m)
    | none =>
      if room : m.counts.size < capacity then (.seeded (.ok ()), m.add key 0 known room)
      else (.seeded (.error ⟨capacity⟩), m)
  | .increment key =>
    match known : m.counts.get? key with
    | some count => (.counted (.updated (count + 1)), m.change key (count + 1) known)
    | none =>
      match m.policy with
      | .lookupOnly => (.counted .notFound, m)
      | .lookupOrInsert =>
        if room : m.counts.size < capacity then (.counted .inserted, m.add key 1 known room)
        else (.counted .notFound, m)
  | .get key => (.count (m.counts.get? key), m)
  | .contains key => (.flag (m.counts.contains key), m)
  | .size => (.number m.counts.size, m)
  | .isEmpty => (.flag m.counts.isEmpty, m)
  | .entries => (.listed m.counts.entries, m)

/-- Serve requests in order, and collect the answers. -/
def serveAll (m : BoundedCounts capacity) :
    List TableRequest → List TableAnswer × BoundedCounts capacity
  | [] => ([], m)
  | request :: rest =>
    let (answer, m) := m.serve request
    let (answers, m) := m.serveAll rest
    (answer :: answers, m)

end BoundedCounts

namespace CountingTable

variable {N : Nat} [HasSlots N]

def serve (t : CountingTable N) : TableRequest → TableAnswer × CountingTable N
  | .seed key =>
    match t.seed key with
    | .ok t => (.seeded (.ok ()), t)
    | .error full => (.seeded (.error full), t)
  | .increment key =>
    let (result, t) := t.increment key
    (.counted result, t)
  | .get key => (.count (t.get? key), t)
  | .contains key => (.flag (t.contains key), t)
  | .size => (.number t.size, t)
  | .isEmpty => (.flag t.isEmpty, t)
  | .entries => (.listed t.entries, t)

/-- Serve requests in order, and collect the answers. -/
def serveAll (t : CountingTable N) : List TableRequest → List TableAnswer × CountingTable N
  | [] => ([], t)
  | request :: rest =>
    let (answer, t) := t.serve request
    let (answers, t) := t.serveAll rest
    (answer :: answers, t)

end CountingTable

end SourceTally
