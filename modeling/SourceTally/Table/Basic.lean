import SourceTally.Table.Policy

/-!
# The counting table

A table has a fixed number of slots. A key has a home slot, given by a hash of its bytes, and is
looked for from there on, slot by slot, around the end of the table if need be. Slots are never
freed, so a search that meets an empty slot shows that the key is absent, and a search that has
seen every slot shows that the table is full of other keys.

## Main definitions

* `Slot`, `CountingTable`: key cells and counter cells
* `home`, `next`: the order in which the slots are searched for a key
* `CountingTable.probe`: the search
* `CountingTable.seed`, `CountingTable.increment`: the two operations that write
* `CountingTable.get?`, `CountingTable.contains`, `CountingTable.entries`: the views
-/

namespace SourceTally

/-- One slot: a key, if the slot is taken, and its counter. -/
structure Slot where
  key : Option UInt32 := none
  count : UInt64 := 0
  deriving DecidableEq, Repr, Inhabited

/-- What became of one count. -/
inductive Increment where
  /-- The key was present; its counter now has this value. -/
  | updated (count : UInt64)
  /-- The key took a free slot and was counted once. -/
  | inserted
  /-- The key is absent and was not inserted. -/
  | notFound
  deriving DecidableEq, Repr

/-- Every slot is taken by another key. -/
structure TableFull where
  capacity : Nat
  deriving DecidableEq, Repr

/-- A table of `N` slots, the number of keys in it, and its policy. -/
structure CountingTable (N : Nat) where
  slots : Vector Slot N
  size : Nat
  policy : InsertPolicy

/-- Capacity of the tables that count sources. -/
def counterCapacity : Nat := 1024

/-- A table of this many slots has a slot. -/
abbrev HasSlots (N : Nat) : Prop := @NeZero Nat Zero.ofOfNat0 N

theorem HasSlots.pos {N : Nat} [h : HasSlots N] : 0 < N := Nat.pos_of_ne_zero h.out

instance : HasSlots counterCapacity := ⟨by decide⟩

/-- The bytes of a key, least significant first. -/
def keyBytes (key : UInt32) : List UInt8 :=
  [key.toUInt8, (key >>> 8).toUInt8, (key >>> 16).toUInt8, (key >>> 24).toUInt8]

/-- Hash of a key: start from a fixed word; for each byte, exclusive-or it in and multiply by a
fixed prime. -/
def keyHash (key : UInt32) : UInt64 :=
  (keyBytes key).foldl (fun h b => (h ^^^ b.toUInt64) * 0x100000001b3) 0xcbf29ce484222325

variable {N : Nat}

/-- The slot at which the search for a key starts. -/
def home (N : Nat) [HasSlots N] (key : UInt32) : Fin N :=
  ⟨(keyHash key).toNat % N, Nat.mod_lt _ HasSlots.pos⟩

/-- The slot behind a slot; behind the last one is the first. -/
def next (i : Fin N) : Fin N :=
  ⟨(i.val + 1) % N, Nat.mod_lt _ i.pos⟩

/-- Where a search for a key ends. -/
inductive Probe (N : Nat) where
  /-- The key is in this slot. -/
  | found (i : Fin N)
  /-- This slot is empty and no slot before it holds the key. -/
  | vacant (i : Fin N)
  /-- Every slot holds another key. -/
  | exhausted
  deriving DecidableEq, Repr

namespace CountingTable

/-- A table without keys. -/
def empty (N : Nat) (policy : InsertPolicy) : CountingTable N :=
  ⟨Vector.replicate N {}, 0, policy⟩

/-- Search at most `steps` slots from `i` on. -/
def probeFrom (slots : Vector Slot N) (key : UInt32) : Nat → Fin N → Probe N
  | 0, _ => .exhausted
  | steps + 1, i =>
    match (slots.get i).key with
    | none => .vacant i
    | some k => if k = key then .found i else probeFrom slots key steps (next i)

/-- Search for a key through the whole table, from its home slot on. -/
def probe [HasSlots N] (t : CountingTable N) (key : UInt32) : Probe N :=
  probeFrom t.slots key N (home N key)

def put (t : CountingTable N) (i : Fin N) (key : UInt32) (count : UInt64) : CountingTable N :=
  { t with slots := t.slots.set i ⟨some key, count⟩ i.isLt, size := t.size + 1 }

/-- Add one to the counter of a slot. -/
def bump (t : CountingTable N) (i : Fin N) : CountingTable N :=
  let slot := t.slots.get i
  { t with slots := t.slots.set i { slot with count := slot.count + 1 } i.isLt }

/-- Make a key known with count zero. A known key keeps its count. -/
def seed [HasSlots N] (t : CountingTable N) (key : UInt32) : Except TableFull (CountingTable N) :=
  match t.probe key with
  | .found _ => .ok t
  | .vacant i => .ok (t.put i key 0)
  | .exhausted => .error ⟨N⟩

/-- Count a key once, as the policy allows. -/
def increment [HasSlots N] (t : CountingTable N) (key : UInt32) : Increment × CountingTable N :=
  match t.probe key with
  | .found i => (.updated ((t.slots.get i).count + 1), t.bump i)
  | .vacant i =>
    match t.policy with
    | .lookupOnly => (.notFound, t)
    | .lookupOrInsert => (.inserted, t.put i key 1)
  | .exhausted => (.notFound, t)

/-- The count of a key, if it is known. -/
def get? [HasSlots N] (t : CountingTable N) (key : UInt32) : Option UInt64 :=
  match t.probe key with
  | .found i => some (t.slots.get i).count
  | _ => none

def contains [HasSlots N] (t : CountingTable N) (key : UInt32) : Bool :=
  match t.probe key with
  | .found _ => true
  | _ => false

/-- Whether no key is known. -/
def isEmpty (t : CountingTable N) : Bool := t.size = 0

/-- The keys and their counts, in the order of the slots. -/
def entries (t : CountingTable N) : List (UInt32 × UInt64) :=
  t.slots.toList.filterMap fun slot => slot.key.map (·, slot.count)

def description (t : CountingTable N) : String :=
  "CountingTable \x7b capacity: " ++ toString N ++ ", len: " ++ toString t.size ++
    ", policy: " ++ t.policy.label ++ " \x7d"

end CountingTable

/-- Add one to a counter cell and report the cell. -/
def bumpCell (cell : UInt64) : Increment × UInt64 :=
  (.updated (cell + 1), cell + 1)

end SourceTally
