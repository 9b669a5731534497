import SourceTally.Table.Basic
import SourceTally.Turns

/-!
# The counting table in atomic steps

Several calls may work on one table at the same time. A call then proceeds in steps, each of which
looks at or changes one cell at once: load a key, put a key into an empty cell unless another one is
there, add to the number of keys, add to a counter. A schedule tells which call makes the next step.

A call that seeds walks the slots and tries to claim each one; a call that increments first walks
them reading, and claims only if the key is not met and the policy lets it.

## Main definitions

* `Atomic.Request`, `Atomic.Answer`: what a call is asked and what it answers
* `Atomic.Phase`: what a call does next
* `Atomic.Call.answer?`, `Atomic.Call.obtained?`: what a call has answered, and got from a counter
* `Atomic.System`: a table with the calls on it
* `Atomic.System.step`, `Atomic.System.run`: one step of one call, and a schedule of steps
-/

namespace SourceTally.Atomic

/-- What a call is asked to do. -/
inductive Request where
  | seed (key : UInt32)
  | increment (key : UInt32)
  deriving DecidableEq, Repr

def Request.key : Request → UInt32
  | seed key => key
  | increment key => key

inductive Answer where
  | seeded
  | full
  | counted (result : Increment)
  deriving DecidableEq, Repr

/-- What a call does next. -/
inductive Phase (N : Nat) where
  /-- Load the key of slot `i`; `left` slots come after it. -/
  | probing (left : Nat) (i : Fin N)
  /-- Put the key into slot `i` if that is empty; `left` slots come after it. -/
  | claiming (left : Nat) (i : Fin N)
  /-- The key has been put into slot `i`; add one to the number of keys. -/
  | announcing (i : Fin N)
  /-- Add one to the counter of slot `i`, which this call may have claimed. -/
  | adding (i : Fin N) (claimed : Bool)
  /-- Nothing; if the call has added to a counter, that then had the value `obtained`. -/
  | returned (answer : Answer) (obtained : Option UInt64)
  deriving DecidableEq, Repr

structure Call (N : Nat) where
  request : Request
  phase : Phase N
  deriving DecidableEq, Repr

variable {N : Nat} [HasSlots N]

/-- Start to claim a slot. -/
def Phase.claim (key : UInt32) : Phase N := .claiming (N - 1) (home N key)

/-- A call before its first step. -/
def Call.start (N : Nat) [HasSlots N] (request : Request) : Call N :=
  match request with
  | .seed key => ⟨request, .claim key⟩
  | .increment key => ⟨request, .probing (N - 1) (home N key)⟩

def Call.hasReturned (call : Call N) : Bool :=
  match call.phase with
  | .returned _ _ => true
  | _ => false

def Call.answer? (call : Call N) : Option Answer :=
  match call.phase with
  | .returned answer _ => some answer
  | _ => none

/-- The value that a returned call got by adding to the counter of a key. -/
def Call.obtained? (key : UInt32) (call : Call N) : Option UInt64 :=
  match call.phase with
  | .returned _ obtained => if call.request = .increment key then obtained else none
  | _ => none

/-- Whether a call has put its key into a slot and not yet added to the number of keys. -/
def Call.isAnnouncing (call : Call N) : Bool :=
  match call.phase with
  | .announcing _ => true
  | _ => false

def Call.hasCounted (key : UInt32) (call : Call N) : Bool :=
  call.request = .increment key &&
    match call.answer? with
    | some (.counted (.updated _)) => true
    | some (.counted .inserted) => true
    | _ => false

def Call.hasInserted (key : UInt32) (call : Call N) : Bool :=
  call.request = .increment key && call.answer? = some (.counted .inserted)

/-- What follows when an increment has not met its key. -/
def Phase.afterMiss (policy : InsertPolicy) (key : UInt32) : Phase N :=
  match policy with
  | .lookupOnly => .returned (.counted .notFound) none
  | .lookupOrInsert => .claim key

/-- What follows when the slot of the key is known. -/
def Phase.afterClaim (request : Request) (i : Fin N) (claimed : Bool) : Phase N :=
  match request with
  | .seed _ => .returned .seeded none
  | .increment _ => .adding i claimed

/-- What follows when every slot is taken by another key. -/
def Phase.afterFull (request : Request) : Phase N :=
  match request with
  | .seed _ => .returned .full none
  | .increment _ => .returned (.counted .notFound) none

def Call.step (table : CountingTable N) (call : Call N) : CountingTable N × Call N :=
  let key := call.request.key
  let goOn (phase : Phase N) : Call N := { call with phase }
  match call.phase with
  | .probing left i =>
    match (table.slots.get i).key, left with
    | none, _ => (table, goOn (.afterMiss table.policy key))
    | some k, left =>
      if k = key then (table, goOn (.adding i false))
      else
        match left with
        | 0 => (table, goOn (.afterMiss table.policy key))
        | left + 1 => (table, goOn (.probing left (next i)))
  | .claiming left i =>
    match (table.slots.get i).key with
    | none =>
      -- only the key is written: the counter of an empty slot is zero already
      ({ table with slots := table.slots.set i { table.slots.get i with key := some key } i.isLt },
        goOn (.announcing i))
    | some k =>
      if k = key then (table, goOn (.afterClaim call.request i false))
      else
        match left with
        | 0 => (table, goOn (.afterFull call.request))
        | left + 1 => (table, goOn (.claiming left (next i)))
  | .announcing i =>
    ({ table with size := table.size + 1 }, goOn (.afterClaim call.request i true))
  | .adding i claimed =>
    -- the value that the counter had for this call, whatever others add to it later
    let value := (table.slots.get i).count + 1
    let result := if claimed then Increment.inserted else .updated value
    (table.bump i, goOn (.returned (.counted result) (some value)))
  | .returned _ _ => (table, call)

/-- A table with the calls on it. -/
structure System (N : Nat) where
  table : CountingTable N
  calls : List (Call N)

namespace System

/-- Calls on an empty table, none of which has made a step. -/
def start (N : Nat) [HasSlots N] (policy : InsertPolicy) (requests : List Request) : System N :=
  ⟨.empty N policy, requests.map (Call.start N)⟩

/-- One step of the call with the given number; nothing happens if there is none. -/
def step (system : System N) (turn : Nat) : System N :=
  let (table, calls) := takeTurn Call.step (system.table, system.calls) turn
  ⟨table, calls⟩

def run (system : System N) (schedule : List Nat) : System N := schedule.foldl step system

def isDone (system : System N) : Bool := system.calls.all Call.hasReturned

end System

end SourceTally.Atomic
