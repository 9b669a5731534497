import SourceTally.Error
import SourceTally.Handler
import SourceTally.ResultSlots

/-!
# The control plane

The plane owns the counting table, the result slots and the license. Hosts are seeded into the
table, programs are deployed if the license lets them, deployed handlers observe frames, and
snapshots show what has been counted.

## Main definitions

* `Plane`: the state
* `Plane.ofConfig`, `Plane.seed`, `Plane.deploy`: setting up
* `Plane.observe`, `Plane.fire`: running programs
* `Plane.snapshot`, `Plane.results`: the views
* `Plane.Operation`, `Plane.perform`: everything that can be asked of a plane
* `Session`, `Session.perform?`: a plane with the handlers that clients have, and what they can do
-/

namespace SourceTally

structure CounterEntry where
  addr : Address
  key : UInt32
  count : UInt64
  deriving DecidableEq, Repr

def CounterEntry.ofCount (key : UInt32) (count : UInt64) : CounterEntry :=
  ⟨Address.ofKey key, key, count⟩

/-- Sum of all counts. -/
def CounterEntry.total (entries : List CounterEntry) : UInt64 :=
  entries.foldr (fun e total => e.count + total) 0

/-- Counters in ascending order of their addresses. -/
def CounterEntry.sorted (counts : List (UInt32 × UInt64)) : List CounterEntry :=
  (counts.map fun (key, count) => ofCount key count).mergeSort fun a b => a.addr.le b.addr

structure ResultEntry where
  slot : ResultSlot
  value : UInt64
  deriving DecidableEq, Repr

/-- What a counting table shows to its readers. -/
structure Snapshot where
  policy : InsertPolicy
  capacity : Nat
  entries : List CounterEntry
  deriving DecidableEq, Repr

namespace Snapshot

/-- Number of addresses. -/
def size (s : Snapshot) : Nat := s.entries.length

def total (s : Snapshot) : UInt64 := CounterEntry.total s.entries

def countFor? (s : Snapshot) (addr : Address) : Option UInt64 :=
  (s.entries.find? fun e => e.addr = addr).map (·.count)

end Snapshot

/-- The state of the control plane. -/
structure Plane where
  table : CountingTable counterCapacity
  slots : ResultSlots resultsCapacity
  license : String

namespace Plane

def empty (policy : InsertPolicy) : Plane :=
  ⟨.empty counterCapacity policy, .zero resultsCapacity, License.gpl⟩

/-- Make a host known to the table. -/
def seed? (plane : Plane) (addr : Address) : Except Error Plane :=
  match plane.table.seed addr.key with
  | .ok table => .ok { plane with table }
  | .error full => .error (.tableFull full.capacity addr)

/-- Make a host known to the table, with a note. -/
def seed (plane : Plane) (addr : Address) : Attempt Plane := do
  note .control .debug ("Seeding " ++ addr.text)
  plane.seed? addr

/-- A plane for a configuration: checked, and with all its hosts known. -/
def ofConfig (config : Config) : Attempt Plane := do
  config.validate.mapError Error.config
  let plane ← config.hosts.foldlM seed { empty config.policy with license := config.license }
  note .control .info
    ("Counting table ready: " ++ toString plane.table.size ++ " known hosts, policy " ++
      plane.table.policy.name)
  if plane.table.policy = .lookupOrInsert then
    note .control .warn
      "lookup_or_insert enabled: unseeded sources will claim table slots"
  return plane

/-- Whether the plane's license lets a program be loaded. -/
def admits (plane : Plane) (program : Program) : Except Error Unit :=
  (program.check plane.license).mapError .capability

/-- Deploy a program: check its needs against the license. -/
def deploy (plane : Plane) (kind : ProgramKind) : Attempt Unit := do
  let program := kind.program
  plane.admits program
  note .control .debug
    ("Deployed " ++ program.name ++ " (" ++ program.hook ++ ") on " ++ program.context.name)

def observe (plane : Plane) (handler : HandlerKind) (frame : Frame) : Observation × Plane :=
  let (observation, table) := handler.observe frame plane.table
  (observation, { plane with table })

/-- One run of the results harness. -/
def fire (plane : Plane) (lhs rhs : UInt64) : Plane :=
  { plane with slots := (Arithmetic.compute lhs rhs).storeInto plane.slots }

/-- All counters, in ascending order of their addresses. -/
def snapshot (plane : Plane) : Snapshot :=
  ⟨plane.table.policy, counterCapacity, CounterEntry.sorted plane.table.entries⟩

/-- The named results, in the order of their slots. -/
def results (plane : Plane) : List ResultEntry :=
  ResultSlot.all.filterMap fun slot => (plane.slots.load? slot.index).map (⟨slot, ·⟩)

/-- The harness as printed, with the slots it writes to and its operands. -/
def harnessDescription (plane : Plane) (lhs rhs : UInt64) : String :=
  "ResultsHarness \x7b results: " ++ plane.slots.description ++ ", lhs: " ++
    toString lhs.toNat ++ ", rhs: " ++ toString rhs.toNat ++ " \x7d"

/-- What can be asked of a plane. -/
inductive Operation where
  | seed (addr : Address)
  | deploy (program : ProgramKind)
  /-- Let a handler that was deployed observe a frame. -/
  | observe (handler : HandlerKind) (frame : Frame)
  /-- Deploy the results harness and fire it. -/
  | fire (lhs rhs : UInt64)
  | snapshot
  | results
  deriving DecidableEq, Repr

inductive Answer where
  | done
  | observed (observation : Observation)
  | snapshot (snapshot : Snapshot)
  | results (results : List ResultEntry)
  | failed (error : Error)
  deriving DecidableEq, Repr

/-- Perform one operation. A failed operation leaves the plane as it was. Programs are checked when
they are deployed, and handlers are not checked again when they observe. -/
def perform (plane : Plane) : Operation → Answer × Plane
  | .seed addr =>
    match plane.seed? addr with
    | .ok plane' => (.done, plane')
    | .error e => (.failed e, plane)
  | .deploy kind =>
    match plane.admits kind.program with
    | .ok () => (.done, plane)
    | .error e => (.failed e, plane)
  | .observe handler frame =>
    let (observation, plane') := plane.observe handler frame
    (.observed observation, plane')
  | .fire lhs rhs =>
    match plane.admits ProgramKind.results.program with
    | .ok () => (.done, plane.fire lhs rhs)
    | .error e => (.failed e, plane)
  | .snapshot => (.snapshot plane.snapshot, plane)
  | .results => (.results plane.results, plane)

end Plane

/-- A plane with the handlers that it has handed out. -/
structure Session where
  plane : Plane
  handlers : List HandlerKind := []

namespace Session

open Plane (Operation Answer)

/-- Perform one operation, as clients can. A handler is checked when it is deployed and never again;
one that has not been handed out cannot be used. -/
def perform? (s : Session) (operation : Operation) : Option (Answer × Session) :=
  match operation with
  | .deploy kind =>
    match (s.plane.deploy kind).result with
    | .ok () =>
      match kind with
      | .handler handler => some (.done, { s with handlers := handler :: s.handlers })
      | .results => some (.done, s)
    | .error e => some (.failed e, s)
  | .observe handler frame =>
    if handler ∈ s.handlers then
      let (observation, plane) := s.plane.observe handler frame
      some (.observed observation, { s with plane })
    else
      none
  | .seed _ | .fire _ _ | .snapshot | .results =>
    let (answer, plane) := s.plane.perform operation
    some (answer, { s with plane })

/-- Perform operations in order, if all of them can be performed. -/
def performAll? (s : Session) : List Operation → Option Session
  | [] => some s
  | operation :: rest =>
    match s.perform? operation with
    | some (_, next) => next.performAll? rest
    | none => none

end Session

end SourceTally
