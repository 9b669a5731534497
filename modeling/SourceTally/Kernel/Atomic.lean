import SourceTally.Kernel.Maps
import SourceTally.Turns

/-!
# Kernel counting in atomic steps

On several processors the source counter runs several times at once. Each run counts its key in
steps on the shared map: look the key up, insert it unless it is there, look it up again, add one to
its count, and load the count that it reports. The insert policy does not change meanwhile.

## Main definitions

* `Kernel.Atomic.Phase`, `Kernel.Atomic.Call`: a run that counts a key
* `Kernel.Atomic.Call.hasCounted`, `Kernel.Atomic.Call.hasInserted`: what a run has answered
* `Kernel.Atomic.System`: the map with the runs on it
* `Kernel.Atomic.System.step`, `Kernel.Atomic.System.run`: one step, and a schedule of steps
-/

namespace SourceTally.Kernel.Atomic

/-- What a run does next. -/
inductive Phase where
  | lookingUp
  /-- Insert the key with count one, unless it is there. -/
  | inserting
  /-- Look the key up again. -/
  | retrying
  /-- Add one to the count. -/
  | adding
  /-- Load the count; it was `before` when this run added to it. -/
  | loading (before : UInt64)
  /-- Nothing. If the run has added to a count, that was `before`. -/
  | returned (result : Increment) (before : Option UInt64)
  deriving DecidableEq, Repr

/-- A run that counts a key. -/
structure Call where
  key : UInt32
  phase : Phase := .lookingUp
  deriving DecidableEq, Repr

def Call.hasReturned (call : Call) : Bool :=
  match call.phase with
  | .returned _ _ => true
  | _ => false

/-- What a run has answered. -/
def Call.result? (call : Call) : Option Increment :=
  match call.phase with
  | .returned result _ => some result
  | _ => none

/-- The count of its key just before a run added to it. -/
def Call.before? (call : Call) : Option UInt64 :=
  match call.phase with
  | .loading before => some before
  | .returned _ before => before
  | _ => none

def Call.hasInserted (key : UInt32) (call : Call) : Bool :=
  call.key = key && call.result? = some .inserted

/-- Whether a run has answered that it counted a key. -/
def Call.hasCounted (key : UInt32) (call : Call) : Bool :=
  call.key = key && call.result? ≠ none && call.result? ≠ some .notFound

variable {limit : Nat}

def Call.step (policy : InsertPolicy) (map : BoundedMap limit) (call : Call) :
    BoundedMap limit × Call :=
  let goOn (phase : Phase) : Call := { call with phase }
  match call.phase with
  | .lookingUp =>
    match map.get? call.key, policy with
    | some _, _ => (map, goOn .adding)
    | none, .lookupOnly => (map, goOn (.returned .notFound none))
    | none, .lookupOrInsert => (map, goOn .inserting)
  | .inserting =>
    match map.insertNew? call.key 1 with
    | some map => (map, goOn (.returned .inserted none))
    | none => (map, goOn .retrying)
  | .retrying =>
    match map.get? call.key with
    | some _ => (map, goOn .adding)
    | none => (map, goOn (.returned .notFound none))
  | .adding =>
    let before := (map.get? call.key).getD 0
    ((map.bump call.key before).2, goOn (.loading before))
  | .loading before =>
    (map, goOn (.returned (.updated ((map.get? call.key).getD 0)) (some before)))
  | .returned _ _ => (map, call)

/-- The map with the runs on it. -/
structure System (limit : Nat) where
  policy : InsertPolicy
  map : BoundedMap limit
  calls : List Call

namespace System

/-- Runs on a map, none of which has made a step. -/
def start (policy : InsertPolicy) (map : BoundedMap limit) (keys : List UInt32) : System limit :=
  ⟨policy, map, keys.map fun key => { key }⟩

/-- One step of the run with the given number; nothing happens if there is none. -/
def step (system : System limit) (turn : Nat) : System limit :=
  let (map, calls) := takeTurn (Call.step system.policy) (system.map, system.calls) turn
  { system with map, calls }

def run (system : System limit) (schedule : List Nat) : System limit := schedule.foldl step system

def isDone (system : System limit) : Bool := system.calls.all Call.hasReturned

end System

end SourceTally.Kernel.Atomic
