import SourceTally.Replay
import SourceTally.Turns

/-!
# Workers that replay at once

The workers of a replay share a tally and a plane, and run at the same time. A worker takes turns:
it lets the handler observe its next frame, and at its next turn it records what was observed.
Between the two, other workers may take any number of turns.

## Main definitions

* `Replay.Worker`, `Replay.Worker.act`: what a worker has left to do, and does next
* `Replay.Crew`: the workers with what they share
* `Replay.Crew.step`, `Replay.Crew.run`: one turn, and a schedule of turns
* `Replay.Ends`: where a replay can end
-/

namespace SourceTally.Replay

structure Worker where
  /-- The frames of its share that have not been observed. -/
  left : List Frame
  /-- What has been observed and not yet recorded. -/
  unrecorded : Option Observation := none
  deriving DecidableEq, Repr

/-- What a worker does in its turn with the tally and the plane: it records what it has observed, or
observes its next frame. A worker that is done does nothing. -/
def Worker.act (handler : HandlerKind) (shared : Tally × Plane) : Worker → (Tally × Plane) × Worker
  | ⟨left, some observation⟩ => ((shared.1.observe observation, shared.2), { left })
  | ⟨frame :: left, none⟩ =>
    let (observation, plane) := shared.2.observe handler frame
    ((shared.1, plane), ⟨left, some observation⟩)
  | ⟨[], none⟩ => (shared, ⟨[], none⟩)

def Worker.isDone (worker : Worker) : Bool := worker.left.isEmpty && worker.unrecorded.isNone

/-- Workers with the tally and the plane that they share. -/
structure Crew where
  tally : Tally
  plane : Plane
  workers : List Worker

namespace Crew

/-- Workers with their shares of the frames, none of which has taken a turn. -/
def start (tally : Tally) (plane : Plane) (shares : List (List Frame)) : Crew :=
  ⟨tally, plane, shares.map fun left => { left }⟩

/-- One turn of the worker with the given number. Nothing happens if there is none, or if it is
done. -/
def step (handler : HandlerKind) (crew : Crew) (turn : Nat) : Crew :=
  let ((tally, plane), workers) :=
    takeTurn (Worker.act handler) ((crew.tally, crew.plane), crew.workers) turn
  ⟨tally, plane, workers⟩

def run (handler : HandlerKind) (crew : Crew) (schedule : List Nat) : Crew :=
  schedule.foldl (step handler) crew

def isDone (crew : Crew) : Bool := crew.workers.all Worker.isDone

end Crew

/-- A replay of the frames can lead from one tally and plane to another: the frames can be shared
out, and the workers can take their turns, so that they are done there. -/
def Ends (handler : HandlerKind) (frames : List Frame) (tally : Tally) (plane : Plane)
    (tally' : Tally) (plane' : Plane) : Prop :=
  ∃ (shares : List (List Frame)) (schedule : List Nat), shares.flatten.Perm frames ∧
    let crew := (Crew.start tally plane shares).run handler schedule
    crew.isDone ∧ crew.tally = tally' ∧ crew.plane = plane'

end SourceTally.Replay
