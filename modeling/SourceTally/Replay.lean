import SourceTally.Plane
import SourceTally.Tally

/-!
# Replay

Captured frames are given to a handler by several workers. Worker `i` of `w` takes the frames `i`,
`i + w`, `i + 2 w` and so on, so each frame is observed once.

## Main definitions

* `Replay.workerCount`: how many workers there really are
* `Replay.share`: the frames of one worker
* `Replay.run`: replay through any handler, one that may break down included
* `Replay.runHandler`: replay through a handler of a plane
-/

namespace SourceTally.Replay

/-- Number of workers: at least one, and no more than there are frames. -/
def workerCount (requested frames : Nat) : Nat := min (max requested 1) (max frames 1)

/-- Every `stride`-th item from `offset` on. -/
def everyNth {α : Type} (stride : Nat) : Nat → List α → List α
  | _, [] => []
  | 0, a :: rest => a :: everyNth stride (stride - 1) rest
  | offset + 1, _ :: rest => everyNth stride offset rest

def share {α : Type} (workers : Nat) (items : List α) (i : Nat) : List α :=
  everyNth workers i items

/-- The items of all workers, one worker after the other. -/
def shares {α : Type} (workers : Nat) (items : List α) : List (List α) :=
  (List.range workers).map (share workers items)

/-- A handler with its state: it observes a frame, or it breaks down for a reason. -/
abbrev Observer (σ : Type) := Frame → σ → Except String (Observation × σ)

/-- Let one worker observe its frames. A worker that breaks down leaves the rest of its share. -/
def work {σ : Type} (observer : Observer σ) : List Frame → Tally × σ → Option String × Tally × σ
  | [], state => (none, state)
  | frame :: rest, (tally, state) =>
    match observer frame state with
    | .error reason => (some reason, tally, state)
    | .ok (observation, state) => work observer rest (tally.observe observation, state)

/-- Let all workers observe their shares; the first breakdown is kept. -/
def workAll {σ : Type} (observer : Observer σ) :
    List (List Frame) → Tally × σ → Option String × Tally × σ
  | [], state => (none, state)
  | frames :: rest, state =>
    let (reason, state) := work observer frames state
    let (later, state) := workAll observer rest state
    (reason.orElse fun _ => later, state)

/-- Replay frames through a handler. -/
def run {σ : Type} (name : String) (observer : Observer σ) (requested : Nat)
    (frames : List Frame) (tally : Tally) (state : σ) : Attempt (Tally × σ) := do
  let workers := workerCount requested frames.length
  note .replay .info
    ("Replaying " ++ toString frames.length ++ " frames through " ++ name ++ " on " ++
      toString workers ++ " workers")
  match workAll observer (shares workers frames) (tally, state) with
  | (some reason, _) => throw (.replay reason)
  | (none, state) => return state

/-- A handler of a plane as an observer; it never breaks down. -/
def planeObserver (handler : HandlerKind) : Observer Plane := fun frame plane =>
  .ok (plane.observe handler frame)

/-- Deploy a handler and replay frames through it. -/
def runHandler (plane : Plane) (handler : HandlerKind) (requested : Nat)
    (frames : List Frame) (tally : Tally) : Attempt (Tally × Plane) := do
  plane.deploy (.handler handler)
  run handler.program.name (planeObserver handler) requested frames tally plane

end SourceTally.Replay
