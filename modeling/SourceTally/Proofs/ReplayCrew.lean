import Mathlib.Data.List.Induction
import SourceTally.Proofs.PlaneTable
import SourceTally.Proofs.Turns
import SourceTally.Replay.Crew

/-!
# Replay as one order of frames

However the workers of a replay take their turns, the plane has observed all frames in some order,
and the tally has recorded what was observed in some order, which may be another. Every order of the
frames is possible, and a replay that lets one worker after the other run is one of them.

## Main definitions

* `Plane.observations`: what a handler answers for frames in order
* `Tally.observeAll`: record observations in order
* `Replay.Crew.Traces`: how far the workers have come

## Main statements

* `Replay.Ends.exists_order`: a replay observes the frames in some order
* `Replay.ends_of_perm`: every order of the frames is possible
* `Replay.runHandler_ends`: a replay on any number of workers is one of these
-/

namespace SourceTally

namespace Plane

/-- What a handler answers for frames in order. -/
def observations (plane : Plane) (handler : HandlerKind) : List Frame → List Observation
  | [] => []
  | frame :: rest =>
    (plane.observe handler frame).1 :: (plane.observe handler frame).2.observations handler rest

theorem observations_append (plane : Plane) (handler : HandlerKind) (frames rest : List Frame) :
    plane.observations handler (frames ++ rest) = plane.observations handler frames ++
      (plane.observeAll handler frames).observations handler rest := by
  induction frames generalizing plane with
  | nil => rfl
  | cons frame frames ih => exact congrArg (_ :: ·) (ih (plane.observe handler frame).2)

theorem length_observations (plane : Plane) (handler : HandlerKind) (frames : List Frame) :
    (plane.observations handler frames).length = frames.length := by
  induction frames generalizing plane with
  | nil => rfl
  | cons frame frames ih => exact congrArg (· + 1) (ih _)

theorem observeAll_append (plane : Plane) (handler : HandlerKind) (frames rest : List Frame) :
    plane.observeAll handler (frames ++ rest) =
      (plane.observeAll handler frames).observeAll handler rest :=
  List.foldl_append

end Plane

/-- Record observations in order. -/
def Tally.observeAll (tally : Tally) (observations : List Observation) : Tally :=
  observations.foldl observe tally

theorem Tally.observeAll_append (tally : Tally) (observations rest : List Observation) :
    tally.observeAll (observations ++ rest) = (tally.observeAll observations).observeAll rest :=
  List.foldl_append

namespace Replay

variable {handler : HandlerKind} {tally tally' : Tally} {plane plane' : Plane}
  {frames : List Frame}

namespace Crew

/-- One turn: nothing, or a worker records, or a worker observes. -/
theorem step_cases (handler : HandlerKind) (crew : Crew) (turn : Nat) :
    crew.step handler turn = crew ∨
    (∃ before left observation rest,
      crew.workers = before ++ ⟨left, some observation⟩ :: rest ∧
      crew.step handler turn =
        ⟨crew.tally.observe observation, crew.plane, before ++ ⟨left, none⟩ :: rest⟩) ∨
    ∃ before frame left rest, crew.workers = before ++ ⟨frame :: left, none⟩ :: rest ∧
      crew.step handler turn = ⟨crew.tally, (crew.plane.observe handler frame).2,
        before ++ ⟨left, some (crew.plane.observe handler frame).1⟩ :: rest⟩ := by
  rcases takeTurn_cases (Worker.act handler) ((crew.tally, crew.plane), crew.workers) turn with
    ⟨_, hturn⟩ | ⟨before, ⟨left, unrecorded⟩, rest, _, hworkers, hturn⟩
  · exact .inl (by rw [step, hturn])
  · cases unrecorded with
    | some observation =>
      exact .inr (.inl ⟨before, left, observation, rest, hworkers, by rw [step, hturn]; rfl⟩)
    | none =>
      cases left with
      | cons frame left =>
        exact .inr (.inr ⟨before, frame, left, rest, hworkers, by rw [step, hturn]; rfl⟩)
      | nil =>
        -- a worker that is done stays where it is
        refine .inl ?_
        rw [step, hturn]
        exact congrArg (Crew.mk crew.tally crew.plane) hworkers.symm

/-- The workers have observed frames in the given order and recorded the given observations. What
they have left to observe, and what they have left to record, is all that is missing. -/
structure Traces (handler : HandlerKind) (tally : Tally) (plane : Plane) (frames : List Frame)
    (order : List Frame) (recorded : List Observation) (crew : Crew) : Prop where
  frames_perm : (order ++ (crew.workers.map Worker.left).flatten).Perm frames
  plane_eq : crew.plane = plane.observeAll handler order
  observations_perm : (recorded ++ crew.workers.filterMap Worker.unrecorded).Perm
    (plane.observations handler order)
  tally_eq : crew.tally = tally.observeAll recorded

theorem traces_start (handler : HandlerKind) (tally : Tally) (plane : Plane)
    (shares : List (List Frame)) :
    Traces handler tally plane shares.flatten [] [] (start tally plane shares) where
  frames_perm := by simp [start, Function.comp_def]
  plane_eq := rfl
  observations_perm := by simp [start, Plane.observations]
  tally_eq := rfl

theorem Traces.step {order : List Frame} {recorded : List Observation} {crew : Crew}
    (h : Traces handler tally plane frames order recorded crew) (turn : Nat) :
    ∃ order' recorded',
      Traces handler tally plane frames order' recorded' (crew.step handler turn) := by
  have hframes := h.frames_perm
  have hobservations := h.observations_perm
  rcases crew.step_cases handler turn with
    hstep | ⟨before, left, observation, rest, hworkers, hstep⟩ |
      ⟨before, frame, left, rest, hworkers, hstep⟩
  · rw [hstep]
    exact ⟨order, recorded, h⟩
  · -- the observation moves from the worker to the record
    refine ⟨order, recorded ++ [observation], ?_, ?_, ?_, ?_⟩
    · rw [hworkers] at hframes
      rw [hstep]
      simpa using hframes
    · rw [hstep]
      exact h.plane_eq
    · rw [hworkers, List.perm_iff_count] at hobservations
      rw [hstep, List.perm_iff_count]
      intro o
      have hcount := hobservations o
      simp only [List.filterMap_append, List.filterMap_cons, List.count_append, List.count_cons,
        List.count_nil] at hcount ⊢
      omega
    · rw [hstep, Tally.observeAll_append, ← h.tally_eq]
      rfl
  · -- the frame moves from the worker to the order, and its observation is to be recorded
    refine ⟨order ++ [frame], recorded, ?_, ?_, ?_, ?_⟩
    · rw [hworkers, List.perm_iff_count] at hframes
      rw [hstep, List.perm_iff_count]
      intro f
      have hcount := hframes f
      simp only [List.map_append, List.map_cons, List.flatten_append, List.flatten_cons,
        List.count_append, List.count_cons, List.count_nil] at hcount ⊢
      omega
    · rw [hstep, Plane.observeAll_append, ← h.plane_eq]
      rfl
    · rw [hworkers, List.perm_iff_count] at hobservations
      rw [hstep, List.perm_iff_count, Plane.observations_append, ← h.plane_eq]
      intro o
      have hcount := hobservations o
      simp only [List.filterMap_append, List.filterMap_cons, List.count_append, List.count_cons,
        List.count_nil, Plane.observations] at hcount ⊢
      omega
    · rw [hstep]
      exact h.tally_eq

theorem Traces.run {order : List Frame} {recorded : List Observation} {crew : Crew}
    (h : Traces handler tally plane frames order recorded crew) (schedule : List Nat) :
    ∃ order' recorded',
      Traces handler tally plane frames order' recorded' (crew.run handler schedule) := by
  induction schedule generalizing order recorded crew with
  | nil => exact ⟨order, recorded, h⟩
  | cons turn rest ih =>
    obtain ⟨_, _, hstep⟩ := h.step turn
    exact ih hstep

/-- Workers that are done have nothing left to observe or to record. -/
theorem nothing_left {crew : Crew} (h : crew.isDone) :
    (crew.workers.map Worker.left).flatten = [] ∧
      crew.workers.filterMap Worker.unrecorded = [] := by
  simp only [isDone, List.all_eq_true, Worker.isDone, Bool.and_eq_true, List.isEmpty_iff,
    Option.isNone_iff_eq_none] at h
  refine ⟨?_, List.filterMap_eq_nil_iff.2 fun worker hworker => (h worker hworker).2⟩
  rw [List.flatten_eq_nil_iff, List.forall_mem_map]
  exact fun worker hworker => (h worker hworker).1

end Crew

/-- A replay observes the frames in some order, and records what was observed in some order. -/
theorem Ends.exists_order (h : Ends handler frames tally plane tally' plane') :
    ∃ order recorded, order.Perm frames ∧ recorded.Perm (plane.observations handler order) ∧
      plane' = plane.observeAll handler order ∧ tally' = tally.observeAll recorded := by
  obtain ⟨shares, schedule, hshares, hdone, rfl, rfl⟩ := h
  obtain ⟨order, recorded, htraces⟩ :=
    (Crew.traces_start handler tally plane shares).run schedule
  obtain ⟨hleft, hunrecorded⟩ := Crew.nothing_left hdone
  have hframes := htraces.frames_perm
  have hobservations := htraces.observations_perm
  rw [hleft, List.append_nil] at hframes
  rw [hunrecorded, List.append_nil] at hobservations
  exact ⟨order, recorded, hframes.trans hshares, hobservations, htraces.plane_eq,
    htraces.tally_eq⟩

/-- A worker that is alone observes and records frame after frame. -/
theorem Crew.run_alone (handler : HandlerKind) (tally : Tally) (plane : Plane)
    (frames : List Frame) :
    ∃ schedule, (Crew.mk tally plane [⟨frames, none⟩]).run handler schedule =
      ⟨tally.observeAll (plane.observations handler frames), plane.observeAll handler frames,
        [⟨[], none⟩]⟩ := by
  induction frames generalizing tally plane with
  | nil => exact ⟨[], rfl⟩
  | cons frame rest ih =>
    obtain ⟨schedule, hrun⟩ := ih (tally.observe (plane.observe handler frame).1)
      (plane.observe handler frame).2
    exact ⟨0 :: 0 :: schedule, hrun⟩

/-- Every order of the frames is possible. -/
theorem ends_of_perm (handler : HandlerKind) (tally : Tally) (plane : Plane) {order : List Frame}
    (h : order.Perm frames) :
    Ends handler frames tally plane (tally.observeAll (plane.observations handler order))
      (plane.observeAll handler order) := by
  obtain ⟨schedule, hrun⟩ := Crew.run_alone handler tally plane order
  have hstart : Crew.start tally plane [order] = ⟨tally, plane, [⟨order, none⟩]⟩ := rfl
  refine ⟨[order], schedule, by simpa using h, ?_⟩
  rw [hstart, hrun]
  exact ⟨rfl, rfl, rfl⟩

/-! ### One worker after the other -/

theorem work_planeObserver (handler : HandlerKind) (frames : List Frame) (tally : Tally)
    (plane : Plane) : work (planeObserver handler) frames (tally, plane) =
      (none, tally.observeAll (plane.observations handler frames),
        plane.observeAll handler frames) := by
  induction frames generalizing tally plane with
  | nil => rfl
  | cons frame rest ih =>
    exact ih (tally.observe (plane.observe handler frame).1) (plane.observe handler frame).2

theorem workAll_planeObserver (handler : HandlerKind) (shares : List (List Frame))
    (tally : Tally) (plane : Plane) : workAll (planeObserver handler) shares (tally, plane) =
      (none, tally.observeAll (plane.observations handler shares.flatten),
        plane.observeAll handler shares.flatten) := by
  induction shares generalizing tally plane with
  | nil => rfl
  | cons frames rest ih =>
    rw [workAll, work_planeObserver, List.flatten_cons, Plane.observations_append,
      Tally.observeAll_append, Plane.observeAll_append]
    simp only [ih]
    rfl

section Shares

variable {α : Type}

/-- The first item goes to the worker whose turn it is, who then is the last in turn. -/
theorem flatten_map_everyNth_cons (stride : Nat) (a : α) (rest : List α) :
    ((List.range (stride + 1)).map fun i => everyNth (stride + 1) i (a :: rest)).flatten.Perm
      (a :: ((List.range (stride + 1)).map fun i => everyNth (stride + 1) i rest).flatten) := by
  rw [List.range_succ_eq_map, List.map_cons, List.flatten_cons, ← List.range_succ_eq_map,
    List.range_succ, List.map_append, List.flatten_append, List.map_map]
  refine List.Perm.cons a ?_
  simp only [List.map_cons, List.map_nil, List.flatten_cons, List.flatten_nil, List.append_nil]
  exact List.perm_append_comm

/-- Each item is in the share of one worker. -/
theorem flatten_shares_perm {workers : Nat} (h : 0 < workers) (items : List α) :
    (shares workers items).flatten.Perm items := by
  obtain ⟨stride, rfl⟩ := Nat.exists_eq_succ_of_ne_zero (Nat.ne_of_gt h)
  induction items with
  | nil =>
    have hnone : ∀ l ∈ shares (stride + 1) ([] : List α), l = [] := by
      simp [shares, share, everyNth]
    rw [Nat.succ_eq_add_one, List.flatten_eq_nil_iff.2 hnone]
  | cons a rest ih => exact (flatten_map_everyNth_cons stride a rest).trans (ih.cons a)

end Shares

theorem workerCount_pos (requested frames : Nat) : 0 < workerCount requested frames := by
  rw [workerCount]
  omega

/-- A replay through a handler that is deployed ends, on any number of workers. -/
theorem runHandler_ends (hlicense : License.isCompatible plane.license) (handler : HandlerKind)
    (requested : Nat) (frames : List Frame) (tally : Tally) :
    ∃ tally' plane', (runHandler plane handler requested frames tally).result =
        .ok (tally', plane') ∧ Ends handler frames tally plane tally' plane' := by
  have hperm := flatten_shares_perm (workerCount_pos requested frames.length) frames
  refine ⟨_, _, ?_, ends_of_perm handler tally plane hperm⟩
  rw [runHandler, Attempt.result_bind_of_ok (Plane.deploy_result hlicense _), run,
    Attempt.result_bind_of_ok (Attempt.result_note _ _ _), workAll_planeObserver]
  rfl

end Replay

end SourceTally
