import SourceTally.Proofs.ReplayCrew

/-!
# Sharing out frames among workers

Worker `i` of `w` gets the frames `i`, `i + w`, `i + 2 w` and so on, as far as there are any. These
shares are the classes of frame numbers modulo `w`, so together they hold each frame once, and they
are as even as they can be. A worker takes two turns for each frame of its share, whatever the other
workers do, and after these turns its share has been observed and recorded.

## Main definitions

* `Replay.Worker.turnsLeft`: how many turns a worker has left to take

## Main statements

* `Replay.getElem?_share`: which frames a worker gets
* `Replay.mem_share_range`: shares are the classes of numbers modulo the number of workers
* `Replay.Crew.isDone_run_iff`: workers are done when each has had two turns for each frame
* `Replay.shares_exact`: every frame is shared out, observed and recorded exactly once
-/

namespace SourceTally.Replay

/-! ### What is in a share -/

section Shares

variable {α : Type} {workers : Nat}

theorem getElem?_everyNth (hpos : 0 < workers) (offset k : Nat) (items : List α) :
    (everyNth workers offset items)[k]? = items[offset + k * workers]? := by
  -- the offset counts down to the next item that is taken
  induction items generalizing offset k with
  | nil => rfl
  | cons a rest ih =>
    cases offset with
    | zero =>
      cases k with
      | zero => simp [everyNth]
      | succ k =>
        have hnext : 0 + (k + 1) * workers = workers - 1 + k * workers + 1 := by
          rw [Nat.succ_mul]
          omega
        rw [everyNth, List.getElem?_cons_succ, ih, hnext, List.getElem?_cons_succ]
    | succ offset =>
      have hnext : offset + 1 + k * workers = offset + k * workers + 1 := by omega
      rw [everyNth, ih, hnext, List.getElem?_cons_succ]

/-- The items of worker `i` are number `i` and every further one at a distance of `workers`. -/
theorem getElem?_share (hpos : 0 < workers) (items : List α) (i k : Nat) :
    (share workers items i)[k]? = items[i + k * workers]? :=
  getElem?_everyNth hpos i k items

theorem getElem?_share_range (hpos : 0 < workers) (n i k : Nat) :
    (share workers (List.range n) i)[k]? =
      if i + k * workers < n then some (i + k * workers) else none := by
  rw [getElem?_share hpos]
  split
  · next hlt => exact List.getElem?_range hlt
  · next hge => exact List.getElem?_eq_none (by simpa using hge)

theorem mem_share_range {n i j : Nat} (hi : i < workers) :
    j ∈ share workers (List.range n) i ↔ j < n ∧ j % workers = i := by
  have hpos : 0 < workers := Nat.zero_lt_of_lt hi
  rw [List.mem_iff_getElem?]
  constructor
  · rintro ⟨k, hk⟩
    rw [getElem?_share_range hpos] at hk
    split at hk
    · next hlt =>
      obtain rfl := Option.some.inj hk
      exact ⟨hlt, by rw [Nat.add_mul_mod_self_right, Nat.mod_eq_of_lt hi]⟩
    · cases hk
  · rintro ⟨hlt, hclass⟩
    have hj : i + j / workers * workers = j := by
      rw [← hclass, Nat.mul_comm]
      exact Nat.mod_add_div j workers
    exact ⟨j / workers, by rw [getElem?_share_range hpos, hj, if_pos hlt]⟩

/-- A share has more than `k` items if there is an item for its place `k`. -/
theorem lt_length_share (hpos : 0 < workers) {items : List α} {i k : Nat} :
    k < (share workers items i).length ↔ i + k * workers < items.length := by
  have hplace := getElem?_share hpos items i k
  rw [← Nat.not_le, ← Nat.not_le, ← List.getElem?_eq_none_iff, ← List.getElem?_eq_none_iff, hplace]

/-- Shares are even: none has two items more than another. -/
theorem length_share_le (items : List α) {i j : Nat} (hi : i < workers) (hj : j < workers) :
    (share workers items i).length ≤ (share workers items j).length + 1 := by
  have hpos : 0 < workers := Nat.zero_lt_of_lt hi
  by_contra hlong
  have hlast := (lt_length_share hpos).1 (Nat.lt_of_not_le hlong)
  -- the next to last item of the long share comes after one that the short share would have
  have hshort : ¬ j + (share workers items j).length * workers < items.length := fun hlt =>
    Nat.lt_irrefl _ ((lt_length_share hpos).2 hlt)
  rw [Nat.succ_mul] at hlast
  omega

theorem share_ne_nil {items : List α} {i : Nat} (hpos : 0 < workers) (hi : i < items.length) :
    share workers items i ≠ [] := by
  have hlength : 0 < (share workers items i).length := by
    rw [lt_length_share hpos]
    omega
  exact List.ne_nil_of_length_pos hlength

end Shares

/-! ### Turns of workers -/

/-- A worker takes one turn to observe a frame and one to record what was observed. -/
def Worker.turnsLeft (worker : Worker) : Nat :=
  2 * worker.left.length + if worker.unrecorded.isSome then 1 else 0

theorem Worker.isDone_iff {worker : Worker} : worker.isDone ↔ worker.turnsLeft = 0 := by
  obtain ⟨left, unrecorded⟩ := worker
  cases unrecorded with
  | none => simp [isDone, turnsLeft]
  | some observation => simp [isDone, turnsLeft]

/-- A turn takes its worker one turn further. -/
theorem Worker.turnsLeft_act (handler : HandlerKind) (shared : Tally × Plane) (worker : Worker) :
    (worker.act handler shared).2.turnsLeft = worker.turnsLeft - 1 := by
  obtain ⟨left, unrecorded⟩ := worker
  cases unrecorded with
  | some observation => rfl
  | none =>
    cases left with
    | cons frame left =>
      show 2 * left.length + 1 = 2 * (left.length + 1) + 0 - 1
      omega
    | nil => rfl

namespace Crew

variable (handler : HandlerKind)

/-- Turns of other workers leave a worker where it is, and each of its own takes it further. -/
theorem turnsLeft_run {crew : Crew} {i : Nat} {worker : Worker}
    (h : crew.workers[i]? = some worker) (schedule : List Nat) :
    ∃ worker', (crew.run handler schedule).workers[i]? = some worker' ∧
      worker'.turnsLeft = worker.turnsLeft - schedule.count i := by
  let Known (taken : Nat) (_ : Crew) (now : Worker) : Prop :=
    now.turnsLeft = worker.turnsLeft - taken
  have hstart : Known 0 crew worker := rfl
  have hown : ∀ crew now taken, crew.workers[i]? = some now → Known taken crew now →
      Known (taken + 1) (crew.step handler i)
        (now.act handler (crew.tally, crew.plane)).2 := by
    intro crew now taken _ heq
    exact (now.turnsLeft_act handler _).trans (by rw [heq, Nat.sub_sub])
  have hrun := exists_part_run (Worker.act handler) (step handler)
    (fun crew => ((crew.tally, crew.plane), crew.workers)) (fun _ _ => rfl) Known hown
    (fun _ _ _ _ _ heq => heq) h hstart schedule
  rwa [Nat.zero_add] at hrun

theorem length_workers_run (crew : Crew) (schedule : List Nat) :
    (crew.run handler schedule).workers.length = crew.workers.length := by
  induction schedule generalizing crew with
  | nil => rfl
  | cons turn rest ih =>
    exact (ih (crew.step handler turn)).trans (length_takeTurn (Worker.act handler) _ turn)

/-- The workers are done exactly when each has had two turns for each frame of its share. -/
theorem isDone_run_iff (tally : Tally) (plane : Plane) (shares : List (List Frame))
    (schedule : List Nat) : ((start tally plane shares).run handler schedule).isDone ↔
      ∀ i frames, shares[i]? = some frames → 2 * frames.length ≤ schedule.count i := by
  -- worker `i` starts with its share and nothing to record
  have hturns : ∀ i frames, shares[i]? = some frames →
      ∃ worker, ((start tally plane shares).run handler schedule).workers[i]? = some worker ∧
        worker.turnsLeft = 2 * frames.length - schedule.count i := by
    intro i frames hframes
    have hworker : (start tally plane shares).workers[i]? = some ⟨frames, none⟩ := by
      rw [start, List.getElem?_map, hframes]
      rfl
    exact turnsLeft_run handler hworker schedule
  simp only [isDone, List.all_eq_true, Worker.isDone_iff, List.mem_iff_getElem?]
  constructor
  · intro hdone i frames hframes
    obtain ⟨worker, hworker, hleft⟩ := hturns i frames hframes
    have hzero := hdone worker ⟨i, hworker⟩
    omega
  · rintro hcount worker ⟨i, hworker⟩
    have hi : i < shares.length := by
      have hlt := (List.getElem?_eq_some_iff.1 hworker).1
      rwa [length_workers_run, start, List.length_map] at hlt
    obtain ⟨worker', hworker', hleft⟩ := hturns i shares[i] (List.getElem?_eq_getElem hi)
    have henough := hcount i shares[i] (List.getElem?_eq_getElem hi)
    obtain rfl := Option.some.inj (hworker.symm.trans hworker')
    omega

end Crew

/-! ### Replays -/

theorem getElem?_shares {α : Type} (workers : Nat) (items : List α) {i : Nat} (hi : i < workers) :
    (shares workers items)[i]? = some (share workers items i) := by
  rw [shares, List.getElem?_map, List.getElem?_range hi]
  rfl

theorem workerCount_le {frames : Nat} (requested : Nat) (h : 0 < frames) :
    workerCount requested frames ≤ frames := by
  rw [workerCount]
  omega

/-- A replay that lets one worker after the other run observes and records all shares. -/
theorem run_planeObserver (name : String) (handler : HandlerKind) (requested : Nat)
    (frames : List Frame) (tally : Tally) (plane : Plane) :
    (run name (planeObserver handler) requested frames tally plane).result =
      let order := (shares (workerCount requested frames.length) frames).flatten
      .ok (tally.observeAll (plane.observations handler order),
        plane.observeAll handler order) := by
  rw [run, Attempt.result_bind_of_ok (Attempt.result_note _ _ _), workAll_planeObserver]
  rfl

/-- For every number of frames and of requested workers there is at least one worker, and worker `i`
gets the numbers `i`, `i + workers`, `i + 2 * workers` and so on, below the number of frames. These
lists are a partition of all numbers of frames; none of them is empty if there are frames at all,
and none is longer than another by more than one. So all shares together are the frames, each once,
and however the workers take turns, when each has had two for each of its frames the plane has
observed all frames in some order, and the tally has recorded each observation once. -/
theorem shares_exact (requested n : Nat) :
    1 ≤ workerCount requested n ∧ workerCount requested n = min (max requested 1) (max n 1) ∧
    let workers := workerCount requested n
    let numbers := share workers (List.range n)
    (∀ i < workers, ∀ k, (numbers i)[k]? =
      if i + k * workers < n then some (i + k * workers) else none) ∧
    ((List.range workers).map numbers).flatten.Perm (List.range n) ∧
    (∀ j < n, ∃! i, i < workers ∧ j ∈ numbers i) ∧
    (0 < n → ∀ i < workers, numbers i ≠ []) ∧
    (∀ i < workers, ∀ j < workers, (numbers i).length ≤ (numbers j).length + 1) ∧
    ∀ frames : List Frame, frames.length = n →
      (∀ i < workers, ∀ k, (share workers frames i)[k]? = frames[i + k * workers]?) ∧
      (shares workers frames).flatten.Perm frames ∧
      ∀ (handler : HandlerKind) (tally : Tally) (plane : Plane),
        (∀ name, (run name (planeObserver handler) requested frames tally plane).result =
          let order := (shares workers frames).flatten
          .ok (tally.observeAll (plane.observations handler order),
            plane.observeAll handler order)) ∧
        ∀ schedule : List Nat,
          let crew := (Crew.start tally plane (shares workers frames)).run handler schedule
          (crew.isDone ↔ ∀ i < workers, 2 * (share workers frames i).length ≤ schedule.count i) ∧
          (crew.isDone → ∃ order recorded, order.Perm frames ∧
            recorded.Perm (plane.observations handler order) ∧
            crew.plane = plane.observeAll handler order ∧
            crew.tally = tally.observeAll recorded) := by
  have hpos : 0 < workerCount requested n := workerCount_pos requested n
  refine ⟨hpos, rfl, ?_⟩
  intro workers numbers
  refine ⟨fun i _ k => getElem?_share_range hpos n i k, flatten_shares_perm hpos (List.range n),
    ?_, ?_, fun i hi j hj => length_share_le _ hi hj, ?_⟩
  · intro j hj
    refine ⟨j % workers, ⟨Nat.mod_lt j hpos, ?_⟩, ?_⟩
    · exact (mem_share_range (Nat.mod_lt j hpos)).2 ⟨hj, rfl⟩
    · rintro i ⟨hi, hmem⟩
      exact ((mem_share_range hi).1 hmem).2.symm
  · intro hsome i hi
    refine share_ne_nil hpos ?_
    rw [List.length_range]
    exact Nat.lt_of_lt_of_le hi (workerCount_le requested hsome)
  · rintro frames rfl
    have hperm := flatten_shares_perm hpos frames
    refine ⟨fun i _ k => getElem?_share hpos frames i k, hperm, fun handler tally plane => ?_⟩
    refine ⟨fun name => run_planeObserver name handler requested frames tally plane, ?_⟩
    intro schedule crew
    constructor
    · rw [Crew.isDone_run_iff]
      constructor
      · intro hturns i hi
        exact hturns i _ (getElem?_shares workers frames hi)
      · intro hturns i items hitems
        have hi : i < workers := by
          have hlt := (List.getElem?_eq_some_iff.1 hitems).1
          rwa [shares, List.length_map, List.length_range] at hlt
        obtain rfl := Option.some.inj ((getElem?_shares workers frames hi).symm.trans hitems)
        exact hturns i hi
    · intro hdone
      exact Ends.exists_order ⟨shares workers frames, schedule, hperm, hdone, rfl, rfl⟩

example : shares (workerCount 3 7) (List.range 7) = [[0, 3, 6], [1, 4], [2, 5]] := by decide

end SourceTally.Replay
