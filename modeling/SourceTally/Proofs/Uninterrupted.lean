import Mathlib.Logic.Function.Iterate
import SourceTally.Proofs.Interleaving

/-!
# Calls with enough steps

A call never waits for another one. After a bounded number of steps of its own it has returned,
whatever happened in between, so a schedule that gives every call that many steps completes all of
them. If nothing happened in between, the steps together do what the operation of the table does at
once.

## Main definitions

* `Phase.remaining`: the most steps that a call can still make
* `Request.serve`: a request served at once
* `Call.alone`: steps of a call with nothing in between

## Main statements

* `System.isDone_run`: every call returns within `2 * N + 2` of its steps
* `System.run_replicate_start`: a call that is not interrupted does what the table's operation does
-/

namespace SourceTally.Atomic

variable {N : Nat} [HasSlots N]

/-! ### The number of steps -/

/-- The most steps that a call can still make. -/
def Phase.remaining : Phase N → Nat
  -- the slots still to be read, and then a claim from the first slot on
  | .probing left _ => left + 1 + (N + 2)
  | .claiming left _ => left + 3
  | .announcing _ => 2
  | .adding _ _ => 1
  | .returned _ _ => 0

theorem Phase.remaining_claim (key : UInt32) : (Phase.claim key : Phase N).remaining = N + 2 := by
  have hpos := HasSlots.pos (N := N)
  show N - 1 + 3 = N + 2
  omega

theorem Phase.remaining_afterMiss (policy : InsertPolicy) (key : UInt32) :
    (Phase.afterMiss policy key : Phase N).remaining ≤ N + 2 := by
  cases policy with
  | lookupOnly => exact Nat.zero_le _
  | lookupOrInsert => exact (Phase.remaining_claim key).le

omit [HasSlots N] in
theorem Phase.remaining_afterClaim (request : Request) (i : Fin N) (claimed : Bool) :
    (Phase.afterClaim request i claimed).remaining ≤ 1 := by
  cases request with
  | seed key => exact Nat.zero_le _
  | increment key => exact Nat.le_refl _

omit [HasSlots N] in
theorem Phase.remaining_afterFull (request : Request) :
    (Phase.afterFull request : Phase N).remaining = 0 := by
  cases request <;> rfl

theorem Phase.remaining_start (request : Request) :
    (Call.start N request).phase.remaining ≤ 2 * N + 2 := by
  have hpos := HasSlots.pos (N := N)
  cases request with
  | seed key =>
    show (Phase.claim key : Phase N).remaining ≤ 2 * N + 2
    rw [Phase.remaining_claim]
    omega
  | increment key =>
    show N - 1 + 1 + (N + 2) ≤ 2 * N + 2
    omega

/-- Each step of a call that has not returned leaves it with fewer steps. -/
theorem Moves.remaining_le {table table' : CountingTable N} {request : Request}
    {phase phase' : Phase N} (h : Moves table request phase table' phase') :
    phase'.remaining ≤ phase.remaining - 1 := by
  have hmiss := Phase.remaining_afterMiss (N := N) table.policy request.key
  cases h with
  | @probeEmpty left =>
    show _ ≤ left + 1 + (N + 2) - 1
    omega
  | @probeHit left =>
    show 1 ≤ left + 1 + (N + 2) - 1
    omega
  | @probeOther left =>
    show left + 1 + (N + 2) ≤ left + 1 + 1 + (N + 2) - 1
    omega
  | probeLast =>
    show _ ≤ 0 + 1 + (N + 2) - 1
    omega
  | @claimEmpty left =>
    show 2 ≤ left + 3 - 1
    omega
  | @claimHit left i =>
    have hclaim := Phase.remaining_afterClaim request i false
    show _ ≤ left + 3 - 1
    omega
  | claimOther => exact Nat.le_refl _
  | claimLast =>
    rw [Phase.remaining_afterFull]
    exact Nat.zero_le _
  | @announce i => exact Phase.remaining_afterClaim request i true
  | add => exact Nat.le_refl _
  | rest => exact Nat.le_refl _

omit [HasSlots N] in
theorem Call.hasReturned_of_remaining {call : Call N} (h : call.phase.remaining = 0) :
    call.hasReturned := by
  obtain ⟨request, phase⟩ := call
  cases phase with
  | returned answer obtained => rfl
  | probing left i => exact absurd h (Nat.succ_ne_zero _)
  | claiming left i => exact absurd h (Nat.succ_ne_zero _)
  | announcing i => exact absurd h (Nat.succ_ne_zero _)
  | adding i claimed => exact absurd h (Nat.succ_ne_zero _)

namespace System

/-- Steps of other calls leave a call where it is, and each of its own steps takes it further. -/
theorem remaining_run {s : System N} {turn : Nat} {call : Call N}
    (h : s.calls[turn]? = some call) (schedule : List Nat) :
    ∃ call', (s.run schedule).calls[turn]? = some call' ∧
      call'.phase.remaining ≤ call.phase.remaining - schedule.count turn := by
  let Known (taken : Nat) (_ : System N) (now : Call N) : Prop :=
    now.phase.remaining ≤ call.phase.remaining - taken
  have hstart : Known 0 s call := Nat.le_refl _
  have hown : ∀ s now taken, s.calls[turn]? = some now → Known taken s now →
      Known (taken + 1) (s.step turn) (now.step s.table).2 := by
    intro s now taken _ hle
    have hle : now.phase.remaining ≤ call.phase.remaining - taken := hle
    obtain ⟨table', phase', hstep, hmoves⟩ := now.step_moves s.table
    have hone := hmoves.remaining_le
    rw [hstep]
    show phase'.remaining ≤ call.phase.remaining - (taken + 1)
    omega
  have hrun := exists_part_run Call.step step (fun s => (s.table, s.calls)) (fun _ _ => rfl) Known
    hown (fun _ _ _ _ _ hle => hle) h hstart schedule
  rwa [Nat.zero_add] at hrun

/-- All calls have returned once each has had the steps that the longest call can need. -/
theorem isDone_run (policy : InsertPolicy) (requests : List Request) {schedule : List Nat}
    (h : ∀ turn < requests.length, 2 * N + 2 ≤ schedule.count turn) :
    ((start N policy requests).run schedule).isDone := by
  rw [isDone, List.all_eq_true]
  intro call hcall
  obtain ⟨turn, hturn⟩ := List.mem_iff_getElem?.1 hcall
  have hrequest := congrArg (·[turn]?) (map_request_run (start N policy requests) schedule)
  rw [map_request_start, List.getElem?_map, hturn] at hrequest
  obtain ⟨hlt, _⟩ := List.getElem?_eq_some_iff.1 hrequest.symm
  have hstart : (start N policy requests).calls[turn]? = some (Call.start N requests[turn]) := by
    rw [start, List.getElem?_map, List.getElem?_eq_getElem hlt]
    rfl
  obtain ⟨call', hcall', hle⟩ := remaining_run hstart schedule
  have hbound := Phase.remaining_start (N := N) requests[turn]
  have henough := h turn hlt
  obtain rfl := Option.some.inj (hturn.symm.trans hcall')
  exact Call.hasReturned_of_remaining (by omega)

end System

end SourceTally.Atomic

/-! ### Nothing in between -/

namespace SourceTally

variable {N : Nat}

theorem CountingTable.bump_put (table : CountingTable N) (i : Fin N) (key : UInt32) :
    (table.put i key 0).bump i = table.put i key 1 := by
  simp only [put, bump, get_set_slot, if_true, Vector.set_set]
  rfl

namespace Atomic

variable [HasSlots N]

/-- A request served at once. -/
def Request.serve (table : CountingTable N) : Request → Answer × CountingTable N
  | .seed key =>
    match table.seed key with
    | .ok table' => (.seeded, table')
    | .error _ => (.full, table)
  | .increment key =>
    let (result, table') := table.increment key
    (.counted result, table')

/-- Steps of a call with nothing in between. -/
def Call.alone (steps : Nat) (state : CountingTable N × Call N) : CountingTable N × Call N :=
  (fun state => state.2.step state.1)^[steps] state

namespace Call

theorem alone_succ (steps : Nat) (state : CountingTable N × Call N) :
    alone (steps + 1) state = alone steps (state.2.step state.1) := rfl

theorem alone_add (m n : Nat) (state : CountingTable N × Call N) :
    alone (m + n) state = alone n (alone m state) := by
  rw [Nat.add_comm]
  exact Function.iterate_add_apply _ n m state

theorem alone_returned (steps : Nat) (table : CountingTable N) (request : Request)
    (answer : Answer) (obtained : Option UInt64) :
    alone steps (table, ⟨request, .returned answer obtained⟩) =
      (table, ⟨request, .returned answer obtained⟩) := by
  induction steps with
  | zero => rfl
  | succ steps ih => exact ih

section Walk

/-! A call walks the slots twice in the same manner, first reading and then claiming. All it takes
is what one step of the walk does at an empty slot, at the key, and at another key. -/

variable {table : CountingTable N} {request : Request} (walk : Nat → Fin N → Phase N)
  (ends : Probe N → CountingTable N × Call N)
  (hempty : ∀ left i, (table.slots.get i).key = none →
    step table ⟨request, walk left i⟩ = ends (.vacant i))
  (hhit : ∀ left i, (table.slots.get i).key = some request.key →
    step table ⟨request, walk left i⟩ = ends (.found i))
  (hlast : ∀ i other, (table.slots.get i).key = some other → other ≠ request.key →
    step table ⟨request, walk 0 i⟩ = ends .exhausted)
  (hother : ∀ left i other, (table.slots.get i).key = some other → other ≠ request.key →
    step table ⟨request, walk (left + 1) i⟩ = (table, ⟨request, walk left (next i)⟩))

include hempty hhit hlast hother

theorem alone_walk (left : Nat) (i : Fin N) :
    ∃ steps ≤ left + 1, alone steps (table, ⟨request, walk left i⟩) =
      ends (CountingTable.probeFrom table.slots request.key (left + 1) i) := by
  induction left generalizing i with
  | zero =>
    refine ⟨1, Nat.le_refl _, ?_⟩
    rw [CountingTable.probeFrom]
    cases hslot : (table.slots.get i).key with
    | none => exact hempty 0 i hslot
    | some other =>
      by_cases heq : other = request.key
      · simp only [if_pos heq]
        exact hhit 0 i (heq ▸ hslot)
      · simp only [if_neg heq]
        exact hlast i other hslot heq
  | succ left ih =>
    rw [CountingTable.probeFrom]
    cases hslot : (table.slots.get i).key with
    | none => exact ⟨1, by omega, hempty (left + 1) i hslot⟩
    | some other =>
      by_cases heq : other = request.key
      · simp only [if_pos heq]
        exact ⟨1, by omega, hhit (left + 1) i (heq ▸ hslot)⟩
      · simp only [if_neg heq]
        obtain ⟨steps, hsteps, hend⟩ := ih (next i)
        refine ⟨steps + 1, by omega, ?_⟩
        rw [alone_succ, hother left i other hslot heq]
        exact hend

/-- The walk ends as the search for the key does. -/
theorem alone_walk_home :
    ∃ steps ≤ N, alone steps (table, ⟨request, walk (N - 1) (home N request.key)⟩) =
      ends (table.probe request.key) := by
  have hsum : N - 1 + 1 = N := Nat.sub_add_cancel (HasSlots.pos (N := N))
  obtain ⟨steps, hsteps, hend⟩ :=
    alone_walk walk ends hempty hhit hlast hother (N - 1) (home N request.key)
  rw [hsum] at hsteps hend
  exact ⟨steps, hsteps, hend⟩

end Walk

theorem alone_probing (table : CountingTable N) (request : Request) :
    ∃ steps ≤ N, alone steps (table, ⟨request, .probing (N - 1) (home N request.key)⟩) =
      match table.probe request.key with
        | .found j => (table, ⟨request, .adding j false⟩)
        | _ => (table, ⟨request, .afterMiss table.policy request.key⟩) := by
  refine alone_walk_home Phase.probing (fun
    | .found j => (table, ⟨request, .adding j false⟩)
    | _ => (table, ⟨request, .afterMiss table.policy request.key⟩)) ?_ ?_ ?_ ?_
  · intro left i hslot
    simp only [step, hslot]
  · intro left i hslot
    simp only [step, hslot, if_true]
  · intro i other hslot hne
    simp only [step, hslot, if_neg hne]
  · intro left i other hslot hne
    simp only [step, hslot, if_neg hne]

theorem alone_claiming (table : CountingTable N) (request : Request) :
    ∃ steps ≤ N, alone steps (table, ⟨request, .claim request.key⟩) =
      match table.probe request.key with
        | .found j => (table, ⟨request, .afterClaim request j false⟩)
        | .vacant j =>
          ({ table with
              slots := table.slots.set j ⟨some request.key, (table.slots.get j).count⟩ j.isLt },
            ⟨request, .announcing j⟩)
        | .exhausted => (table, ⟨request, .afterFull request⟩) := by
  refine alone_walk_home Phase.claiming (fun
    | .found j => (table, ⟨request, .afterClaim request j false⟩)
    | .vacant j =>
      ({ table with
          slots := table.slots.set j ⟨some request.key, (table.slots.get j).count⟩ j.isLt },
        ⟨request, .announcing j⟩)
    | .exhausted => (table, ⟨request, .afterFull request⟩)) ?_ ?_ ?_ ?_
  · intro left i hslot
    simp only [step, hslot]
  · intro left i hslot
    simp only [step, hslot, if_true]
  · intro i other hslot hne
    simp only [step, hslot, if_neg hne]
  · intro left i other hslot hne
    simp only [step, hslot, if_neg hne]

/-- A claim puts the key in with count zero, announced, unless it is there or there is no room. -/
theorem alone_claim {table : CountingTable N} (hplaced : Placed table.slots) (request : Request) :
    ∃ steps ≤ N + 1, alone steps (table, ⟨request, .claim request.key⟩) =
      match table.probe request.key with
        | .found j => (table, ⟨request, .afterClaim request j false⟩)
        | .vacant j => (table.put j request.key 0, ⟨request, .afterClaim request j true⟩)
        | .exhausted => (table, ⟨request, .afterFull request⟩) := by
  obtain ⟨steps, hsteps, hend⟩ := alone_claiming table request
  have hshows := table.probe_shows request.key
  cases hprobe : table.probe request.key with
  | found j =>
    rw [hprobe] at hend
    exact ⟨steps, by omega, hend⟩
  | vacant j =>
    rw [hprobe] at hend hshows
    obtain ⟨_, _, _, _, hempty⟩ := hshows
    dsimp only at hend
    -- an empty slot has counted nothing, and the claim leaves its counter alone
    rw [hplaced.zero j hempty] at hend
    refine ⟨steps + 1, by omega, ?_⟩
    rw [alone_add]
    exact congrArg (alone 1) hend
  | exhausted =>
    rw [hprobe] at hend
    exact ⟨steps, by omega, hend⟩

theorem alone_seed {table : CountingTable N} (hplaced : Placed table.slots) (key : UInt32) :
    ∃ steps ≤ 2 * N + 2, alone steps (table, start N (.seed key)) =
      ((Request.serve table (.seed key)).2,
        ⟨.seed key, .returned (Request.serve table (.seed key)).1 none⟩) := by
  obtain ⟨steps, hsteps, hend⟩ := alone_claim hplaced (.seed key)
  refine ⟨steps, by omega, hend.trans ?_⟩
  rw [Request.serve, CountingTable.seed, Request.key]
  cases table.probe key with
  | found j => rfl
  | vacant j => rfl
  | exhausted => rfl

theorem alone_increment {table : CountingTable N} (hplaced : Placed table.slots) (key : UInt32) :
    ∃ steps ≤ 2 * N + 2, ∃ obtained, alone steps (table, start N (.increment key)) =
      ((Request.serve table (.increment key)).2,
        ⟨.increment key, .returned (Request.serve table (.increment key)).1 obtained⟩) := by
  obtain ⟨read, hread, hmet⟩ := alone_probing table (.increment key)
  obtain ⟨tried, htried, hclaimed⟩ := alone_claim hplaced (.increment key)
  rw [Request.key] at hmet hclaimed
  rw [Request.serve, CountingTable.increment]
  cases hprobe : table.probe key with
  | found i =>
    rw [hprobe] at hmet
    refine ⟨read + 1, by omega, some ((table.slots.get i).count + 1), ?_⟩
    rw [alone_add]
    exact congrArg (alone 1) hmet
  | vacant i =>
    rw [hprobe] at hmet hclaimed
    cases hpolicy : table.policy with
    | lookupOnly =>
      rw [hpolicy] at hmet
      exact ⟨read, by omega, _, hmet⟩
    | lookupOrInsert =>
      rw [hpolicy] at hmet
      refine ⟨read + (tried + 1), by omega, some (((table.put i key 0).slots.get i).count + 1), ?_⟩
      have hclaim : alone (tried + 1) (table, ⟨.increment key, .claim key⟩) = _ :=
        (alone_add tried 1 _).trans (congrArg (alone 1) hclaimed)
      show _ = (table.put i key 1, _)
      rw [← CountingTable.bump_put]
      exact (alone_add read _ _).trans ((congrArg (alone (tried + 1)) hmet).trans hclaim)
  | exhausted =>
    rw [hprobe] at hmet hclaimed
    cases hpolicy : table.policy with
    | lookupOnly =>
      rw [hpolicy] at hmet
      exact ⟨read, by omega, _, hmet⟩
    | lookupOrInsert =>
      rw [hpolicy] at hmet
      refine ⟨read + tried, by omega, none, ?_⟩
      exact (alone_add read _ _).trans ((congrArg (alone tried) hmet).trans hclaimed)

end Call

namespace System

theorem run_replicate {s : System N} {turn : Nat} {call : Call N}
    (h : s.calls[turn]? = some call) (steps : Nat) :
    s.run (List.replicate steps turn) = ⟨(Call.alone steps (s.table, call)).1,
      s.calls.set turn (Call.alone steps (s.table, call)).2⟩ := by
  induction steps generalizing s call with
  | zero =>
    obtain ⟨hlt, rfl⟩ := List.getElem?_eq_some_iff.1 h
    show s = ⟨s.table, s.calls.set turn s.calls[turn]⟩
    rw [List.set_getElem_self]
  | succ steps ih =>
    obtain ⟨hlt, _⟩ := List.getElem?_eq_some_iff.1 h
    have hstep : s.step turn =
        ⟨(call.step s.table).1, s.calls.set turn (call.step s.table).2⟩ := by
      rw [step, takeTurn_of_some h]
    have hcall : (s.step turn).calls[turn]? = some (call.step s.table).2 := by
      rw [hstep]
      exact List.getElem?_set_self hlt
    show (s.step turn).run (List.replicate steps turn) = _
    rw [ih hcall, hstep, Call.alone_succ]
    simp only [List.set_set]

/-- A call that is not interrupted answers, and changes the table, as if it were served at once. -/
theorem run_replicate_start {s : System N} (hplaced : Placed s.table.slots) {turn : Nat}
    {request : Request} (h : s.calls[turn]? = some (Call.start N request)) {steps : Nat}
    (henough : 2 * N + 2 ≤ steps) :
    ∃ obtained, s.run (List.replicate steps turn) = ⟨(request.serve s.table).2,
      s.calls.set turn ⟨request, .returned (request.serve s.table).1 obtained⟩⟩ := by
  obtain ⟨needed, hneeded, obtained, hend⟩ : ∃ needed ≤ 2 * N + 2, ∃ obtained,
      Call.alone needed (s.table, Call.start N request) = ((request.serve s.table).2,
        ⟨request, .returned (request.serve s.table).1 obtained⟩) := by
    cases request with
    | seed key =>
      obtain ⟨needed, hneeded, hend⟩ := Call.alone_seed hplaced key
      exact ⟨needed, hneeded, none, hend⟩
    | increment key => exact Call.alone_increment hplaced key
  have hall : Call.alone steps (s.table, Call.start N request) = ((request.serve s.table).2,
      ⟨request, .returned (request.serve s.table).1 obtained⟩) := by
    rw [← Nat.add_sub_of_le (hneeded.trans henough), Call.alone_add, hend, Call.alone_returned]
  rw [run_replicate h, hall]
  exact ⟨obtained, rfl⟩

end System

end Atomic

end SourceTally
