import Mathlib.Algebra.Group.Nat.Defs
import Mathlib.Data.List.Basic
import Mathlib.Data.List.Induction
import SourceTally.Kernel.Atomic
import SourceTally.Kernel.Programs
import SourceTally.Proofs.KernelMap
import SourceTally.Proofs.Turns

/-!
# The kernel loses no count

Runs of the source counter on several processors look their keys up, insert them and add to their
counts in separate steps, and other runs may come between any two of them. Keys are never deleted, a
map that is full stays as it is, and counts only go up, so what a run has learned stays true. Every
run that adds is in the count of its key, and a key is inserted by one run at most.

## Main definitions

* `Moves`: what one step of a run does to the map and to the run
* `Keeps`: what no step takes away from a map
* `Phase.Fits`: what a run has learned is true of the map
* `System.Counted`: the invariant of a map with runs on it

## Main statements

* `System.Counted.step`, `System.Counted.run`: every step keeps the invariant
* `System.added_at`: the moment at which a run added to the count of its key
* `System.run_loses_no_count`: what the answers and the counts say when the runs have returned
* `System.run_alone`: the steps of a single run make up the source counter
-/

namespace SourceTally.Kernel.Atomic

theorem toNat_count_succ {count : UInt64} (h : count.toNat + 1 < 2 ^ 64) :
    (count + 1).toNat = count.toNat + 1 := by
  rw [UInt64.toNat_add]
  exact Nat.mod_eq_of_lt h

variable {limit : Nat}

/-- What one step of a run that counts a key does. -/
inductive Moves (policy : InsertPolicy) (map : BoundedMap limit) (key : UInt32) :
    Phase → BoundedMap limit → Phase → Prop where
  | find {count : UInt64} (hget : map.get? key = some count) :
    Moves policy map key .lookingUp map .adding
  | giveUp (hget : map.get? key = none) (hpolicy : policy = .lookupOnly) :
    Moves policy map key .lookingUp map (.returned .notFound none)
  | miss (hget : map.get? key = none) (hpolicy : policy = .lookupOrInsert) :
    Moves policy map key .lookingUp map .inserting
  | insert (hget : map.get? key = none) (hroom : map.size < limit) :
    Moves policy map key .inserting (map.put key 1) (.returned .inserted none)
  | overtaken {count : UInt64} (hget : map.get? key = some count) :
    Moves policy map key .inserting map .retrying
  | crowdedOut (hget : map.get? key = none) (hfull : ¬ map.size < limit) :
    Moves policy map key .inserting map .retrying
  | findAgain {count : UInt64} (hget : map.get? key = some count) :
    Moves policy map key .retrying map .adding
  | missAgain (hget : map.get? key = none) :
    Moves policy map key .retrying map (.returned .notFound none)
  | add : Moves policy map key .adding (map.put key ((map.get? key).getD 0 + 1))
      (.loading ((map.get? key).getD 0))
  | load {before : UInt64} : Moves policy map key (.loading before) map
      (.returned (.updated ((map.get? key).getD 0)) (some before))
  | rest {result : Increment} {before : Option UInt64} :
    Moves policy map key (.returned result before) map (.returned result before)

theorem Call.step_moves (policy : InsertPolicy) (map : BoundedMap limit) (call : Call) :
    ∃ map' phase', call.step policy map = (map', ⟨call.key, phase'⟩) ∧
      Moves policy map call.key call.phase map' phase' := by
  obtain ⟨key, phase⟩ := call
  cases phase with
  | lookingUp =>
    cases hget : map.get? key with
    | some count => exact ⟨_, _, by simp only [step, hget], .find hget⟩
    | none =>
      cases policy with
      | lookupOnly => exact ⟨_, _, by simp only [step, hget], .giveUp hget rfl⟩
      | lookupOrInsert => exact ⟨_, _, by simp only [step, hget], .miss hget rfl⟩
  | inserting =>
    cases hget : map.get? key with
    | some count =>
      have hinsert := BoundedMap.insertNew?_of_some hget 1
      exact ⟨_, _, by simp only [step, hinsert], .overtaken hget⟩
    | none =>
      by_cases hroom : map.size < limit
      · have hinsert := BoundedMap.insertNew?_of_room hget hroom 1
        exact ⟨_, _, by simp only [step, hinsert], .insert hget hroom⟩
      · have hinsert := BoundedMap.insertNew?_of_full hget hroom 1
        exact ⟨_, _, by simp only [step, hinsert], .crowdedOut hget hroom⟩
  | retrying =>
    cases hget : map.get? key with
    | some count => exact ⟨_, _, by simp only [step, hget], .findAgain hget⟩
    | none => exact ⟨_, _, by simp only [step, hget], .missAgain hget⟩
  | adding => exact ⟨_, _, rfl, .add⟩
  | loading before => exact ⟨_, _, rfl, .load⟩
  | returned result before => exact ⟨_, _, rfl, .rest⟩

/-! ### What a run knows -/

/-- No key is deleted, no count goes down, and no key comes in if none may or the map is full. -/
structure Keeps (policy : InsertPolicy) (old new : BoundedMap limit) : Prop where
  count_le : ∀ (key : UInt32) (count : UInt64), old.get? key = some count →
    ∃ later, new.get? key = some later ∧ count.toNat ≤ later.toNat
  size_le : old.size ≤ new.size
  absent : ∀ key : UInt32, old.get? key = none → policy = .lookupOnly ∨ old.size = limit →
    new.get? key = none

theorem Keeps.refl (policy : InsertPolicy) (map : BoundedMap limit) : Keeps policy map map where
  count_le _ count hget := ⟨count, hget, Nat.le_refl _⟩
  size_le := Nat.le_refl _
  absent _ hget _ := hget

/-- What a run has learned is true of the map. Only a run that may insert gets as far as that, and
one that was refused either has its key in the map by now or has met a full map. -/
def Phase.Fits (policy : InsertPolicy) (map : BoundedMap limit) (key : UInt32) : Phase → Prop
  | .lookingUp => True
  | .inserting => policy = .lookupOrInsert
  | .retrying => map.get? key = none → map.size = limit
  | .adding => ∃ count, map.get? key = some count
  | .loading before => ∃ count, map.get? key = some count ∧ before.toNat + 1 ≤ count.toNat
  | .returned (.updated value) before => ∃ b count, before = some b ∧ map.get? key = some count ∧
      b.toNat + 1 ≤ value.toNat ∧ value.toNat ≤ count.toNat
  | .returned .inserted before => before = none ∧ ∃ count, map.get? key = some count
  | .returned .notFound before =>
    before = none ∧ map.get? key = none ∧ (policy = .lookupOnly ∨ map.size = limit)

namespace Phase.Fits

variable {policy : InsertPolicy} {map map' : BoundedMap limit} {key : UInt32}
  {phase phase' : Phase}

/-- What a run has learned stays true whatever the other runs do. -/
theorem mono (h : phase.Fits policy map key) (hkeeps : Keeps policy map map') :
    phase.Fits policy map' key := by
  have hsize := hkeeps.size_le
  have hbound : map'.size ≤ limit := map'.bounded
  have hpresent : (∃ count, map.get? key = some count) → ∃ count, map'.get? key = some count := by
    rintro ⟨count, hget⟩
    obtain ⟨later, hlater, _⟩ := hkeeps.count_le key count hget
    exact ⟨later, hlater⟩
  cases phase with
  | lookingUp => exact trivial
  | inserting => exact h
  | retrying =>
    intro hget
    -- a key that is absent now was absent before, and so the map was full
    have habsent : map.get? key = none := by
      cases hold : map.get? key with
      | none => rfl
      | some count =>
        obtain ⟨later, hlater⟩ := hpresent ⟨count, hold⟩
        exact absurd (hlater.symm.trans hget) (Option.some_ne_none later)
    have hfull := h habsent
    omega
  | adding => exact hpresent h
  | loading before =>
    obtain ⟨count, hget, hle⟩ := h
    obtain ⟨later, hlater, hmore⟩ := hkeeps.count_le key count hget
    exact ⟨later, hlater, by omega⟩
  | returned result before =>
    cases result with
    | updated value =>
      obtain ⟨b, count, hbefore, hget, hlow, hhigh⟩ := h
      obtain ⟨later, hlater, hmore⟩ := hkeeps.count_le key count hget
      exact ⟨b, later, hbefore, hlater, hlow, by omega⟩
    | inserted => exact ⟨h.1, hpresent h.2⟩
    | notFound =>
      obtain ⟨hbefore, hget, hwhy⟩ := h
      refine ⟨hbefore, hkeeps.absent key hget hwhy, ?_⟩
      rcases hwhy with hpolicy | hfull
      · exact .inl hpolicy
      · exact .inr (by omega)

/-- A run learns something true by its own step. -/
theorem step (h : phase.Fits policy map key) (hmoves : Moves policy map key phase map' phase')
    (hfew : phase = .adding → ((map.get? key).getD 0).toNat + 1 < 2 ^ 64) :
    phase'.Fits policy map' key := by
  cases hmoves with
  | @find count hget => exact ⟨count, hget⟩
  | giveUp hget hpolicy => exact ⟨rfl, hget, .inl hpolicy⟩
  | miss hget hpolicy => exact hpolicy
  | insert hget hroom =>
    exact ⟨rfl, 1, BoundedMap.get?_put_self (BoundedMap.takes_of_room hroom key) 1⟩
  | @overtaken count hget =>
    exact fun hnone => absurd (hget.symm.trans hnone) (Option.some_ne_none count)
  | crowdedOut hget hfull =>
    have hbound : map.size ≤ limit := map.bounded
    exact fun _ => by omega
  | @findAgain count hget => exact ⟨count, hget⟩
  | missAgain hget => exact ⟨rfl, hget, .inr (h hget)⟩
  | add =>
    obtain ⟨count, hget⟩ := h
    refine ⟨(map.get? key).getD 0 + 1, ?_, ?_⟩
    · exact BoundedMap.get?_put_self (BoundedMap.takes_of_some hget) _
    · exact Nat.le_of_eq (toNat_count_succ (hfew rfl)).symm
  | @load before =>
    obtain ⟨count, hget, hle⟩ := h
    refine ⟨before, count, rfl, hget, ?_, ?_⟩
    · rw [hget]
      exact hle
    · rw [hget]
      exact Nat.le_refl _
  | rest => exact h

end Phase.Fits

/-! ### The map under one step -/

/-- Whether a run has added to the count of a key, even if it has not yet answered. -/
def Call.hasAdded (key : UInt32) (call : Call) : Bool :=
  call.key = key &&
    match call.phase with
    | .loading _ => true
    | .returned result _ => result ≠ .notFound
    | _ => false

namespace Moves

variable {policy : InsertPolicy} {map map' : BoundedMap limit} {key : UInt32}
  {phase phase' : Phase}

theorem keeps (hmoves : Moves policy map key phase map' phase')
    (hfits : phase.Fits policy map key)
    (hfew : phase = .adding → ((map.get? key).getD 0).toNat + 1 < 2 ^ 64) :
    Keeps policy map map' := by
  cases hmoves with
  | insert hget hroom =>
    refine ⟨fun k count hk => ⟨count, ?_, Nat.le_refl _⟩, ?_, fun k hk hwhy => ?_⟩
    · have hne : k ≠ key := by
        rintro rfl
        exact Option.some_ne_none count (hk.symm.trans hget)
      rw [BoundedMap.get?_put_of_ne hne]
      exact hk
    · rw [BoundedMap.size_put_of_none hget hroom]
      exact Nat.le_succ _
    · -- a run inserts only if it may, and only while there is room
      rcases hwhy with hpolicy | hfull
      · exact absurd (hpolicy.symm.trans hfits) (by decide)
      · exact absurd hfull (Nat.ne_of_lt hroom)
  | add =>
    obtain ⟨old, hold⟩ := hfits
    have hroom := hfew rfl
    rw [hold, Option.getD_some] at hroom ⊢
    refine ⟨fun k count hk => ?_, ?_, fun k hk _ => ?_⟩
    · rw [BoundedMap.get?_put (BoundedMap.takes_of_some hold)]
      by_cases hkey : k = key
      · subst hkey
        obtain rfl : count = old := Option.some.inj (hk.symm.trans hold)
        refine ⟨count + 1, if_pos rfl, ?_⟩
        rw [toNat_count_succ hroom]
        exact Nat.le_succ _
      · exact ⟨count, (if_neg hkey).trans hk, Nat.le_refl _⟩
    · exact Nat.le_of_eq (BoundedMap.size_put_of_some hold _).symm
    · have hne : k ≠ key := by
        rintro rfl
        exact Option.some_ne_none old (hold.symm.trans hk)
      rw [BoundedMap.get?_put_of_ne hne]
      exact hk
  | _ => exact Keeps.refl policy map

/-- The count of a key goes up with the number of runs that have added to it. -/
theorem count_add (hmoves : Moves policy map key phase map' phase')
    (hfits : phase.Fits policy map key)
    (hfew : phase = .adding → ((map.get? key).getD 0).toNat + 1 < 2 ^ 64) (k : UInt32) :
    ((map'.get? k).getD 0).toNat + (if (Call.mk key phase).hasAdded k then 1 else 0) =
      ((map.get? k).getD 0).toNat + if (Call.mk key phase').hasAdded k then 1 else 0 := by
  by_cases hkey : key = k
  · subst hkey
    cases hmoves with
    | insert hget hroom =>
      have hself := BoundedMap.get?_put_self (BoundedMap.takes_of_room hroom key) 1
      simp [Call.hasAdded, hself, hget]
    | add =>
      obtain ⟨count, hget⟩ := hfits
      rw [BoundedMap.get?_put_self (BoundedMap.takes_of_some hget), Option.getD_some,
        toNat_count_succ (hfew rfl)]
      simp [Call.hasAdded]
    | _ => simp [Call.hasAdded]
  · -- a run touches the count of no other key
    have hother : (map'.get? k).getD 0 = (map.get? k).getD 0 := by
      cases hmoves with
      | insert => rw [BoundedMap.get?_put_of_ne (Ne.symm hkey)]
      | add => rw [BoundedMap.get?_put_of_ne (Ne.symm hkey)]
      | _ => rfl
    simp [Call.hasAdded, hkey, hother]

/-- A key comes into the map with the run that inserts it. -/
theorem inserted_add (hmoves : Moves policy map key phase map' phase')
    (hfits : phase.Fits policy map key) (k : UInt32) :
    (if (map'.get? k).isSome then 1 else 0) +
        (if (Call.mk key phase).hasInserted k then 1 else 0) =
      (if (map.get? k).isSome then 1 else 0) +
        if (Call.mk key phase').hasInserted k then 1 else 0 := by
  by_cases hkey : key = k
  · subst hkey
    cases hmoves with
    | insert hget hroom =>
      have hself := BoundedMap.get?_put_self (BoundedMap.takes_of_room hroom key) 1
      simp [Call.hasInserted, Call.result?, hself, hget]
    | add =>
      obtain ⟨old, hold⟩ := hfits
      have hself := BoundedMap.get?_put_self (BoundedMap.takes_of_some hold)
      simp [Call.hasInserted, Call.result?, hself, hold]
    | _ => simp [Call.hasInserted, Call.result?]
  · have hother : (map'.get? k).isSome = (map.get? k).isSome := by
      cases hmoves with
      | insert => rw [BoundedMap.get?_put_of_ne (Ne.symm hkey)]
      | add => rw [BoundedMap.get?_put_of_ne (Ne.symm hkey)]
      | _ => rfl
    simp [Call.hasInserted, hkey, hother]

end Moves

namespace System

/-- One step of a system: nothing, or a step of one of its runs. -/
theorem step_cases (s : System limit) (turn : Nat) :
    (s.calls[turn]? = none ∧ s.step turn = s) ∨
    ∃ before key phase rest map' phase', before.length = turn ∧
      s.calls = before ++ ⟨key, phase⟩ :: rest ∧
      Moves s.policy s.map key phase map' phase' ∧
      s.step turn = ⟨s.policy, map', before ++ ⟨key, phase'⟩ :: rest⟩ := by
  rcases takeTurn_cases (Call.step s.policy) (s.map, s.calls) turn with
    ⟨hnone, hturn⟩ | ⟨before, call, rest, hlength, hcalls, hturn⟩
  · exact .inl ⟨hnone, by rw [step, hturn]⟩
  · obtain ⟨map', phase', hstep, hmoves⟩ := call.step_moves s.policy s.map
    refine .inr ⟨before, call.key, call.phase, rest, map', phase', hlength, hcalls, hmoves, ?_⟩
    rw [step, hturn]
    simp only [hstep]

/-- What every run has learned is true, the count of a key is the number of runs
that have added to it, and a key that was not there at the start has been inserted by one run. -/
structure Counted (initial : BoundedMap limit) (s : System limit) : Prop where
  fits : ∀ call ∈ s.calls, call.phase.Fits s.policy s.map call.key
  count_eq : ∀ key, ((s.map.get? key).getD 0).toNat = s.calls.countP (Call.hasAdded key)
  inserted_add : ∀ key, s.calls.countP (Call.hasInserted key) +
    (if (initial.get? key).isSome then 1 else 0) = if (s.map.get? key).isSome then 1 else 0

theorem counted_start (policy : InsertPolicy) {map : BoundedMap limit}
    (hzero : ∀ key count, map.get? key = some count → count = 0) (keys : List UInt32) :
    (start policy map keys).Counted map where
  fits call hcall := by
    obtain ⟨key, _, rfl⟩ := List.mem_map.1 hcall
    exact trivial
  count_eq key := by
    have hnone : (start policy map keys).calls.countP (Call.hasAdded key) = 0 := by
      rw [List.countP_eq_zero]
      intro call hcall
      obtain ⟨_, _, rfl⟩ := List.mem_map.1 hcall
      simp [Call.hasAdded]
    have hcount : (map.get? key).getD 0 = 0 := by
      cases hget : map.get? key with
      | none => rfl
      | some count => exact hzero key count hget
    rw [hnone]
    exact congrArg UInt64.toNat hcount
  inserted_add key := by
    have hnone : (start policy map keys).calls.countP (Call.hasInserted key) = 0 := by
      rw [List.countP_eq_zero]
      intro call hcall
      obtain ⟨_, _, rfl⟩ := List.mem_map.1 hcall
      simp [Call.hasInserted, Call.result?]
    rw [hnone, Nat.zero_add]
    rfl

/-- One step of any run keeps the invariant, as long as no count can go round. -/
theorem Counted.step {initial : BoundedMap limit} {s : System limit} (h : s.Counted initial)
    (hfew : s.calls.length < 2 ^ 64) (turn : Nat) : (s.step turn).Counted initial := by
  rcases s.step_cases turn with ⟨_, hstep⟩ | ⟨before, key, phase, rest, map', phase', _, hcalls,
    hmoves, hstep⟩
  · rwa [hstep]
  · have hmem : ⟨key, phase⟩ ∈ s.calls := by simp [hcalls]
    have hfits := h.fits _ hmem
    -- a run that is about to add is not among those that have added, so there is room for it
    have hroom : phase = .adding → ((s.map.get? key).getD 0).toNat + 1 < 2 ^ 64 := by
      rintro rfl
      have hbefore := List.countP_le_length (p := Call.hasAdded key) (l := before)
      have hrest := List.countP_le_length (p := Call.hasAdded key) (l := rest)
      have hself : (Call.mk key .adding).hasAdded key = false := by simp [Call.hasAdded]
      rw [hcalls, List.length_append, List.length_cons] at hfew
      rw [h.count_eq, hcalls, List.countP_append, List.countP_cons, hself]
      simp only [Bool.false_eq_true, if_false]
      omega
    have hkeeps := hmoves.keeps hfits hroom
    rw [hstep]
    refine ⟨fun call hcall => ?_, fun k => ?_, fun k => ?_⟩
    · have hother : call ∈ s.calls → call.phase.Fits s.policy map' call.key := fun hc =>
        (h.fits call hc).mono hkeeps
      rcases List.mem_append.1 hcall with hc | hc
      · exact hother (by simp [hcalls, hc])
      · rcases List.mem_cons.1 hc with rfl | hc
        · exact hfits.step hmoves hroom
        · exact hother (by simp [hcalls, hc])
    · have hcount := h.count_eq k
      have hmove := hmoves.count_add hfits hroom k
      simp only [hcalls, List.countP_append, List.countP_cons] at hcount ⊢
      omega
    · have hinserted := h.inserted_add k
      have hmove := hmoves.inserted_add hfits k
      simp only [hcalls, List.countP_append, List.countP_cons] at hinserted ⊢
      omega

theorem length_calls_step (s : System limit) (turn : Nat) :
    (s.step turn).calls.length = s.calls.length :=
  length_takeTurn (Call.step s.policy) (s.map, s.calls) turn

theorem Counted.run {initial : BoundedMap limit} {s : System limit} (h : s.Counted initial)
    (hfew : s.calls.length < 2 ^ 64) (schedule : List Nat) :
    (s.run schedule).Counted initial := by
  induction schedule generalizing s with
  | nil => exact h
  | cons turn rest ih =>
    refine ih (h.step hfew turn) ?_
    rw [length_calls_step]
    exact hfew

theorem run_concat (s : System limit) (schedule : List Nat) (turn : Nat) :
    s.run (schedule ++ [turn]) = (s.run schedule).step turn := by
  rw [run, List.foldl_append]
  rfl

theorem map_key_run (s : System limit) (schedule : List Nat) :
    (s.run schedule).calls.map Call.key = s.calls.map Call.key := by
  induction schedule generalizing s with
  | nil => rfl
  | cons turn rest ih =>
    refine (ih (s.step turn)).trans (map_takeTurn (Call.step s.policy) ?_ (s.map, s.calls) turn)
    intro map call
    obtain ⟨_, _, hstep, _⟩ := call.step_moves s.policy map
    rw [hstep]

theorem policy_run (s : System limit) (schedule : List Nat) :
    (s.run schedule).policy = s.policy := by
  induction schedule generalizing s with
  | nil => rfl
  | cons turn rest ih =>
    exact ih (s.step turn)

/-! ### When a run adds -/

theorem getElem?_step (s : System limit) (turn n : Nat) : (s.step turn).calls[n]? =
    if turn = n then s.calls[n]?.map fun call => (call.step s.policy s.map).2 else s.calls[n]? :=
  getElem?_takeTurn (Call.step s.policy) (s.map, s.calls) turn n

/-- A run that has made a step has made it from where it was. -/
theorem exists_moves_of_step {s : System limit} {turn : Nat} {key : UInt32} {phase' : Phase}
    (h : (s.step turn).calls[turn]? = some ⟨key, phase'⟩) :
    ∃ phase map', s.calls[turn]? = some ⟨key, phase⟩ ∧
      Moves s.policy s.map key phase map' phase' := by
  rw [getElem?_step, if_pos rfl] at h
  obtain ⟨old, hold, hnew⟩ := Option.map_eq_some_iff.1 h
  obtain ⟨map', phase'', hstep, hmoves⟩ := old.step_moves s.policy s.map
  rw [hstep] at hnew
  obtain ⟨rfl, rfl⟩ := Call.mk.inj hnew
  exact ⟨old.phase, map', hold, hmoves⟩

/-- A run that knows what the count of its key was before it added to it has made that step at some
moment of the schedule, and then this was the count. -/
theorem added_at (policy : InsertPolicy) (map : BoundedMap limit) (keys : List UInt32)
    (schedule : List Nat) {turn : Nat} {call : Call} {before : UInt64}
    (hcall : ((start policy map keys).run schedule).calls[turn]? = some call)
    (hbefore : call.before? = some before) :
    ∃ earlier later, schedule = earlier ++ turn :: later ∧
      ((start policy map keys).run earlier).calls[turn]? = some ⟨call.key, .adding⟩ ∧
      (((start policy map keys).run earlier).map.get? call.key).getD 0 = before := by
  induction schedule using List.reverseRecOn generalizing call with
  | nil =>
    obtain ⟨key, _, rfl⟩ := List.mem_map.1 (List.mem_of_getElem? hcall)
    exact absurd hbefore (Option.some_ne_none before).symm
  | append_singleton schedule now ih =>
    -- a moment before the last step is a moment of the whole schedule
    have hextend : ∀ {old : Call},
        ((start policy map keys).run schedule).calls[turn]? = some old →
        old.key = call.key → old.before? = some before → ∃ earlier later,
          schedule ++ [now] = earlier ++ turn :: later ∧
          ((start policy map keys).run earlier).calls[turn]? = some ⟨call.key, .adding⟩ ∧
          (((start policy map keys).run earlier).map.get? call.key).getD 0 = before := by
      intro old hget hkey hold
      obtain ⟨earlier, later, hsplit, hadding, hcount⟩ := ih hget hold
      refine ⟨earlier, later ++ [now], ?_, hkey ▸ hadding, hkey ▸ hcount⟩
      rw [hsplit, List.append_assoc, List.cons_append]
    rw [run_concat] at hcall
    by_cases hnow : now = turn
    · subst hnow
      obtain ⟨key, phase'⟩ := call
      obtain ⟨phase, map', hold, hmoves⟩ := exists_moves_of_step hcall
      cases hmoves with
      | add => exact ⟨schedule, [], rfl, hold, Option.some.inj hbefore⟩
      | load => exact hextend hold rfl hbefore
      | rest => exact hextend hold rfl hbefore
      | _ => exact absurd hbefore (Option.some_ne_none before).symm
    · rw [getElem?_step, if_neg hnow] at hcall
      exact hextend hcall rfl hbefore

/-! ### What the answers say -/

theorem hasCounted_of_isDone {s : System limit} (h : s.isDone) {call : Call}
    (hcall : call ∈ s.calls) (key : UInt32) : call.hasCounted key = call.hasAdded key := by
  have hreturned := List.all_eq_true.1 h call hcall
  obtain ⟨k, phase⟩ := call
  cases phase with
  | returned result before =>
    cases result <;> simp [Call.hasCounted, Call.hasAdded, Call.result?]
  | _ => exact absurd hreturned Bool.false_ne_true

/-- Whatever the order of the steps of runs on a map whose counts are zero: when all runs have
returned, the count of a key is the number of runs that counted it; at most one run inserted a key,
and none a key that was there; a run that answers with a count answers with more than its key had
just before the run added to it, and with no more than it has in the end; and a run does not find
its key only if the key is absent from then on and either may not be inserted or meets a full
map. -/
theorem run_loses_no_count (policy : InsertPolicy) {map : BoundedMap limit}
    (hzero : ∀ key count, map.get? key = some count → count = 0) {keys : List UInt32}
    (hfew : keys.length < 2 ^ 64) (schedule : List Nat) :
    let initial := System.start policy map keys
    let s := initial.run schedule
    s.calls.map Call.key = keys ∧
    (s.isDone → ∀ key,
      ((s.map.get? key).getD 0).toNat = s.calls.countP (Call.hasCounted key)) ∧
    (∀ key, s.calls.countP (Call.hasInserted key) ≤ 1 ∧
      ((map.get? key).isSome → s.calls.countP (Call.hasInserted key) = 0)) ∧
    (∀ (turn : Nat) (call : Call) (value : UInt64), s.calls[turn]? = some call →
      call.result? = some (.updated value) →
      ∃ earlier later count final, schedule = earlier ++ turn :: later ∧
        (initial.run earlier).calls[turn]? = some ⟨call.key, .adding⟩ ∧
        (initial.run earlier).map.get? call.key = some count ∧
        s.map.get? call.key = some final ∧
        count.toNat + 1 ≤ value.toNat ∧ value.toNat ≤ final.toNat) ∧
    ∀ call ∈ s.calls, call.result? = some .notFound →
      s.map.get? call.key = none ∧ (policy = .lookupOnly ∨ s.map.size = limit) := by
  intro initial s
  have hlength : initial.calls.length < 2 ^ 64 := by
    rw [show initial.calls = keys.map _ from rfl, List.length_map]
    exact hfew
  have hcounted : ∀ schedule, (initial.run schedule).Counted map :=
    (counted_start policy hzero keys).run hlength
  have h : s.Counted map := hcounted schedule
  have hpolicy : s.policy = policy := policy_run initial schedule
  refine ⟨?_, fun hdone key => ?_, fun key => ?_, ?_, ?_⟩
  · refine (map_key_run initial schedule).trans ?_
    rw [show initial.calls = keys.map _ from rfl, List.map_map]
    exact List.map_id keys
  · rw [h.count_eq]
    exact List.countP_congr fun call hcall => by rw [hasCounted_of_isDone hdone hcall]
  · have hinserted := h.inserted_add key
    refine ⟨?_, fun hthere => ?_⟩
    · split at hinserted <;> split at hinserted <;> omega
    · rw [if_pos hthere] at hinserted
      split at hinserted <;> omega
  · intro turn call value hcall hresult
    have hfits := h.fits call (List.mem_of_getElem? hcall)
    obtain ⟨key, phase⟩ := call
    cases phase with
    | returned result before =>
      obtain rfl : result = .updated value := Option.some.inj hresult
      obtain ⟨b, final, rfl, hfinal, hlow, hhigh⟩ := hfits
      obtain ⟨earlier, later, hsplit, hadding, hcount⟩ :=
        added_at policy map keys schedule hcall rfl
      obtain ⟨count, hget⟩ := (hcounted earlier).fits _ (List.mem_of_getElem? hadding)
      rw [hget, Option.getD_some] at hcount
      subst hcount
      exact ⟨earlier, later, count, final, hsplit, hadding, hget, hfinal, hlow, hhigh⟩
    | _ => exact absurd hresult (Option.some_ne_none _).symm
  · intro call hcall hresult
    have hfits := h.fits call hcall
    obtain ⟨key, phase⟩ := call
    cases phase with
    | returned result before =>
      obtain rfl : result = .notFound := Option.some.inj hresult
      exact ⟨hfits.2.1, hpolicy ▸ hfits.2.2⟩
    | _ => exact absurd hresult (Option.some_ne_none _).symm

/-- Two runs race for key 5, and the second finds it inserted. A third one adds before the second
has loaded its count. Key 7 takes the other place, so key 6 is not found. -/
theorem run_loses_no_count_overtaken :
    let map : BoundedMap 2 := ({} : BoundedMap 2).put 7 0
    let keys : List UInt32 := [5, 5, 7, 6, 5]
    let schedule := [0, 1, 0, 1, 1, 4, 1, 4, 1, 4, 2, 2, 2, 3, 3, 3]
    let s := (System.start .lookupOrInsert map keys).run schedule
    (∀ key count, map.get? key = some count → count = 0) ∧ keys.length < 2 ^ 64 ∧ s.isDone ∧
      s.calls.map Call.result? = [some .inserted, some (.updated 3), some (.updated 1),
        some .notFound, some (.updated 3)] ∧
      ((s.map.get? 5).getD 0).toNat = s.calls.countP (Call.hasCounted 5) ∧
      s.calls.countP (Call.hasInserted 5) ≤ 1 ∧ s.calls.countP (Call.hasInserted 7) = 0 ∧
      (∃ earlier later count final, schedule = earlier ++ 1 :: later ∧
        ((System.start .lookupOrInsert map keys).run earlier).map.get? 5 = some count ∧
        s.map.get? 5 = some final ∧ count.toNat + 1 ≤ 3 ∧ 3 ≤ final.toNat) ∧
      s.map.get? 6 = none ∧ s.map.size = 2 := by
  intro map keys schedule s
  have hzero : ∀ key count, map.get? key = some count → count = 0 := by
    intro key count hget
    have hentry : (key, count) ∈ [(7, 0)] := Ledger.get?_eq_some_iff.1 hget
    exact congrArg Prod.snd (List.mem_singleton.1 hentry)
  have hfew : keys.length < 2 ^ 64 := by decide
  have hdone : s.isDone := by decide +kernel
  have hresults : s.calls.map Call.result? = [some .inserted, some (.updated 3), some (.updated 1),
      some .notFound, some (.updated 3)] := by decide +kernel
  obtain ⟨-, hcount, hinserted, hupdated, hmissed⟩ :=
    run_loses_no_count .lookupOrInsert hzero hfew schedule
  obtain ⟨earlier, later, count, final, hsplit, -, hbefore, hafter, hlow, hhigh⟩ :=
    hupdated 1 ⟨5, .returned (.updated 3) (some 1)⟩ 3 (by decide +kernel) rfl
  obtain ⟨habsent, hwhy⟩ := hmissed ⟨6, .returned .notFound none⟩ (by decide +kernel) rfl
  refine ⟨hzero, hfew, hdone, hresults, hcount hdone 5, (hinserted 5).1,
    (hinserted 7).2 (by decide),
    ⟨earlier, later, count, final, hsplit, hbefore, hafter, hlow, hhigh⟩, habsent, ?_⟩
  rcases hwhy with hpolicy | hfull
  · exact absurd hpolicy (by decide)
  · exact hfull

/-! ### A run that nobody disturbs -/

theorem step_single (policy : InsertPolicy) (map : BoundedMap limit) (call : Call) :
    (System.mk policy map [call]).step 0 =
      ⟨policy, (call.step policy map).1, [(call.step policy map).2]⟩ := rfl

/-- Three steps of a single run do what the source counter does at once. -/
theorem run_alone (maps : Maps) (key : UInt32) :
    ∃ before, (start (insertPolicy {} maps) maps.counters [key]).run [0, 0, 0] =
      ⟨insertPolicy {} maps, (countSource {} key maps).2.counters,
        [⟨key, .returned (countSource {} key maps).1 before⟩]⟩ := by
  cases hget : maps.counters.get? key with
  | some count =>
    refine ⟨some count, ?_⟩
    have hself := BoundedMap.get?_put_self (BoundedMap.takes_of_some hget) (count + 1)
    simp [run, step_single, start, Call.step, countSource, countPresent, hget, BoundedMap.bump_eq,
      hself]
  | none =>
    refine ⟨none, ?_⟩
    cases hpolicy : insertPolicy {} maps with
    | lookupOnly => simp [run, step_single, start, Call.step, countSource, hget, hpolicy]
    | lookupOrInsert =>
      by_cases hroom : maps.counters.size < counterCapacity
      · have hinsert := BoundedMap.insertNew?_of_room hget hroom 1
        simp [run, step_single, start, Call.step, countSource, disturbed, hget, hpolicy, hinsert]
      · have hinsert := BoundedMap.insertNew?_of_full hget hroom 1
        simp [run, step_single, start, Call.step, countSource, countPresent, disturbed, hget,
          hpolicy, hinsert]

end System

end SourceTally.Kernel.Atomic
