import Mathlib.Data.List.Basic
import SourceTally.Proofs.TableOperations
import SourceTally.Proofs.Turns
import SourceTally.Table.Atomic

/-!
# Calls in any order of their steps

Calls on one table make their steps in an order that nobody controls. `Moves` says once what a step
of a call can do. What a call has learned so far is about slots that are taken, and those keep their
keys, so no step of another call can take it away; that is `Phase.Fits.mono`, and it carries the
invariant `System.Sound` through every schedule.

## Main definitions

* `Keeps`: taken slots keep their keys
* `Moves`: what one step of a call does to the table and to the call
* `Phase.Fits`: what a call has learned is true of the table
* `System.Sound`: the invariant of a table with calls on it

## Main statements

* `System.Sound.step`, `System.Sound.run`: every step keeps the invariant, so it always holds
* `Slot.keyWord_inj`: the word of a key cell tells whether it is empty, and which key it holds
* `System.run_cellsSound`: what that means for the cells of the table and for searches
-/

namespace SourceTally

/-- The word of an empty key cell. -/
def emptyKey : UInt64 := 0xffffffffffffffff

/-- The key cell of a slot as a word: the key, or a word that is no key. -/
def Slot.keyWord (slot : Slot) : UInt64 :=
  match slot.key with
  | none => emptyKey
  | some key => key.toUInt64

namespace Atomic

variable {N : Nat}

/-- Every slot that is taken in the first table has the same key in the second. -/
def Keeps (old new : Vector Slot N) : Prop :=
  ∀ (i : Fin N) (key : UInt32), (old.get i).key = some key → (new.get i).key = some key

namespace Keeps

variable {old new : Vector Slot N} {key : UInt32}

theorem trans {last : Vector Slot N} (h : Keeps old new) (h' : Keeps new last) : Keeps old last :=
  fun i key hi => h' i key (h i key hi)

theorem holds (h : Keeps old new) (hkey : Holds old key) : Holds new key := by
  obtain ⟨i, hi⟩ := hkey
  exact ⟨i, h i key hi⟩

theorem fullOfOthers (h : Keeps old new) (hfull : FullOfOthers old key) :
    FullOfOthers new key := by
  intro i
  obtain ⟨other, ho, hne⟩ := hfull i
  exact ⟨other, h i other ho, hne⟩

theorem passed [HasSlots N] {d : Nat} (h : Keeps old new) (hpassed : Passed old key d) :
    Passed new key d := by
  intro e he
  obtain ⟨other, ho, hne⟩ := hpassed e he
  exact ⟨other, h _ other ho, hne⟩

end Keeps

variable [HasSlots N]

/-- What one step of a call does. -/
inductive Moves (table : CountingTable N) (request : Request) :
    Phase N → CountingTable N → Phase N → Prop where
  | probeEmpty {left : Nat} {i : Fin N} (hslot : (table.slots.get i).key = none) :
    Moves table request (.probing left i) table (.afterMiss table.policy request.key)
  | probeHit {left : Nat} {i : Fin N} (hslot : (table.slots.get i).key = some request.key) :
    Moves table request (.probing left i) table (.adding i false)
  | probeOther {left : Nat} {i : Fin N} {other : UInt32}
    (hslot : (table.slots.get i).key = some other) (hne : other ≠ request.key) :
    Moves table request (.probing (left + 1) i) table (.probing left (next i))
  | probeLast {i : Fin N} {other : UInt32} (hslot : (table.slots.get i).key = some other)
    (hne : other ≠ request.key) :
    Moves table request (.probing 0 i) table (.afterMiss table.policy request.key)
  | claimEmpty {left : Nat} {i : Fin N} (hslot : (table.slots.get i).key = none) :
    Moves table request (.claiming left i)
      { table with
        slots := table.slots.set i ⟨some request.key, (table.slots.get i).count⟩ i.isLt }
      (.announcing i)
  | claimHit {left : Nat} {i : Fin N} (hslot : (table.slots.get i).key = some request.key) :
    Moves table request (.claiming left i) table (.afterClaim request i false)
  | claimOther {left : Nat} {i : Fin N} {other : UInt32}
    (hslot : (table.slots.get i).key = some other) (hne : other ≠ request.key) :
    Moves table request (.claiming (left + 1) i) table (.claiming left (next i))
  | claimLast {i : Fin N} {other : UInt32} (hslot : (table.slots.get i).key = some other)
    (hne : other ≠ request.key) :
    Moves table request (.claiming 0 i) table (.afterFull request)
  | announce {i : Fin N} :
    Moves table request (.announcing i) { table with size := table.size + 1 }
      (.afterClaim request i true)
  | add {i : Fin N} {claimed : Bool} :
    Moves table request (.adding i claimed) (table.bump i)
      (.returned
        (.counted (if claimed then .inserted else .updated ((table.slots.get i).count + 1)))
        (some ((table.slots.get i).count + 1)))
  | rest {answer : Answer} {obtained : Option UInt64} :
    Moves table request (.returned answer obtained) table (.returned answer obtained)

theorem Call.step_moves (table : CountingTable N) (call : Call N) :
    ∃ table' phase', call.step table = (table', ⟨call.request, phase'⟩) ∧
      Moves table call.request call.phase table' phase' := by
  obtain ⟨request, phase⟩ := call
  cases phase with
  | probing left i =>
    cases hslot : (table.slots.get i).key with
    | none => exact ⟨_, _, by simp only [step, hslot], .probeEmpty hslot⟩
    | some other =>
      by_cases hne : other = request.key
      · exact ⟨_, _, by simp only [step, hslot, if_pos hne], .probeHit (hne ▸ hslot)⟩
      · cases left with
        | zero => exact ⟨_, _, by simp only [step, hslot, if_neg hne], .probeLast hslot hne⟩
        | succ left =>
          exact ⟨_, _, by simp only [step, hslot, if_neg hne], .probeOther hslot hne⟩
  | claiming left i =>
    cases hslot : (table.slots.get i).key with
    | none => exact ⟨_, _, by simp only [step, hslot], .claimEmpty hslot⟩
    | some other =>
      by_cases hne : other = request.key
      · exact ⟨_, _, by simp only [step, hslot, if_pos hne], .claimHit (hne ▸ hslot)⟩
      · cases left with
        | zero => exact ⟨_, _, by simp only [step, hslot, if_neg hne], .claimLast hslot hne⟩
        | succ left =>
          exact ⟨_, _, by simp only [step, hslot, if_neg hne], .claimOther hslot hne⟩
  | announcing i => exact ⟨_, _, rfl, .announce⟩
  | adding i claimed => exact ⟨_, _, rfl, .add⟩
  | returned answer obtained => exact ⟨_, _, rfl, .rest⟩

/-! ### What a step leaves alone -/

theorem Moves.keeps {table table' : CountingTable N} {request : Request} {phase phase' : Phase N}
    (h : Moves table request phase table' phase') : Keeps table.slots table'.slots := by
  intro j key hj
  cases h with
  | @claimEmpty _ i hslot =>
    -- the one slot that gets a key was empty
    have hij : i ≠ j := by
      rintro rfl
      exact Option.some_ne_none key (hj.symm.trans hslot)
    simp only [get_set_slot, if_neg hij]
    exact hj
  | add => exact (key_set_count table.slots _ j _).trans hj
  | _ => exact hj

theorem Moves.policy_eq {table table' : CountingTable N} {request : Request}
    {phase phase' : Phase N} (h : Moves table request phase table' phase') :
    table'.policy = table.policy := by
  cases h <;> rfl

/-! ### What a call knows -/

/-- A search for a key has come to slot `i` with `left` slots behind it, and has not met the key. -/
def AtSlot (slots : Vector Slot N) (key : UInt32) (left : Nat) (i : Fin N) : Prop :=
  ∃ d, d + left + 1 = N ∧ i = place key d ∧ Passed slots key d

theorem atSlot_home (slots : Vector Slot N) (key : UInt32) :
    AtSlot slots key (N - 1) (home N key) := by
  have hpos := HasSlots.pos (N := N)
  exact ⟨0, by omega, (place_zero key).symm, passed_zero slots key⟩

theorem AtSlot.mono {old new : Vector Slot N} {key : UInt32} {left : Nat} {i : Fin N}
    (h : AtSlot old key left i) (hkeeps : Keeps old new) : AtSlot new key left i := by
  obtain ⟨d, hd, hi, hpassed⟩ := h
  exact ⟨d, hd, hi, hkeeps.passed hpassed⟩

theorem AtSlot.next {slots : Vector Slot N} {key other : UInt32} {left : Nat} {i : Fin N}
    (h : AtSlot slots key (left + 1) i) (hslot : (slots.get i).key = some other)
    (hne : other ≠ key) :
    AtSlot slots key left (next i) := by
  obtain ⟨d, hd, rfl, hpassed⟩ := h
  exact ⟨d + 1, by omega, next_place key d, hpassed.succ hslot hne⟩

theorem AtSlot.fullOfOthers {slots : Vector Slot N} {key other : UInt32} {i : Fin N}
    (h : AtSlot slots key 0 i) (hslot : (slots.get i).key = some other) (hne : other ≠ key) :
    FullOfOthers slots key := by
  obtain ⟨d, hd, rfl, hpassed⟩ := h
  -- no slot is left behind this one, so the whole path has been passed
  have hall : Passed slots key (d + 1) := hpassed.succ hslot hne
  rw [show d + 1 = N by omega] at hall
  exact hall.fullOfOthers

theorem AtSlot.not_holds {slots : Vector Slot N} {key : UInt32} {left : Nat} {i : Fin N}
    (h : AtSlot slots key left i) (hplaced : Placed slots) (hslot : (slots.get i).key = none) :
    ¬ Holds slots key := by
  obtain ⟨d, hd, rfl, hpassed⟩ := h
  exact hplaced.not_holds_of_empty (by omega) hpassed hslot

/-- What a call that has answered says about the table. -/
def Answer.Fits (table : CountingTable N) (key : UInt32) (obtained : Option UInt64) : Answer → Prop
  | .seeded => obtained = none ∧ Holds table.slots key
  | .full => obtained = none ∧ FullOfOthers table.slots key
  | .counted (.updated value) => obtained = some value ∧ Holds table.slots key
  | .counted .inserted => obtained ≠ none ∧ Holds table.slots key
  | .counted .notFound =>
    obtained = none ∧ (table.policy = .lookupOrInsert → FullOfOthers table.slots key)

/-- What a call has learned is true of the table. Only a call that counts reads keys and adds to a
counter. -/
def Phase.Fits (table : CountingTable N) (request : Request) : Phase N → Prop
  | .probing left i => request = .increment request.key ∧ AtSlot table.slots request.key left i
  | .claiming left i => AtSlot table.slots request.key left i
  | .announcing i => (table.slots.get i).key = some request.key
  | .adding i _ => request = .increment request.key ∧ (table.slots.get i).key = some request.key
  | .returned answer obtained => answer.Fits table request.key obtained

namespace Phase.Fits

variable {table table' : CountingTable N} {request : Request} {phase phase' : Phase N}

/-- What a call has learned stays true whatever the other calls do. -/
theorem mono (h : phase.Fits table request) (hkeeps : Keeps table.slots table'.slots)
    (hpolicy : table'.policy = table.policy) : phase.Fits table' request := by
  cases phase with
  | probing left i => exact ⟨h.1, h.2.mono hkeeps⟩
  | claiming left i => exact AtSlot.mono h hkeeps
  | announcing i => exact hkeeps i _ h
  | adding i claimed => exact ⟨h.1, hkeeps i _ h.2⟩
  | returned answer obtained =>
    cases answer with
    | seeded => exact ⟨h.1, hkeeps.holds h.2⟩
    | full => exact ⟨h.1, hkeeps.fullOfOthers h.2⟩
    | counted result =>
      cases result with
      | updated value => exact ⟨h.1, hkeeps.holds h.2⟩
      | inserted => exact ⟨h.1, hkeeps.holds h.2⟩
      | notFound => exact ⟨h.1, fun hp => hkeeps.fullOfOthers (h.2 (hpolicy ▸ hp))⟩

theorem start (table : CountingTable N) (request : Request) :
    (Call.start N request).phase.Fits table request := by
  cases request with
  | seed key => exact atSlot_home table.slots key
  | increment key => exact ⟨rfl, atSlot_home table.slots key⟩

theorem afterMiss (table : CountingTable N) (request : Request) :
    (Phase.afterMiss table.policy request.key : Phase N).Fits table request := by
  unfold Phase.afterMiss
  cases hpolicy : table.policy with
  | lookupOnly => exact ⟨rfl, fun h => absurd (hpolicy.symm.trans h) (by decide)⟩
  | lookupOrInsert => exact atSlot_home table.slots request.key

theorem afterClaim {i : Fin N} (claimed : Bool)
    (hslot : (table.slots.get i).key = some request.key) :
    (Phase.afterClaim request i claimed).Fits table request := by
  cases request with
  | seed key => exact ⟨rfl, i, hslot⟩
  | increment key => exact ⟨rfl, hslot⟩

theorem afterFull (hfull : FullOfOthers table.slots request.key) :
    (Phase.afterFull request : Phase N).Fits table request := by
  cases request with
  | seed key => exact ⟨rfl, hfull⟩
  | increment key => exact ⟨rfl, fun _ => hfull⟩

/-- A call learns something true by its own step. -/
theorem step (h : phase.Fits table request) (hmoves : Moves table request phase table' phase') :
    phase'.Fits table' request := by
  have hkeeps := hmoves.keeps
  cases hmoves with
  | probeEmpty hslot => exact afterMiss table request
  | probeHit hslot => exact ⟨h.1, hslot⟩
  | probeOther hslot hne => exact ⟨h.1, h.2.next hslot hne⟩
  | probeLast hslot hne => exact afterMiss table request
  | @claimEmpty _ i hslot =>
    show ((table.slots.set i ⟨some request.key, (table.slots.get i).count⟩ i.isLt).get i).key =
      some request.key
    rw [get_set_slot, if_pos rfl]
  | claimHit hslot => exact afterClaim false hslot
  | claimOther hslot hne => exact AtSlot.next h hslot hne
  | claimLast hslot hne => exact afterFull (AtSlot.fullOfOthers h hslot hne)
  | announce => exact afterClaim true h
  | @add i claimed =>
    cases claimed with
    | true => exact ⟨Option.some_ne_none _, i, hkeeps i _ h.2⟩
    | false => exact ⟨rfl, i, hkeeps i _ h.2⟩
  | rest => exact h

end Phase.Fits

/-! ### The table under one step -/

namespace Moves

variable {table table' : CountingTable N} {request : Request} {phase phase' : Phase N}

theorem placed (hmoves : Moves table request phase table' phase') (h : Placed table.slots)
    (hfits : phase.Fits table request) : Placed table'.slots := by
  cases hmoves with
  | claimEmpty hslot =>
    obtain ⟨d, hd, rfl, hpassed⟩ := hfits
    exact h.set_key (by omega) hpassed hslot _
  | add => exact h.set_count hfits.2 _
  | _ => exact h

/-- A slot is taken by the step after which its key is still to be announced. -/
theorem size_add (hmoves : Moves table request phase table' phase')
    (hfits : phase.Fits table request) :
    table'.size + (if (Call.mk request phase').isAnnouncing then 1 else 0) + taken table.slots =
      table.size + (if (Call.mk request phase).isAnnouncing then 1 else 0) +
        taken table'.slots := by
  have hafterMiss : ∀ policy key,
      (Call.mk request (.afterMiss policy key : Phase N)).isAnnouncing = false := by
    intro policy key
    cases policy <;> rfl
  have hafterClaim : ∀ (i : Fin N) claimed,
      (Call.mk request (.afterClaim request i claimed)).isAnnouncing = false := by
    intro i claimed
    cases request <;> rfl
  have hafterFull : (Call.mk request (.afterFull request : Phase N)).isAnnouncing = false := by
    cases request <;> rfl
  cases hmoves with
  | probeEmpty hslot => rw [hafterMiss]; rfl
  | probeHit hslot => rfl
  | probeOther hslot hne => rfl
  | probeLast hslot hne => rw [hafterMiss]; rfl
  | claimEmpty hslot =>
    -- one more slot is taken, and one more call has to announce it
    simp only [taken_set_key hslot, Call.isAnnouncing]
    simp
    omega
  | claimHit hslot => rw [hafterClaim]; rfl
  | claimOther hslot hne => rfl
  | claimLast hslot hne => rw [hafterFull]; rfl
  | announce => rw [hafterClaim]; rfl
  | add =>
    simp only [CountingTable.bump, taken_set_count hfits.2, Call.isAnnouncing]
    rfl
  | rest => rfl

end Moves

namespace System

/-- One step of a system: nothing, or a step of one of its calls. -/
theorem step_cases (s : System N) (turn : Nat) :
    (s.calls[turn]? = none ∧ s.step turn = s) ∨
    ∃ before request phase rest table' phase', before.length = turn ∧
      s.calls = before ++ ⟨request, phase⟩ :: rest ∧
      Moves s.table request phase table' phase' ∧
      s.step turn = ⟨table', before ++ ⟨request, phase'⟩ :: rest⟩ := by
  rcases takeTurn_cases Call.step (s.table, s.calls) turn with
    ⟨hnone, hturn⟩ | ⟨before, call, rest, hlength, hcalls, hturn⟩
  · exact .inl ⟨hnone, by rw [step, hturn]⟩
  · obtain ⟨table', phase', hstep, hmoves⟩ := call.step_moves s.table
    refine .inr ⟨before, call.request, call.phase, rest, table', phase', hlength, hcalls, hmoves,
      ?_⟩
    rw [step, hturn]
    simp only [hstep]

/-- The keys are in their places, what every call has learned is true, and the number of keys with
the announcements still to come is the number of taken slots. -/
structure Sound (s : System N) : Prop where
  placed : Placed s.table.slots
  fits : ∀ call ∈ s.calls, call.phase.Fits s.table call.request
  size_add : s.table.size + s.calls.countP Call.isAnnouncing = taken s.table.slots

/-- Calls that have not made a step, on a table that is sound. -/
theorem sound_of_table {table : CountingTable N} (h : table.Sound) (requests : List Request) :
    Sound ⟨table, requests.map (Call.start N)⟩ where
  placed := h.placed
  fits call hcall := by
    obtain ⟨request, _, rfl⟩ := List.mem_map.1 hcall
    have hrequest : (Call.start N request).request = request := by cases request <;> rfl
    rw [hrequest]
    exact Phase.Fits.start _ request
  size_add := by
    have hnone : (requests.map (Call.start N)).countP Call.isAnnouncing = 0 := by
      rw [List.countP_eq_zero]
      intro call hcall
      obtain ⟨request, _, rfl⟩ := List.mem_map.1 hcall
      cases request <;> exact Bool.false_ne_true
    rw [hnone]
    exact h.size_eq

theorem sound_start (policy : InsertPolicy) (requests : List Request) :
    (start N policy requests).Sound :=
  sound_of_table (CountingTable.sound_empty policy) requests

/-- Once all calls have returned, the number of keys is right again. -/
theorem Sound.table_of_isDone {s : System N} (h : s.Sound) (hdone : s.isDone) :
    s.table.Sound := by
  have hnone : s.calls.countP Call.isAnnouncing = 0 := by
    rw [List.countP_eq_zero]
    intro call hcall
    have hreturned := List.all_eq_true.1 hdone call hcall
    rw [Call.hasReturned] at hreturned
    rw [Call.isAnnouncing]
    split at hreturned
    · next hphase =>
      rw [hphase]
      exact Bool.false_ne_true
    · cases hreturned
  have hsize := h.size_add
  rw [hnone] at hsize
  exact ⟨h.placed, hsize⟩

/-- One step of any call keeps the invariant. -/
theorem Sound.step {s : System N} (h : s.Sound) (turn : Nat) : (s.step turn).Sound := by
  rcases s.step_cases turn with ⟨_, hstep⟩ | ⟨before, request, phase, rest, table', phase', _,
    hcalls, hmoves, hstep⟩
  · rwa [hstep]
  · have hmem : ⟨request, phase⟩ ∈ s.calls := by simp [hcalls]
    have hfits := h.fits _ hmem
    rw [hstep]
    refine ⟨hmoves.placed h.placed hfits, ?_, ?_⟩
    · -- the call that moved has learned by its step, and for the others nothing was lost
      intro call hcall
      have hother : call ∈ s.calls → call.phase.Fits table' call.request := fun hc =>
        (h.fits call hc).mono hmoves.keeps hmoves.policy_eq
      rcases List.mem_append.1 hcall with hc | hc
      · exact hother (by simp [hcalls, hc])
      · rcases List.mem_cons.1 hc with rfl | hc
        · exact Phase.Fits.step hfits hmoves
        · exact hother (by simp [hcalls, hc])
    · have hsum := h.size_add
      have hmove := hmoves.size_add hfits
      simp only [hcalls, List.countP_append, List.countP_cons] at hsum ⊢
      omega

theorem Sound.run {s : System N} (h : s.Sound) (schedule : List Nat) : (s.run schedule).Sound := by
  induction schedule generalizing s with
  | nil => exact h
  | cons turn rest ih => exact ih (h.step turn)

theorem map_request_start (policy : InsertPolicy) (requests : List Request) :
    (start N policy requests).calls.map Call.request = requests := by
  have hrequest : Call.request ∘ Call.start N = id := by
    funext request
    cases request <;> rfl
  rw [start, List.map_map, hrequest, List.map_id]

theorem map_request_run (s : System N) (schedule : List Nat) :
    (s.run schedule).calls.map Call.request = s.calls.map Call.request := by
  induction schedule generalizing s with
  | nil => rfl
  | cons turn rest ih =>
    refine (ih (s.step turn)).trans (map_takeTurn Call.step ?_ (s.table, s.calls) turn)
    intro table call
    obtain ⟨_, _, hstep, _⟩ := call.step_moves table
    rw [hstep]

theorem keeps_run (s : System N) (schedule : List Nat) :
    Keeps s.table.slots (s.run schedule).table.slots := by
  induction schedule generalizing s with
  | nil => exact fun _ _ h => h
  | cons turn rest ih =>
    have hstep : Keeps s.table.slots (s.step turn).table.slots := by
      rcases s.step_cases turn with ⟨_, hstep⟩ | ⟨_, _, _, _, table', _, _, _, hmoves, hstep⟩
      · rw [hstep]
        exact fun _ _ h => h
      · rw [hstep]
        exact hmoves.keeps
    exact hstep.trans (ih (s.step turn))

end System

/-! ### A key that is present is found -/

/-- A call that counts a key has not missed it: after `steps` steps it is still on its way to the
key's slot, or it has found it. -/
def Phase.Finds (slots : Vector Slot N) (key : UInt32) (steps : Nat) : Phase N → Prop
  | .probing left i => AtSlot slots key left i ∧ left + 1 + steps ≤ N
  | .adding i claimed => claimed = false ∧ (slots.get i).key = some key
  | .returned answer obtained => ∃ value, answer = .counted (.updated value) ∧ obtained = some value
  | _ => False

namespace Phase.Finds

variable {key : UInt32} {steps : Nat} {phase phase' : Phase N}

theorem mono {old new : Vector Slot N} (h : phase.Finds old key steps) (hkeeps : Keeps old new) :
    phase.Finds new key steps := by
  cases phase with
  | probing left i => exact ⟨h.1.mono hkeeps, h.2⟩
  | adding i claimed => exact ⟨h.1, hkeeps i key h.2⟩
  | returned answer obtained => exact h
  | _ => exact h

/-- A step of the call itself: an empty slot or the end of the table would be a miss, and both show
that the key is absent. -/
theorem step {table table' : CountingTable N} (h : phase.Finds table.slots key steps)
    (hplaced : Placed table.slots) (hkey : Holds table.slots key)
    (hmoves : Moves table (.increment key) phase table' phase') :
    phase'.Finds table'.slots key (steps + 1) := by
  cases hmoves with
  | probeEmpty hslot => exact absurd hkey (h.1.not_holds hplaced hslot)
  | probeHit hslot => exact ⟨rfl, hslot⟩
  | @probeOther left i other hslot hne =>
    have hleft := h.2
    exact ⟨h.1.next hslot hne, by omega⟩
  | probeLast hslot hne => exact absurd hkey (h.1.fullOfOthers hslot hne).not_holds
  | claimEmpty => exact h.elim
  | claimHit => exact h.elim
  | claimOther => exact h.elim
  | claimLast => exact h.elim
  | announce => exact h.elim
  | @add i claimed =>
    obtain ⟨rfl, _⟩ := h
    exact ⟨_, rfl, rfl⟩
  | rest => exact h

theorem cases_of {slots : Vector Slot N} (h : phase.Finds slots key steps) :
    (∃ left i, phase = .probing left i ∧ steps < N) ∨
    (∃ i : Fin N, phase = .adding i false ∧ (slots.get i).key = some key) ∨
    ∃ value, phase = .returned (.counted (.updated value)) (some value) := by
  cases phase with
  | probing left i =>
    have hleft := h.2
    exact .inl ⟨left, i, rfl, by omega⟩
  | adding i claimed =>
    obtain ⟨rfl, hslot⟩ := h
    exact .inr (.inl ⟨i, rfl, hslot⟩)
  | returned answer obtained =>
    obtain ⟨value, rfl, rfl⟩ := h
    exact .inr (.inr ⟨value, rfl⟩)
  | claiming left i => exact h.elim
  | announcing i => exact h.elim

end Phase.Finds

namespace System

theorem table_step {s : System N} {turn : Nat} {call : Call N} (h : s.calls[turn]? = some call) :
    (s.step turn).table = (call.step s.table).1 := by
  rw [step, takeTurn_of_some h]

theorem finds_run {s : System N} (h : s.Sound) {key : UInt32} (hkey : Holds s.table.slots key)
    {turn steps : Nat} {phase : Phase N}
    (hcall : s.calls[turn]? = some ⟨.increment key, phase⟩)
    (hfinds : phase.Finds s.table.slots key steps) (schedule : List Nat) :
    ∃ phase', (s.run schedule).calls[turn]? = some ⟨.increment key, phase'⟩ ∧
      phase'.Finds (s.run schedule).table.slots key (steps + schedule.count turn) := by
  let Known (taken : Nat) (s : System N) (call : Call N) : Prop :=
    s.Sound ∧ Holds s.table.slots key ∧ call.request = .increment key ∧
      call.phase.Finds s.table.slots key taken
  -- a step of its own takes the call on
  have hown : ∀ s call taken, s.calls[turn]? = some call → Known taken s call →
      Known (taken + 1) (s.step turn) (call.step s.table).2 := by
    rintro s ⟨request, phase⟩ taken hcall ⟨hsound, hholds, hrequest, hfinds⟩
    obtain rfl : request = .increment key := hrequest
    have hkeeps : Keeps s.table.slots (s.step turn).table.slots := s.keeps_run [turn]
    obtain ⟨table', phase', hstep, hmoves⟩ := Call.step_moves s.table ⟨.increment key, phase⟩
    have htable : (s.step turn).table = table' := by rw [table_step hcall, hstep]
    refine ⟨hsound.step turn, hkeeps.holds hholds, ?_⟩
    rw [htable, hstep]
    exact ⟨rfl, hfinds.step hsound.placed hholds hmoves⟩
  -- a step of another keeps the slots that it has passed
  have hother : ∀ s now call taken, now ≠ turn → Known taken s call →
      Known taken (s.step now) call := by
    rintro s now call taken - ⟨hsound, hholds, hrequest, hfinds⟩
    have hkeeps : Keeps s.table.slots (s.step now).table.slots := s.keeps_run [now]
    exact ⟨hsound.step now, hkeeps.holds hholds, hrequest, hfinds.mono hkeeps⟩
  obtain ⟨⟨request, phase'⟩, hcall', -, -, hrequest, hend⟩ :=
    exists_part_run Call.step step (fun s => (s.table, s.calls)) (fun _ _ => rfl) Known hown hother
      hcall ⟨h, hkey, rfl, hfinds⟩ schedule
  obtain rfl : request = .increment key := hrequest
  exact ⟨phase', hcall', hend⟩

/-- The cells of a table with calls on it. -/
structure CellsSound (s : System N) : Prop where
  /-- A key cell is the word of an empty cell, or a key of 32 bits. -/
  word : ∀ i : Fin N,
    ((s.table.slots.get i).keyWord = emptyKey ∧ (s.table.slots.get i).key = none) ∨
    ((s.table.slots.get i).keyWord.toNat < 2 ^ 32 ∧ (s.table.slots.get i).key ≠ none)
  /-- The word of an empty cell is not that of any key, and different keys have different words. -/
  word_inj : ∀ i j : Fin N, (s.table.slots.get i).keyWord = (s.table.slots.get j).keyWord ↔
    (s.table.slots.get i).key = (s.table.slots.get j).key
  /-- No key is in two slots. -/
  unique : ∀ (i j : Fin N) (key : UInt32), (s.table.slots.get i).key = some key →
    (s.table.slots.get j).key = some key → i = j
  /-- All slots that are searched for a key before its own slot are taken. -/
  path : ∀ (i : Fin N) (key : UInt32), (s.table.slots.get i).key = some key →
    ∃ d < N, i = place key d ∧ ∀ e < d, (s.table.slots.get (place (N := N) key e)).key ≠ none
  /-- An empty slot has counted nothing. -/
  zero : ∀ i : Fin N, (s.table.slots.get i).key = none → (s.table.slots.get i).count = 0
  /-- Every taken slot is counted in `size`, or the call that took it is about to do that. -/
  size_add : s.table.size + s.calls.countP Call.isAnnouncing = taken s.table.slots
  size_le : s.table.size ≤ N

end System

end Atomic

theorem Slot.keyWord_cases (slot : Slot) :
    (slot.keyWord = emptyKey ∧ slot.key = none) ∨
      (slot.keyWord.toNat < 2 ^ 32 ∧ slot.key ≠ none) := by
  obtain ⟨key, count⟩ := slot
  cases key with
  | none => exact .inl ⟨rfl, rfl⟩
  | some key => exact .inr ⟨key.toNat_lt, Option.some_ne_none key⟩

theorem Slot.exists_key_of_keyWord {slot : Slot} (h : slot.keyWord ≠ emptyKey) :
    ∃ key, slot.key = some key := by
  rcases slot.keyWord_cases with ⟨hempty, -⟩ | ⟨-, hkey⟩
  · exact absurd hempty h
  · exact Option.ne_none_iff_exists'.1 hkey

/-- A key has 32 bits, and the word of an empty cell has more. -/
theorem toUInt64_ne_emptyKey (key : UInt32) : key.toUInt64 ≠ emptyKey := by
  intro h
  have hlt : key.toUInt64.toNat < 2 ^ 32 := key.toNat_lt
  rw [h] at hlt
  exact absurd hlt (by decide)

/-- The word of a key cell tells what the cell holds. -/
theorem Slot.keyWord_inj {slot other : Slot} :
    slot.keyWord = other.keyWord ↔ slot.key = other.key := by
  obtain ⟨key, count⟩ := slot
  obtain ⟨otherKey, otherCount⟩ := other
  cases key with
  | none =>
    cases otherKey with
    | none => exact iff_of_true rfl rfl
    | some otherKey => exact iff_of_false (toUInt64_ne_emptyKey otherKey).symm nofun
  | some key =>
    cases otherKey with
    | none => exact iff_of_false (toUInt64_ne_emptyKey key) nofun
    | some otherKey =>
      show key.toUInt64 = otherKey.toUInt64 ↔ some key = some otherKey
      rw [UInt32.toUInt64_inj, Option.some.injEq]

namespace Atomic.System

variable {N : Nat} [HasSlots N]

theorem Sound.cellsSound {s : System N} (h : s.Sound) : s.CellsSound where
  word i := (s.table.slots.get i).keyWord_cases
  word_inj _ _ := Slot.keyWord_inj
  unique := h.placed.unique
  path i key hi := by
    obtain ⟨d, hd, rfl⟩ := exists_place key i
    exact ⟨d, hd, rfl, h.placed.path key d hd hi⟩
  zero := h.placed.zero
  size_add := h.size_add
  size_le := by
    have hle := taken_le s.table.slots
    have hsum := h.size_add
    omega

/-- In every state that any calls on an empty table can reach: the cells are sound; a key cell that
is not empty never changes, nor does its word; a search that meets an empty slot has shown that its
key is absent; and a key that is present is found by every search that starts then or later, at the
latest with its `N`-th step. -/
theorem run_cellsSound (N : Nat) [HasSlots N] (policy : InsertPolicy) (requests : List Request)
    (schedule : List Nat) :
    let s := (System.start N policy requests).run schedule
    s.CellsSound ∧
      (∀ (later : List Nat) (i : Fin N) (key : UInt32), (s.table.slots.get i).key = some key →
        ((s.run later).table.slots.get i).key = some key) ∧
      (∀ (later : List Nat) (i : Fin N), (s.table.slots.get i).keyWord ≠ emptyKey →
        ((s.run later).table.slots.get i).keyWord = (s.table.slots.get i).keyWord) ∧
      (∀ call ∈ s.calls, ∀ (left : Nat) (i : Fin N), call.phase = .probing left i →
        (s.table.slots.get i).key = none → ¬ Holds s.table.slots call.request.key) ∧
      (∀ (key : UInt32) (i : Fin N),
        s.table.probe key = .found i ↔ (s.table.slots.get i).key = some key) ∧
      ∀ (key : UInt32) (turn : Nat) (later : List Nat), Holds s.table.slots key →
        s.calls[turn]? = some (Call.start N (.increment key)) →
        ∃ phase, (s.run later).calls[turn]? = some ⟨.increment key, phase⟩ ∧
          ((∃ left i, phase = .probing left i ∧ later.count turn < N) ∨
          (∃ i : Fin N, phase = .adding i false ∧
            ((s.run later).table.slots.get i).key = some key) ∨
          ∃ value, phase = .returned (.counted (.updated value)) (some value)) := by
  intro s
  have h : s.Sound := (sound_start policy requests).run schedule
  refine ⟨h.cellsSound, fun later i key hi => s.keeps_run later i key hi, ?_, ?_,
    fun key i => CountingTable.probe_eq_found_iff h.placed, ?_⟩
  · intro later i hword
    obtain ⟨key, hkey⟩ := Slot.exists_key_of_keyWord hword
    exact Slot.keyWord_inj.2 ((s.keeps_run later i key hkey).trans hkey.symm)
  · intro call hcall left i hphase hslot
    have hfits := h.fits call hcall
    rw [hphase] at hfits
    exact hfits.2.not_holds h.placed hslot
  · intro key turn later hkey hcall
    have hpos := HasSlots.pos (N := N)
    have hfinds : (Phase.probing (N - 1) (home N key)).Finds s.table.slots key 0 :=
      ⟨atSlot_home _ key, by omega⟩
    obtain ⟨phase, hlater, hend⟩ := finds_run h hkey hcall hfinds later
    rw [Nat.zero_add] at hend
    exact ⟨phase, hlater, hend.cases_of⟩

/-- Between the two steps of a claim: the slot is taken, the number of keys is still zero, and a
third call that starts now finds the key and counts it. -/
theorem run_cellsSound_claiming :
    let s := (System.start 2 .lookupOrInsert [.increment 5, .seed 5, .increment 5]).run [0, 0]
    2 ≠ 0 ∧ s.table.size = 0 ∧ s.calls.countP Call.isAnnouncing = 1 ∧ taken s.table.slots = 1 ∧
      s.CellsSound ∧ Holds s.table.slots 5 ∧
      s.calls[2]? = some (Call.start 2 (.increment 5)) ∧
      ∃ value, (s.run [2, 2]).calls[2]? =
        some ⟨.increment 5, .returned (.counted (.updated value)) (some value)⟩ := by
  intro s
  have h := run_cellsSound 2 .lookupOrInsert [.increment 5, .seed 5, .increment 5] [0, 0]
  have hkey : Holds s.table.slots 5 := ⟨home 2 5, by decide⟩
  have hstart : s.calls[2]? = some (Call.start 2 (.increment 5)) := by decide
  obtain ⟨phase, hcall, hend⟩ := h.2.2.2.2.2 5 2 [2, 2] hkey hstart
  refine ⟨by decide, by decide, by decide, by decide, h.1, hkey, hstart, ?_⟩
  rcases hend with ⟨_, _, _, hlt⟩ | ⟨i, rfl, _⟩ | ⟨value, rfl⟩
  · exact absurd hlt (by decide)
  · have hadded : ∀ i, (s.run [2, 2]).calls[2]? ≠ some ⟨.increment 5, .adding i false⟩ := by
      decide
    exact absurd hcall (hadded i)
  · exact ⟨value, hcall⟩

end Atomic.System

end SourceTally
