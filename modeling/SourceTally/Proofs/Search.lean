import Mathlib.Data.Nat.ModEq
import SourceTally.Table.Basic

/-!
# Where keys are placed and what a search shows

The slots of a table are searched for a key in a fixed order that starts at the key's home slot.
`Placed` says that every key lies on its own search path with no gap before it. As long as that
holds, a search that meets an empty slot has shown that the key is absent. The predicates here are
about slots alone, so that they serve whole operations and single steps alike.

## Main definitions

* `after`, `place`: the slot that is searched after a given number of others
* `Holds`, `FullOfOthers`: a key is in some slot; every slot is taken by another key
* `Passed`: a search has gone by some slots without meeting its key
* `Placed`: the invariant of the slots
* `Probe.Shows`: what the end of a search says about the slots
-/

namespace SourceTally

variable {N : Nat}

theorem get_set_slot (slots : Vector Slot N) (i j : Fin N) (s : Slot) :
    (slots.set i s i.isLt).get j = if i = j then s else slots.get j := by
  show (slots.set i s i.isLt)[j.val] = if i = j then s else slots[j.val]
  rw [Vector.getElem_set]
  simp only [Fin.ext_iff]

theorem get_replicate_slot (s : Slot) (i : Fin N) : (Vector.replicate N s).get i = s :=
  Vector.getElem_replicate i.isLt

theorem key_set_count (slots : Vector Slot N) (i j : Fin N) (count : UInt64) :
    ((slots.set i { slots.get i with count } i.isLt).get j).key = (slots.get j).key := by
  rw [get_set_slot]
  split
  · next hij => rw [hij]
  · rfl

/-- Some slot holds the key. -/
def Holds (slots : Vector Slot N) (key : UInt32) : Prop := ∃ i : Fin N, (slots.get i).key = some key

theorem not_holds_replicate (key : UInt32) : ¬ Holds (Vector.replicate N ({} : Slot)) key := by
  rintro ⟨i, hi⟩
  rw [get_replicate_slot] at hi
  exact Option.some_ne_none key hi.symm

/-- Every slot is taken by another key. -/
def FullOfOthers (slots : Vector Slot N) (key : UInt32) : Prop :=
  ∀ i : Fin N, ∃ other, (slots.get i).key = some other ∧ other ≠ key

theorem FullOfOthers.not_holds {slots : Vector Slot N} {key : UInt32}
    (h : FullOfOthers slots key) : ¬ Holds slots key := by
  rintro ⟨i, hi⟩
  obtain ⟨other, ho, hne⟩ := h i
  exact hne (Option.some.inj (ho.symm.trans hi))

/-- The slot `d` places behind a slot, around the end of the table if need be. -/
def after (i : Fin N) (d : Nat) : Fin N := ⟨(i.val + d) % N, Nat.mod_lt _ i.pos⟩

@[simp]
theorem after_zero (i : Fin N) : after i 0 = i := Fin.ext (Nat.mod_eq_of_lt i.isLt)

@[simp]
theorem next_after (i : Fin N) (d : Nat) : next (after i d) = after i (d + 1) := by
  apply Fin.ext
  simp [next, after, Nat.add_assoc]

theorem after_inj {i : Fin N} {d e : Nat} (hd : d < N) (he : e < N)
    (h : after i d = after i e) : d = e := by
  have hmod : i.val + d ≡ i.val + e [MOD N] := congrArg Fin.val h
  -- both are below `N`, so they are equal if they are equal modulo `N`
  have hde : d % N = e % N := Nat.ModEq.add_left_cancel' _ hmod
  rwa [Nat.mod_eq_of_lt hd, Nat.mod_eq_of_lt he] at hde

theorem exists_after (i j : Fin N) : ∃ d < N, after i d = j := by
  -- from `i` to the end of the table, and from its start on to `j`
  refine ⟨(j.val + (N - i.val)) % N, Nat.mod_lt _ i.pos, Fin.ext ?_⟩
  have hi := i.isLt
  have hsum : i.val + (j.val + (N - i.val)) = j.val + N := by omega
  simp only [after, Nat.add_mod_mod, hsum, Nat.add_mod_right]
  exact Nat.mod_eq_of_lt j.isLt

variable [HasSlots N]

/-- The slot that is searched for a key after `d` others. -/
def place (key : UInt32) (d : Nat) : Fin N := after (home N key) d

theorem place_zero (key : UInt32) : place key 0 = home N key := after_zero _

theorem next_place (key : UInt32) (d : Nat) : next (place (N := N) key d) = place key (d + 1) :=
  next_after _ d

theorem exists_place (key : UInt32) (i : Fin N) : ∃ d < N, place key d = i := exists_after _ i

/-- The first `d` slots on the search path of a key are taken by other keys. -/
def Passed (slots : Vector Slot N) (key : UInt32) (d : Nat) : Prop :=
  ∀ e < d, ∃ other, (slots.get (place (N := N) key e)).key = some other ∧ other ≠ key

theorem passed_zero (slots : Vector Slot N) (key : UInt32) : Passed slots key 0 :=
  fun _ he => absurd he (Nat.not_lt_zero _)

theorem Passed.succ {slots : Vector Slot N} {key other : UInt32} {d : Nat}
    (h : Passed slots key d) (hkey : (slots.get (place (N := N) key d)).key = some other)
    (hne : other ≠ key) : Passed slots key (d + 1) := by
  intro e he
  rcases Nat.lt_succ_iff_lt_or_eq.1 he with hlt | rfl
  · exact h e hlt
  · exact ⟨other, hkey, hne⟩

theorem Passed.fullOfOthers {slots : Vector Slot N} {key : UInt32} (h : Passed slots key N) :
    FullOfOthers slots key := by
  intro i
  obtain ⟨d, hd, rfl⟩ := exists_place key i
  exact h d hd

/-- No key is in two slots, the slots before a key on its search path are taken, and an empty slot
has counted nothing. -/
structure Placed (slots : Vector Slot N) : Prop where
  unique : ∀ (i j : Fin N) (key : UInt32),
    (slots.get i).key = some key → (slots.get j).key = some key → i = j
  path : ∀ (key : UInt32) (d : Nat), d < N → (slots.get (place (N := N) key d)).key = some key →
    ∀ e < d, (slots.get (place (N := N) key e)).key ≠ none
  zero : ∀ i : Fin N, (slots.get i).key = none → (slots.get i).count = 0

namespace Placed

variable {slots : Vector Slot N} {key : UInt32} {d : Nat}

theorem replicate : Placed (Vector.replicate N ({} : Slot)) where
  unique i j key h := absurd ⟨i, h⟩ (not_holds_replicate key)
  path key d _ h := absurd ⟨place key d, h⟩ (not_holds_replicate key)
  zero i _ := by rw [get_replicate_slot]

/-- A search that meets an empty slot has shown that its key is absent. -/
theorem not_holds_of_empty (h : Placed slots) (hd : d < N) (hpassed : Passed slots key d)
    (hempty : (slots.get (place (N := N) key d)).key = none) : ¬ Holds slots key := by
  rintro ⟨i, hi⟩
  obtain ⟨e, he, rfl⟩ := exists_place key i
  rcases Nat.lt_trichotomy e d with hlt | rfl | hgt
  · -- passed already, and not seen there
    obtain ⟨other, ho, hne⟩ := hpassed e hlt
    exact hne (Option.some.inj (ho.symm.trans hi))
  · exact Option.some_ne_none key (hi.symm.trans hempty)
  · -- the empty slot would be a gap before it
    exact h.path key e he hi d hgt hempty

/-- Putting a key into the first empty slot on its search path. -/
theorem set_key (h : Placed slots) (hd : d < N) (hpassed : Passed slots key d)
    (hempty : (slots.get (place (N := N) key d)).key = none) (count : UInt64) :
    Placed (slots.set (place (N := N) key d) ⟨some key, count⟩ (place (N := N) key d).isLt) := by
  have habsent := h.not_holds_of_empty hd hpassed hempty
  constructor
  · intro i j k hi hj
    rw [get_set_slot] at hi hj
    by_cases hip : place key d = i
    · by_cases hjp : place key d = j
      · exact hip.symm.trans hjp
      · -- the key would have been there before
        rw [if_pos hip] at hi
        rw [if_neg hjp] at hj
        exact absurd ⟨j, Option.some.inj hi ▸ hj⟩ habsent
    · by_cases hjp : place key d = j
      · rw [if_neg hip] at hi
        rw [if_pos hjp] at hj
        exact absurd ⟨i, Option.some.inj hj ▸ hi⟩ habsent
      · rw [if_neg hip] at hi
        rw [if_neg hjp] at hj
        exact h.unique i j k hi hj
  · intro k c hc hk e he
    rw [get_set_slot] at hk ⊢
    by_cases hep : place key d = place (N := N) k e
    · rw [if_pos hep]
      exact Option.some_ne_none key
    · rw [if_neg hep]
      by_cases hcp : place key d = place (N := N) k c
      · -- the new key: its path was passed up to here
        rw [if_pos hcp] at hk
        obtain rfl : key = k := Option.some.inj hk
        obtain rfl : d = c := after_inj hd hc hcp
        obtain ⟨other, ho, _⟩ := hpassed e he
        rw [ho]
        exact Option.some_ne_none other
      · rw [if_neg hcp] at hk
        exact h.path k c hc hk e he
  · intro i hi
    rw [get_set_slot] at hi ⊢
    by_cases hip : place key d = i
    · rw [if_pos hip] at hi
      exact absurd hi (Option.some_ne_none key)
    · rw [if_neg hip] at hi ⊢
      exact h.zero i hi

/-- Changing the counter of a slot that is taken. -/
theorem set_count {i : Fin N} (h : Placed slots) (hi : (slots.get i).key = some key)
    (count : UInt64) : Placed (slots.set i { slots.get i with count } i.isLt) := by
  constructor
  · intro a b k ha hb
    rw [key_set_count] at ha hb
    exact h.unique a b k ha hb
  · intro k c hc hk e he
    rw [key_set_count] at hk ⊢
    exact h.path k c hc hk e he
  · intro j hj
    rw [key_set_count] at hj
    have hij : i ≠ j := by
      rintro rfl
      exact Option.some_ne_none key (hi.symm.trans hj)
    rw [get_set_slot, if_neg hij]
    exact h.zero j hj

end Placed

/-- What the end of a search for a key says about the slots. -/
def Probe.Shows (slots : Vector Slot N) (key : UInt32) : Probe N → Prop
  | .found i => (slots.get i).key = some key
  | .vacant i => ∃ d < N, i = place key d ∧ Passed slots key d ∧ (slots.get i).key = none
  | .exhausted => FullOfOthers slots key

namespace CountingTable

theorem probeFrom_shows {slots : Vector Slot N} {key : UInt32} {steps d : Nat}
    (hsum : d + steps = N) (hpassed : Passed slots key d) :
    (probeFrom slots key steps (place key d)).Shows slots key := by
  -- `d` slots have been passed and `steps` are left, `N` of them together
  induction steps generalizing d with
  | zero =>
    obtain rfl : d = N := hsum
    exact hpassed.fullOfOthers
  | succ steps ih =>
    rw [probeFrom]
    cases hkey : (slots.get (place (N := N) key d)).key with
    | none => exact ⟨d, by omega, rfl, hpassed, hkey⟩
    | some k =>
      by_cases hk : k = key
      · subst hk
        simp only [if_pos]
        exact hkey
      · simp only [if_neg hk, next_place]
        exact ih (by omega) (hpassed.succ hkey hk)

theorem probe_shows (t : CountingTable N) (key : UInt32) :
    (t.probe key).Shows t.slots key := by
  have h := probeFrom_shows (Nat.zero_add N) (passed_zero t.slots key)
  rwa [place_zero] at h

/-- With all keys in their places, a search finds a key exactly where it is. -/
theorem probe_eq_found_iff {t : CountingTable N} (h : Placed t.slots) {key : UInt32} {i : Fin N} :
    t.probe key = .found i ↔ (t.slots.get i).key = some key := by
  have hshows := t.probe_shows key
  constructor
  · intro hp
    rwa [hp] at hshows
  · intro hi
    cases hp : t.probe key with
    | found j =>
      rw [hp] at hshows
      rw [h.unique i j key hi hshows]
    | vacant j =>
      rw [hp] at hshows
      obtain ⟨d, hd, rfl, hpassed, hempty⟩ := hshows
      exact absurd ⟨i, hi⟩ (h.not_holds_of_empty hd hpassed hempty)
    | exhausted =>
      rw [hp] at hshows
      exact absurd ⟨i, hi⟩ hshows.not_holds

end CountingTable

end SourceTally
