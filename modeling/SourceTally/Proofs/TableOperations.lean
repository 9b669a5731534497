import Mathlib.Data.List.Nodup
import SourceTally.Proofs.Search

/-!
# What the operations of a counting table do

Whether an operation finds its key, takes a slot for it or is refused depends on two things only:
the count of the key, if it has one, and the number of keys. The lemmas here say so for `seed` and
`increment`, and say what becomes of the counts; the slots do not show in them.

## Main definitions

* `taken`: number of slots that are taken
* `CountingTable.Sound`: all keys are in their places and are counted by `size`
* `CountingTable.Sets`: one table is another with the count of one key set
-/

namespace SourceTally

variable {N : Nat}

/-- Number of slots that are taken. -/
def taken (slots : Vector Slot N) : Nat := slots.countP (·.key.isSome)

theorem taken_replicate : taken (Vector.replicate N ({} : Slot)) = 0 := by
  simp [taken, Vector.countP_replicate]

theorem taken_le (slots : Vector Slot N) : taken slots ≤ N := Vector.countP_le_size

theorem taken_set (slots : Vector Slot N) (i : Fin N) (s : Slot) :
    taken (slots.set i s i.isLt) =
      taken slots - (if (slots.get i).key.isSome then 1 else 0) + if s.key.isSome then 1 else 0 :=
  Vector.countP_set i.isLt

theorem taken_set_key {slots : Vector Slot N} {i : Fin N} (h : (slots.get i).key = none)
    (key : UInt32) (count : UInt64) :
    taken (slots.set i ⟨some key, count⟩ i.isLt) = taken slots + 1 := by
  rw [taken_set, h]
  rfl

theorem taken_set_count {slots : Vector Slot N} {i : Fin N} {key : UInt32}
    (h : (slots.get i).key = some key) (count : UInt64) :
    taken (slots.set i { slots.get i with count } i.isLt) = taken slots := by
  have hpos : 0 < taken slots :=
    Vector.countP_pos_iff.2 ⟨slots.get i, Vector.getElem_mem i.isLt, by rw [h]; rfl⟩
  rw [taken_set, h]
  exact Nat.sub_add_cancel hpos

theorem taken_eq_iff {slots : Vector Slot N} :
    taken slots = N ↔ ∀ i : Fin N, (slots.get i).key ≠ none := by
  rw [taken, Vector.countP_eq_size]
  constructor
  · intro h i hi
    exact Option.isSome_iff_ne_none.1 (h (slots.get i) (Vector.getElem_mem i.isLt)) hi
  · intro h s hs
    obtain ⟨i, hi, rfl⟩ := Vector.getElem_of_mem hs
    exact Option.isSome_iff_ne_none.2 (h ⟨i, hi⟩)

theorem FullOfOthers.taken_eq {slots : Vector Slot N} {key : UInt32}
    (h : FullOfOthers slots key) : taken slots = N := by
  rw [taken_eq_iff]
  intro i
  obtain ⟨other, ho, _⟩ := h i
  rw [ho]
  exact Option.some_ne_none other

namespace CountingTable

theorem mem_entries {t : CountingTable N} {key : UInt32} {count : UInt64} :
    (key, count) ∈ t.entries ↔
      ∃ i : Fin N, (t.slots.get i).key = some key ∧ (t.slots.get i).count = count := by
  simp only [entries, List.mem_filterMap, Option.map_eq_some_iff, Prod.mk.injEq]
  constructor
  · rintro ⟨s, hs, k, hk, rfl, rfl⟩
    obtain ⟨i, hi, rfl⟩ := Vector.getElem_of_mem (Vector.mem_toList_iff.1 hs)
    exact ⟨⟨i, hi⟩, hk, rfl⟩
  · rintro ⟨i, hk, hc⟩
    exact ⟨t.slots.get i, Vector.mem_toList_iff.2 (Vector.getElem_mem i.isLt), key, hk, rfl, hc⟩

theorem length_entries (t : CountingTable N) : t.entries.length = taken t.slots := by
  rw [entries, List.length_filterMap_eq_countP, taken, ← Vector.countP_toList]
  simp

variable [HasSlots N]

theorem nodup_keys_entries {t : CountingTable N} (h : Placed t.slots) :
    (t.entries.map Prod.fst).Nodup := by
  rw [List.Nodup, List.pairwise_map, entries, List.pairwise_filterMap, List.pairwise_iff_getElem]
  intro i j hi hj hij a ha b hb heq
  obtain ⟨k, hk, rfl⟩ := Option.map_eq_some_iff.1 ha
  obtain ⟨k', hk', rfl⟩ := Option.map_eq_some_iff.1 hb
  obtain rfl : k = k' := heq
  rw [Vector.length_toList] at hi hj
  rw [Vector.getElem_toList] at hk hk'
  -- two entries of one key come from one slot
  have hsame := h.unique ⟨i, hi⟩ ⟨j, hj⟩ k hk hk'
  exact absurd (congrArg Fin.val hsame) (Nat.ne_of_lt hij)

/-- All keys are in their places, and `size` is their number. -/
structure Sound (t : CountingTable N) : Prop where
  placed : Placed t.slots
  size_eq : t.size = taken t.slots

theorem sound_empty (policy : InsertPolicy) : (empty N policy).Sound :=
  ⟨Placed.replicate, taken_replicate.symm⟩

variable {t : CountingTable N}

theorem get?_eq_some_iff (h : Placed t.slots) {key : UInt32} {count : UInt64} :
    t.get? key = some count ↔
      ∃ i : Fin N, (t.slots.get i).key = some key ∧ (t.slots.get i).count = count := by
  rw [get?]
  constructor
  · intro hget
    split at hget
    · next i hp => exact ⟨i, (probe_eq_found_iff h).1 hp, Option.some.inj hget⟩
    · exact absurd hget (Option.some_ne_none count).symm
  · rintro ⟨i, hkey, rfl⟩
    rw [(probe_eq_found_iff h).2 hkey]

theorem get?_eq_none_iff (h : Placed t.slots) {key : UInt32} :
    t.get? key = none ↔ ¬ Holds t.slots key := by
  constructor
  · rintro hget ⟨i, hi⟩
    have hsome := (get?_eq_some_iff h).2 ⟨i, hi, rfl⟩
    exact Option.some_ne_none _ (hsome.symm.trans hget)
  · intro habsent
    cases hget : t.get? key with
    | none => rfl
    | some count =>
      obtain ⟨i, hi, _⟩ := (get?_eq_some_iff h).1 hget
      exact absurd ⟨i, hi⟩ habsent

theorem contains_eq (t : CountingTable N) (key : UInt32) :
    t.contains key = (t.get? key).isSome := by
  unfold contains get?
  cases t.probe key <;> rfl

/-- The second table is the first with the count of one key set. -/
structure Sets (t t' : CountingTable N) (key : UInt32) (count : UInt64) : Prop where
  sound : t'.Sound
  policy : t'.policy = t.policy
  size_eq : t'.size = if (t.get? key).isSome then t.size else t.size + 1
  get?_eq : ∀ k, t'.get? k = if k = key then some count else t.get? k

/-- The counts after a slot has been written, given which keys the other slots hold. -/
theorem get?_set {t t' : CountingTable N} {i : Fin N} {key : UInt32} {count : UInt64}
    (h : Placed t.slots) (h' : Placed t'.slots)
    (hslots : t'.slots = t.slots.set i ⟨some key, count⟩ i.isLt)
    (hold : ∀ k, (t.slots.get i).key = some k → k = key) (k : UInt32) :
    t'.get? k = if k = key then some count else t.get? k := by
  have hi : (t'.slots.get i) = ⟨some key, count⟩ := by rw [hslots, get_set_slot, if_pos rfl]
  have hother : ∀ j, i ≠ j → (t'.slots.get j) = (t.slots.get j) := fun j hij => by
    rw [hslots, get_set_slot, if_neg hij]
  split
  · next hk =>
    subst hk
    exact (get?_eq_some_iff h').2 ⟨i, by rw [hi], by rw [hi]⟩
  · next hk =>
    -- another key was not in slot `i` and is not there now, and the other slots have not changed
    ext c
    rw [get?_eq_some_iff h', get?_eq_some_iff h]
    constructor
    · rintro ⟨j, hj, hc⟩
      have hij : i ≠ j := by
        rintro rfl
        rw [hi] at hj
        exact hk (Option.some.inj hj).symm
      rw [hother j hij] at hj hc
      exact ⟨j, hj, hc⟩
    · rintro ⟨j, hj, hc⟩
      have hij : i ≠ j := by
        rintro rfl
        exact hk (hold k hj)
      exact ⟨j, by rw [hother j hij]; exact hj, by rw [hother j hij]; exact hc⟩

theorem Sound.sets_put (h : t.Sound) {key : UInt32} {d : Nat} (hd : d < N)
    (hpassed : Passed t.slots key d) (hempty : (t.slots.get (place (N := N) key d)).key = none)
    (count : UInt64) : t.Sets (t.put (place key d) key count) key count := by
  have hplaced := h.placed.set_key hd hpassed hempty count
  have habsent := h.placed.not_holds_of_empty hd hpassed hempty
  refine ⟨⟨hplaced, ?_⟩, rfl, ?_, ?_⟩
  · simp only [put, taken_set_key hempty, h.size_eq]
  · rw [(get?_eq_none_iff h.placed).2 habsent]
    rfl
  · refine get?_set h.placed hplaced rfl fun k hk => ?_
    exact absurd (hk.symm.trans hempty) (Option.some_ne_none k)

theorem Sound.sets_bump (h : t.Sound) {key : UInt32} {i : Fin N}
    (hi : (t.slots.get i).key = some key) : t.Sets (t.bump i) key ((t.slots.get i).count + 1) := by
  have hplaced := h.placed.set_count hi ((t.slots.get i).count + 1)
  have hget := (get?_eq_some_iff h.placed).2 ⟨i, hi, rfl⟩
  refine ⟨⟨hplaced, ?_⟩, rfl, ?_, ?_⟩
  · simp only [bump, taken_set_count hi, h.size_eq]
  · rw [hget]
    rfl
  · refine get?_set h.placed hplaced ?_ fun k hk => Option.some.inj (hk.symm.trans hi)
    simp only [bump, hi]

/-! ### Seeding -/

theorem Sound.seed_of_some (h : t.Sound) {key : UInt32} {count : UInt64}
    (hget : t.get? key = some count) : t.seed key = .ok t := by
  obtain ⟨i, hi, _⟩ := (get?_eq_some_iff h.placed).1 hget
  rw [seed, (probe_eq_found_iff h.placed).2 hi]

theorem Sound.size_le (h : t.Sound) : t.size ≤ N := by
  rw [h.size_eq]
  exact taken_le t.slots

theorem Sound.size_lt_iff (h : t.Sound) :
    t.size < N ↔ ∃ i : Fin N, (t.slots.get i).key = none := by
  have hle := taken_le t.slots
  have hfull : taken t.slots = N ↔ _ := taken_eq_iff
  rw [h.size_eq]
  constructor
  · intro hlt
    by_contra hnone
    push Not at hnone
    exact absurd (hfull.2 hnone) (Nat.ne_of_lt hlt)
  · rintro ⟨i, hi⟩
    exact Nat.lt_of_le_of_ne hle fun heq => hfull.1 heq i hi

/-- A search for an absent key ends at a free slot while there is one, and else has seen all. -/
theorem Sound.probe_of_none (h : t.Sound) {key : UInt32} (hget : t.get? key = none) :
    (t.size < N ∧ ∃ d < N, t.probe key = .vacant (place key d) ∧ Passed t.slots key d ∧
      (t.slots.get (place (N := N) key d)).key = none) ∨
    (t.size = N ∧ t.probe key = .exhausted) := by
  have hshows := t.probe_shows key
  cases hp : t.probe key with
  | found i =>
    have hi := (probe_eq_found_iff h.placed).1 hp
    exact absurd ⟨i, hi⟩ ((get?_eq_none_iff h.placed).1 hget)
  | vacant i =>
    rw [hp] at hshows
    obtain ⟨d, hd, rfl, hpassed, hempty⟩ := hshows
    exact .inl ⟨h.size_lt_iff.2 ⟨_, hempty⟩, d, hd, rfl, hpassed, hempty⟩
  | exhausted =>
    rw [hp] at hshows
    exact .inr ⟨h.size_eq.trans hshows.taken_eq, rfl⟩

theorem Sound.seed_of_room (h : t.Sound) {key : UInt32} (hget : t.get? key = none)
    (hroom : t.size < N) : ∃ t', t.seed key = .ok t' ∧ t.Sets t' key 0 := by
  rcases h.probe_of_none hget with ⟨_, d, hd, hp, hpassed, hempty⟩ | ⟨hfull, _⟩
  · exact ⟨_, by rw [seed, hp], h.sets_put hd hpassed hempty 0⟩
  · exact absurd hfull (Nat.ne_of_lt hroom)

theorem Sound.seed_of_full (h : t.Sound) {key : UInt32} (hget : t.get? key = none)
    (hfull : t.size = N) : t.seed key = .error ⟨N⟩ := by
  rcases h.probe_of_none hget with ⟨hroom, _⟩ | ⟨_, hp⟩
  · exact absurd hfull (Nat.ne_of_lt hroom)
  · rw [seed, hp]

/-! ### Counting -/

theorem Sound.increment_of_some (h : t.Sound) {key : UInt32} {count : UInt64}
    (hget : t.get? key = some count) :
    ∃ t', t.increment key = (.updated (count + 1), t') ∧ t.Sets t' key (count + 1) := by
  obtain ⟨i, hi, rfl⟩ := (get?_eq_some_iff h.placed).1 hget
  exact ⟨t.bump i, by rw [increment, (probe_eq_found_iff h.placed).2 hi], h.sets_bump hi⟩

theorem Sound.increment_of_room (h : t.Sound) {key : UInt32} (hget : t.get? key = none)
    (hpolicy : t.policy = .lookupOrInsert) (hroom : t.size < N) :
    ∃ t', t.increment key = (.inserted, t') ∧ t.Sets t' key 1 := by
  rcases h.probe_of_none hget with ⟨_, d, hd, hp, hpassed, hempty⟩ | ⟨hfull, _⟩
  · exact ⟨_, by simp only [increment, hp, hpolicy], h.sets_put hd hpassed hempty 1⟩
  · exact absurd hfull (Nat.ne_of_lt hroom)

/-- A key that is absent and may not be inserted, or finds no room, is not counted. -/
theorem Sound.increment_of_refused (h : t.Sound) {key : UInt32} (hget : t.get? key = none)
    (hrefused : t.policy = .lookupOnly ∨ t.size = N) : t.increment key = (.notFound, t) := by
  rcases h.probe_of_none hget with ⟨hroom, d, hd, hp, _⟩ | ⟨_, hp⟩
  · rcases hrefused with hpolicy | hfull
    · simp only [increment, hp, hpolicy]
    · exact absurd hfull (Nat.ne_of_lt hroom)
  · simp only [increment, hp]

end CountingTable

end SourceTally
