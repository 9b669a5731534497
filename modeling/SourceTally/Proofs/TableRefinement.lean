import Mathlib.Data.List.Forall2
import Mathlib.Data.List.Perm.Basic
import SourceTally.Proofs.TableOperations
import SourceTally.Table.Model

/-!
# A counting table is a bounded map

Whatever is asked of a counting table, in whatever order, the answers are those of a plain map that
holds a bounded number of keys. The hash, the search order and the place of a key show nowhere but
in the order of a listing.

## Main definitions

* `Represents`: a table and a map hold the same keys with the same counts

## Main statements

* `Represents.serve`: one request keeps table and map together
* `CountingTable.serveAll_agrees`: so does every sequence of requests on an empty table
-/

namespace SourceTally

variable {N : Nat} [HasSlots N]

/-- A table lists the entries of a ledger with the same counts, in some order. -/
theorem CountingTable.Sound.entries_perm_ledger {t : CountingTable N} (h : t.Sound)
    {ledger : Ledger UInt32 UInt64} (hget : ∀ key, t.get? key = ledger.get? key) :
    t.entries.Perm ledger.entries := by
  have hnodup := (nodup_keys_entries h.placed).of_map
  -- neither listing repeats a key, so it is enough that they have the same entries
  rw [List.perm_ext_iff_of_nodup hnodup ledger.nodup_entries]
  rintro ⟨key, count⟩
  rw [mem_entries, ← get?_eq_some_iff h.placed, hget, Ledger.get?_eq_some_iff]

/-- A table and a map have the same policy and hold the same keys with the same counts. -/
structure Represents (t : CountingTable N) (m : BoundedCounts N) : Prop where
  sound : t.Sound
  policy : t.policy = m.policy
  get?_eq : ∀ key, t.get? key = m.counts.get? key

namespace Represents

variable {t t' : CountingTable N} {m : BoundedCounts N}

theorem empty (policy : InsertPolicy) :
    Represents (CountingTable.empty N policy) (BoundedCounts.empty N policy) where
  sound := CountingTable.sound_empty policy
  policy := rfl
  get?_eq key := by
    rw [(CountingTable.get?_eq_none_iff Placed.replicate).2 (not_holds_replicate key)]
    rfl

theorem entries_perm (h : Represents t m) : t.entries.Perm m.counts.entries :=
  h.sound.entries_perm_ledger h.get?_eq

theorem size_eq (h : Represents t m) : t.size = m.counts.size := by
  rw [h.sound.size_eq, ← t.length_entries]
  exact h.entries_perm.length_eq

theorem size_eq_of_no_room (h : Represents t m) (hroom : ¬ m.counts.size < N) : t.size = N := by
  have hle := m.bounded
  have hsize := h.size_eq
  omega

/-- Setting the count of a key in both keeps them together. -/
theorem sets {m' : BoundedCounts N} {key : UInt32} {count : UInt64} (h : Represents t m)
    (hsets : t.Sets t' key count) (hpolicy : m'.policy = m.policy)
    (hcounts : m'.counts = m.counts.put key count) : Represents t' m' where
  sound := hsets.sound
  policy := hsets.policy.trans (h.policy.trans hpolicy.symm)
  get?_eq k := by
    rw [hsets.get?_eq, hcounts]
    split
    · next hk => rw [hk, Ledger.get?_put_self]
    · next hk => rw [Ledger.get?_put_of_ne _ _ (Ne.symm hk), h.get?_eq]

theorem serve_seed (h : Represents t m) (key : UInt32) :
    (t.serve (.seed key)).1.Agrees (m.serve (.seed key)).1 ∧
      Represents (t.serve (.seed key)).2 (m.serve (.seed key)).2 := by
  simp only [BoundedCounts.serve]
  split
  · next count hknown =>
    have hseed := h.sound.seed_of_some ((h.get?_eq key).trans hknown)
    simp only [CountingTable.serve, hseed]
    exact ⟨rfl, h⟩
  · next hknown =>
    have hget := (h.get?_eq key).trans hknown
    split
    · next hroom =>
      obtain ⟨t', hseed, hsets⟩ := h.sound.seed_of_room hget (h.size_eq ▸ hroom)
      simp only [CountingTable.serve, hseed]
      exact ⟨rfl, h.sets hsets rfl rfl⟩
    · next hroom =>
      have hseed := h.sound.seed_of_full hget (h.size_eq_of_no_room hroom)
      simp only [CountingTable.serve, hseed]
      exact ⟨rfl, h⟩

theorem serve_increment (h : Represents t m) (key : UInt32) :
    (t.serve (.increment key)).1.Agrees (m.serve (.increment key)).1 ∧
      Represents (t.serve (.increment key)).2 (m.serve (.increment key)).2 := by
  simp only [BoundedCounts.serve]
  split
  · next count hknown =>
    obtain ⟨t', hinc, hsets⟩ := h.sound.increment_of_some ((h.get?_eq key).trans hknown)
    simp only [CountingTable.serve, hinc]
    exact ⟨rfl, h.sets hsets rfl rfl⟩
  · next hknown =>
    have hget := (h.get?_eq key).trans hknown
    split
    · next hpolicy =>
      have hinc := h.sound.increment_of_refused hget (.inl (h.policy.trans hpolicy))
      simp only [CountingTable.serve, hinc]
      exact ⟨rfl, h⟩
    · next hpolicy =>
      split
      · next hroom =>
        obtain ⟨t', hinc, hsets⟩ := h.sound.increment_of_room hget (h.policy.trans hpolicy)
          (h.size_eq ▸ hroom)
        simp only [CountingTable.serve, hinc]
        exact ⟨rfl, h.sets hsets rfl rfl⟩
      · next hroom =>
        have hinc := h.sound.increment_of_refused hget (.inr (h.size_eq_of_no_room hroom))
        simp only [CountingTable.serve, hinc]
        exact ⟨rfl, h⟩

/-- One request: the answers agree, and table and map stay together. -/
theorem serve (h : Represents t m) (request : TableRequest) :
    (t.serve request).1.Agrees (m.serve request).1 ∧
      Represents (t.serve request).2 (m.serve request).2 := by
  cases request with
  | seed key => exact h.serve_seed key
  | increment key => exact h.serve_increment key
  | get key => exact ⟨congrArg TableAnswer.count (h.get?_eq key), h⟩
  | contains key =>
    refine ⟨congrArg TableAnswer.flag ?_, h⟩
    rw [t.contains_eq, h.get?_eq, Ledger.contains]
  | size => exact ⟨congrArg TableAnswer.number h.size_eq, h⟩
  | isEmpty =>
    refine ⟨congrArg TableAnswer.flag ?_, h⟩
    rw [CountingTable.isEmpty, h.size_eq, Bool.eq_iff_iff]
    simp [Ledger.size, Ledger.isEmpty]
  | entries => exact ⟨h.entries_perm, h⟩

theorem serveAll (h : Represents t m) (requests : List TableRequest) :
    List.Forall₂ TableAnswer.Agrees (t.serveAll requests).1 (m.serveAll requests).1 ∧
      Represents (t.serveAll requests).2 (m.serveAll requests).2 := by
  induction requests generalizing t m with
  | nil => exact ⟨.nil, h⟩
  | cons request rest ih =>
    obtain ⟨hanswer, hnext⟩ := h.serve request
    obtain ⟨hanswers, hlast⟩ := ih hnext
    exact ⟨.cons hanswer hanswers, hlast⟩

end Represents

/-- A request changes the count of no key but the one that it names. -/
theorem BoundedCounts.get?_serve_of_ne {capacity : Nat} (m : BoundedCounts capacity)
    {request : TableRequest} {other : UInt32} (hother : request.written? ≠ some other) :
    (m.serve request).2.counts.get? other = m.counts.get? other := by
  have hput : ∀ key count, request.written? = some key →
      (m.counts.put key count).get? other = m.counts.get? other := by
    intro key count hkey
    exact Ledger.get?_put_of_ne _ _ fun heq => hother (hkey.trans (congrArg some heq))
  cases request with
  | seed key =>
    simp only [serve]
    split
    · rfl
    · split
      · exact hput key 0 rfl
      · rfl
  | increment key =>
    simp only [serve]
    split
    · exact hput key _ rfl
    · split
      · rfl
      · split
        · exact hput key 1 rfl
        · rfl
  | _ => rfl

/-- For every capacity, policy and sequence of requests, an empty table answers as an empty map does
and ends with the same keys and counts. One request more changes no other key. -/
theorem CountingTable.serveAll_agrees (N : Nat) [HasSlots N] (policy : InsertPolicy)
    (requests : List TableRequest) :
    let (answers, t) := (CountingTable.empty N policy).serveAll requests
    let (expected, m) := (BoundedCounts.empty N policy).serveAll requests
    List.Forall₂ TableAnswer.Agrees answers expected ∧
      t.policy = m.policy ∧ t.size = m.counts.size ∧
      t.entries.Perm m.counts.entries ∧ (t.entries.map Prod.fst).Nodup ∧
      (∀ key, t.get? key = m.counts.get? key) ∧
      ∀ (request : TableRequest) (other : UInt32), request.written? ≠ some other →
        (t.serve request).2.get? other = t.get? other := by
  obtain ⟨hanswers, h⟩ := (Represents.empty (N := N) policy).serveAll requests
  refine ⟨hanswers, h.policy, h.size_eq, h.entries_perm, nodup_keys_entries h.sound.placed,
    h.get?_eq, ?_⟩
  intro request other hother
  rw [(h.serve request).2.get?_eq, BoundedCounts.get?_serve_of_ne _ hother, h.get?_eq]

/-- Two slots and three keys: the third key is refused, and the answers are still those of a map. -/
theorem CountingTable.serveAll_agrees_two :
    (2 ≠ 0) ∧
      let requests : List TableRequest :=
        [.increment 5, .increment 5, .seed 6, .increment 7, .seed 7, .size, .entries]
      let table := (CountingTable.empty 2 .lookupOrInsert).serveAll requests
      let counts := (BoundedCounts.empty 2 .lookupOrInsert).serveAll requests
      List.Forall₂ TableAnswer.Agrees table.1 counts.1 ∧
        counts.2.counts.entries = [(5, 2), (6, 0)] ∧ table.2.entries.Perm [(5, 2), (6, 0)] := by
  have h := CountingTable.serveAll_agrees 2 .lookupOrInsert
    [.increment 5, .increment 5, .seed 6, .increment 7, .seed 7, .size, .entries]
  exact ⟨by decide, h.1, by decide, h.2.2.2.1⟩

end SourceTally
