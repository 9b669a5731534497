import SourceTally.Proofs.PlaneTable

/-!
# The size and the total of a snapshot

A snapshot sums up its counts in a word. Counting a source raises this total by one, unless the
source is refused, and raises the number of addresses by one if the source is new. Counts and totals
may wrap around, but they do so together.

## Main definitions

* `entryTotal`, `Ledger.total`: the sum of all values, as a number that does not wrap around
* `CountingTable.Accounts`: what the answer to counting a key says about the table

## Main statements

* `CountingTable.Sets.total_add`: the total after the count of one key has been set
* `CountingTable.Sound.increment_accounts`: counting a key raises size and total as it answers
* `Plane.total_snapshot`, `Plane.size_snapshot`: what a snapshot shows of the table
-/

namespace SourceTally

/-- A count that goes up by one takes the total with it. -/
theorem eq_add_one_of_add_eq {total total' count : UInt64}
    (h : total' + count = total + (count + 1)) : total' = total + 1 := by
  rwa [UInt64.add_comm count, ← UInt64.add_assoc, UInt64.add_left_inj] at h

/-- Sum of the values of entries. -/
def entryTotal {κ : Type} (entries : List (κ × UInt64)) : Nat :=
  entries.foldr (fun entry total => entry.2.toNat + total) 0

section EntryTotal

variable {κ : Type} {entries entries' : List (κ × UInt64)}

theorem entryTotal_cons (key : κ) (value : UInt64) (entries : List (κ × UInt64)) :
    entryTotal ((key, value) :: entries) = value.toNat + entryTotal entries := rfl

theorem entryTotal_eq_of_perm (h : entries.Perm entries') :
    entryTotal entries = entryTotal entries' := by
  induction h with
  | nil => rfl
  | cons entry _ ih => exact congrArg (entry.2.toNat + ·) ih
  | swap entry other rest =>
    simp only [entryTotal, List.foldr_cons]
    omega
  | trans _ _ ih ih' => exact ih.trans ih'

theorem entryTotal_eq_zero (h : ∀ entry ∈ entries, entry.2 = 0) : entryTotal entries = 0 := by
  induction entries with
  | nil => rfl
  | cons entry rest ih =>
    obtain ⟨hentry, hrest⟩ := List.forall_mem_cons.1 h
    rw [entryTotal_cons, hentry, ih hrest]
    rfl

end EntryTotal

namespace Ledger

variable {κ : Type} [LT κ]

/-- Sum of all values. -/
def total (ledger : Ledger κ UInt64) : Nat := entryTotal ledger.entries

variable [DecidableEq κ] [LE κ] [Std.LawfulOrderLT κ]

/-- The value of a key, and the rest of the total. -/
theorem total_eq (ledger : Ledger κ UInt64) (key : κ) :
    ledger.total = ((ledger.get? key).getD 0).toNat + entryTotal (ledger.others key) := by
  cases hget : ledger.get? key with
  | none =>
    rw [others_of_none hget, Option.getD_none, UInt64.toNat_zero, Nat.zero_add]
    rfl
  | some value => exact entryTotal_eq_of_perm (entries_perm hget)

theorem get?_le_total (ledger : Ledger κ UInt64) (key : κ) :
    ((ledger.get? key).getD 0).toNat ≤ ledger.total := by
  rw [ledger.total_eq key]
  exact Nat.le_add_right _ _

variable [DecidableLT κ] [Std.IsLinearOrder κ]

/-- A value that is set takes the place of the old one in the total. -/
theorem total_put (ledger : Ledger κ UInt64) (key : κ) (value : UInt64) :
    (ledger.put key value).total + ((ledger.get? key).getD 0).toNat =
      ledger.total + value.toNat := by
  have hput : (ledger.put key value).total = value.toNat + entryTotal (ledger.others key) :=
    entryTotal_eq_of_perm (ledger.entries_put_perm key value)
  have hold := ledger.total_eq key
  omega

/-- Adding one to a value adds one to the total, unless the value wraps around. -/
theorem total_put_add_one (ledger : Ledger κ UInt64) (key : κ) :
    let ledger' := ledger.put key ((ledger.get? key).getD 0 + 1)
    ledger'.total ≤ ledger.total + 1 ∧ UInt64.ofNat ledger'.total = .ofNat ledger.total + 1 := by
  intro ledger'
  have hput : ledger'.total + _ = _ := ledger.total_put key ((ledger.get? key).getD 0 + 1)
  constructor
  · have hle : ((ledger.get? key).getD 0 + 1).toNat ≤ ((ledger.get? key).getD 0).toNat + 1 := by
      rw [UInt64.toNat_add]
      exact Nat.mod_le _ _
    omega
  · have hwords := congrArg UInt64.ofNat hput
    rw [UInt64.ofNat_add, UInt64.ofNat_add, UInt64.ofNat_toNat, UInt64.ofNat_toNat] at hwords
    exact eq_add_one_of_add_eq hwords

end Ledger

variable {N : Nat} [HasSlots N]

namespace CountingTable

variable {t t' : CountingTable N} {key : UInt32} {count : UInt64}

/-- Setting a count adds the entry of the key, and takes away the one it had. -/
theorem Sets.entries_perm (hsets : t.Sets t' key count) (h : t.Sound) :
    t'.entries.Perm ((key, count) :: t.entries.filter fun e => e.1 ≠ key) := by
  have hnodup := (nodup_keys_entries h.placed).of_map
  have hnodup' := (nodup_keys_entries hsets.sound.placed).of_map
  rw [List.perm_ext_iff_of_nodup hnodup' (List.nodup_cons.2 ⟨by simp, hnodup.filter _⟩)]
  rintro ⟨k, c⟩
  rw [mem_entries, ← get?_eq_some_iff hsets.sound.placed, hsets.get?_eq, List.mem_cons,
    List.mem_filter, mem_entries, ← get?_eq_some_iff h.placed]
  by_cases hk : k = key
  · simp [hk, eq_comm]
  · simp [hk]

theorem Sound.sets_self (h : t.Sound) (hget : t.get? key = some count) : t.Sets t key count where
  sound := h
  policy := rfl
  size_eq := by rw [hget]; rfl
  get?_eq k := by
    split
    · next hk => rw [hk, hget]
    · rfl

/-- A count that is set takes the place of the old one in the total. -/
theorem Sets.total_add (hsets : t.Sets t' key count) (h : t.Sound) :
    entryTotal t'.entries + ((t.get? key).getD 0).toNat =
      entryTotal t.entries + count.toNat := by
  have hothers := entryTotal_eq_of_perm (hsets.entries_perm h)
  rw [entryTotal_cons] at hothers
  cases hget : t.get? key with
  | none =>
    have hall : (t.entries.filter fun e => e.1 ≠ key) = t.entries := by
      refine List.filter_eq_self.2 fun e he => ?_
      rw [mem_entries, ← get?_eq_some_iff h.placed] at he
      refine decide_eq_true fun hkey => ?_
      rw [hkey, hget] at he
      exact Option.some_ne_none _ he.symm
    rw [hall] at hothers
    simp only [Option.getD_none, UInt64.toNat_zero]
    omega
  | some old =>
    -- with its old count set, the table is as it was
    have hold := entryTotal_eq_of_perm ((h.sets_self hget).entries_perm h)
    rw [entryTotal_cons] at hold
    simp only [Option.getD_some]
    omega

/-- Counting a key adds to its count, inserts it, or is refused. -/
theorem Sound.increment_cases (h : t.Sound) (key : UInt32) :
    (∃ count t', t.get? key = some count ∧ t.increment key = (.updated (count + 1), t') ∧
      t.Sets t' key (count + 1)) ∨
    (∃ t', t.get? key = none ∧ t.policy = .lookupOrInsert ∧ t.increment key = (.inserted, t') ∧
      t.Sets t' key 1) ∨
    t.increment key = (.notFound, t) := by
  cases hget : t.get? key with
  | some count =>
    obtain ⟨t', hincrement, hsets⟩ := h.increment_of_some hget
    exact .inl ⟨count, t', rfl, hincrement, hsets⟩
  | none =>
    cases hpolicy : t.policy with
    | lookupOnly => exact .inr (.inr (h.increment_of_refused hget (.inl hpolicy)))
    | lookupOrInsert =>
      rcases Nat.lt_or_eq_of_le h.size_le with hroom | hfull
      · obtain ⟨t', hincrement, hsets⟩ := h.increment_of_room hget hpolicy hroom
        exact .inr (.inl ⟨t', rfl, rfl, hincrement, hsets⟩)
      · exact .inr (.inr (h.increment_of_refused hget (.inr hfull)))

/-- The total as a word. -/
theorem Sets.ofNat_total_add (hsets : t.Sets t' key count) (h : t.Sound) :
    UInt64.ofNat (entryTotal t'.entries) + (t.get? key).getD 0 =
      .ofNat (entryTotal t.entries) + count := by
  have hadd := congrArg UInt64.ofNat (hsets.total_add h)
  rwa [UInt64.ofNat_add, UInt64.ofNat_add, UInt64.ofNat_toNat, UInt64.ofNat_toNat] at hadd

/-- What an answer says about the table after a key has been counted. -/
structure Accounts (t t' : CountingTable N) (answer : Increment) : Prop where
  sound : t'.Sound
  policy : t'.policy = t.policy
  size_eq : t'.size = t.size + if answer = .inserted then 1 else 0
  total_eq : UInt64.ofNat (entryTotal t'.entries) =
    .ofNat (entryTotal t.entries) + if answer = .notFound then 0 else 1
  policy_of_inserted : answer = .inserted → t.policy = .lookupOrInsert

theorem Sound.increment_accounts (h : t.Sound) (key : UInt32) :
    t.Accounts (t.increment key).2 (t.increment key).1 := by
  rcases h.increment_cases key with
    ⟨count, t', hget, hincrement, hsets⟩ | ⟨t', hget, hpolicy, hincrement, hsets⟩ | hincrement
  · have hsize := hsets.size_eq
    have htotal := hsets.ofNat_total_add h
    rw [hget] at hsize htotal
    rw [hincrement]
    exact ⟨hsets.sound, hsets.policy, hsize, eq_add_one_of_add_eq htotal,
      fun hanswer => absurd hanswer (by simp)⟩
  · have hsize := hsets.size_eq
    have htotal := hsets.ofNat_total_add h
    rw [hget] at hsize htotal
    rw [hincrement]
    refine ⟨hsets.sound, hsets.policy, hsize, ?_, fun _ => hpolicy⟩
    rw [Option.getD_none, UInt64.add_zero] at htotal
    exact htotal
  · rw [hincrement]
    exact ⟨h, rfl, rfl, (UInt64.add_zero _).symm, fun hanswer => absurd hanswer (by simp)⟩

end CountingTable

/-! ### Snapshots -/

theorem CounterEntry.total_eq (entries : List CounterEntry) :
    total entries = .ofNat (entryTotal (entries.map fun e => (e.key, e.count))) := by
  induction entries with
  | nil => rfl
  | cons entry rest ih =>
    rw [List.map_cons, entryTotal_cons, UInt64.ofNat_add, UInt64.ofNat_toNat, ← ih]
    rfl

namespace Plane

/-- A snapshot shows the keys of the table with their counts, in another order. -/
theorem entries_snapshot_perm (plane : Plane) :
    (plane.snapshot.entries.map fun e => (e.key, e.count)).Perm plane.table.entries := by
  have hperm := (List.mergeSort_perm (plane.table.entries.map fun e => CounterEntry.ofCount e.1 e.2)
    fun a b => a.addr.le b.addr).map fun e => (e.key, e.count)
  have hentries : plane.table.entries.map
      ((fun e => (e.key, e.count)) ∘ fun e => CounterEntry.ofCount e.1 e.2) =
        plane.table.entries := List.map_id _
  rwa [List.map_map, hentries] at hperm

theorem total_snapshot (plane : Plane) :
    plane.snapshot.total = .ofNat (entryTotal plane.table.entries) := by
  rw [Snapshot.total, CounterEntry.total_eq]
  exact congrArg UInt64.ofNat (entryTotal_eq_of_perm plane.entries_snapshot_perm)

theorem size_snapshot {plane : Plane} (h : plane.table.Sound) :
    plane.snapshot.size = plane.table.size := by
  rw [Snapshot.size, snapshot, CounterEntry.sorted, List.length_mergeSort, List.length_map,
    CountingTable.length_entries, h.size_eq]

end Plane

end SourceTally
