/-!
# Ledgers

A ledger keeps one value per key, in ascending order of the keys. The order is part of the ledger,
so no key comes twice, and a ledger is determined by its values.

## Main definitions

* `Ledger`: entries in ascending order of the keys
* `Ledger.get?`: the value of a key
* `Ledger.put`: set the value of a key

## Main statements

* `Ledger.get?_put`: the values after one has been set
* `Ledger.ext_get?`: ledgers with the same values are the same
* `Ledger.entries_put_perm`: the entries after a value has been set
-/

namespace SourceTally

/-- Keys with their values, in ascending order of the keys. -/
structure Ledger (κ ν : Type) [LT κ] where
  entries : List (κ × ν)
  ascending : entries.Pairwise fun a b => a.1 < b.1
  deriving DecidableEq, Repr

namespace Ledger

variable {κ ν : Type} [LT κ]

/-- The ledger without keys is written `[]`. -/
instance {α : Type} : CoeDep (List α) [] (Ledger κ ν) := ⟨⟨[], .nil⟩⟩

instance : Inhabited (Ledger κ ν) := ⟨[]⟩

def size (ledger : Ledger κ ν) : Nat := ledger.entries.length

def isEmpty (ledger : Ledger κ ν) : Bool := ledger.entries.isEmpty

def keys (ledger : Ledger κ ν) : List κ := ledger.entries.map Prod.fst

/-- What a function makes of the entries, in order. -/
def map {α : Type} (f : κ × ν → α) (ledger : Ledger κ ν) : List α := ledger.entries.map f

section Values

variable [DecidableEq κ]

def get? (ledger : Ledger κ ν) (key : κ) : Option ν := ledger.entries.lookup key

def contains (ledger : Ledger κ ν) (key : κ) : Bool := (ledger.get? key).isSome

/-- The entries of all keys but one. -/
def others (ledger : Ledger κ ν) (key : κ) : List (κ × ν) :=
  ledger.entries.filter fun entry => entry.1 ≠ key

theorem get?_eq_none_iff {ledger : Ledger κ ν} {key : κ} :
    ledger.get? key = none ↔ key ∉ ledger.keys := by
  rw [get?, List.lookup_eq_none_iff, keys, List.mem_map]
  constructor
  · rintro h ⟨entry, hmem, rfl⟩
    simpa using h entry hmem
  · intro h entry hmem
    exact bne_iff_ne.2 fun heq => h ⟨entry, hmem, heq.symm⟩

theorem others_of_none {ledger : Ledger κ ν} {key : κ} (h : ledger.get? key = none) :
    ledger.others key = ledger.entries := by
  refine List.filter_eq_self.2 fun entry hmem => ?_
  have hne : key ≠ entry.1 := bne_iff_ne.1 (List.lookup_eq_none_iff.1 h entry hmem)
  exact decide_eq_true hne.symm

omit [LT κ] in
theorem lookup_entry (k key : κ) (value : ν) (rest : List (κ × ν)) :
    ((k, value) :: rest).lookup key = if k = key then some value else rest.lookup key := by
  rw [List.lookup_cons]
  by_cases hk : k = key
  · simp [hk]
  · have hne : (key == k) = false := beq_eq_false_iff_ne.2 (Ne.symm hk)
    simp [hk, hne]

variable [LE κ] [Std.LawfulOrderLT κ]

theorem get?_eq_some_iff {ledger : Ledger κ ν} {key : κ} {value : ν} :
    ledger.get? key = some value ↔ (key, value) ∈ ledger.entries := by
  obtain ⟨entries, ascending⟩ := ledger
  show entries.lookup key = some value ↔ (key, value) ∈ entries
  induction entries with
  | nil => simp
  | cons entry rest ih =>
    obtain ⟨k, v⟩ := entry
    obtain ⟨hhead, hrest⟩ := List.pairwise_cons.1 ascending
    rw [lookup_entry]
    by_cases hk : k = key
    · subst hk
      have hnot : (k, value) ∉ rest := fun hmem => Std.lt_irrefl (hhead (k, value) hmem)
      simp [hnot, eq_comm]
    · simp [hk, ih hrest, Ne.symm hk]

omit [DecidableEq κ] in
theorem nodup_entries (ledger : Ledger κ ν) : ledger.entries.Nodup := by
  refine ledger.ascending.imp fun {a b} hlt heq => ?_
  rw [heq] at hlt
  exact Std.lt_irrefl hlt

/-- An entry can be put in front of the others. -/
theorem entries_perm {ledger : Ledger κ ν} {key : κ} {value : ν}
    (h : ledger.get? key = some value) :
    ledger.entries.Perm ((key, value) :: ledger.others key) := by
  have hnodup : ((key, value) :: ledger.others key).Nodup :=
    List.nodup_cons.2 ⟨by simp [others], ledger.nodup_entries.filter _⟩
  rw [List.perm_ext_iff_of_nodup ledger.nodup_entries hnodup]
  rintro ⟨k, v⟩
  by_cases hk : k = key
  · subst hk
    rw [← get?_eq_some_iff, h]
    simp [others, eq_comm]
  · simp [others, hk]

variable [Std.IsLinearOrder κ]

/-- Ledgers are the same if they have the same values. -/
theorem ext_get? {a b : Ledger κ ν} (h : ∀ key, a.get? key = b.get? key) : a = b := by
  have hperm : a.entries.Perm b.entries := by
    rw [List.perm_ext_iff_of_nodup a.nodup_entries b.nodup_entries]
    rintro ⟨key, value⟩
    rw [← get?_eq_some_iff, ← get?_eq_some_iff, h]
  have heq : a.entries = b.entries := by
    refine List.Perm.eq_of_pairwise ?_ a.ascending b.ascending hperm
    intro x y _ _ hxy hyx
    exact absurd (Std.lt_trans hxy hyx) Std.lt_irrefl
  cases a
  cases b
  cases heq
  rfl

end Values

/-! ### Setting a value -/

section Put

variable [DecidableEq κ] [DecidableLT κ]

/-- Set the value of a key among entries in ascending order. -/
def insertEntry (key : κ) (value : ν) : List (κ × ν) → List (κ × ν)
  | [] => [(key, value)]
  | (k, v) :: rest =>
    if k = key then (key, value) :: rest
    else if key < k then (key, value) :: (k, v) :: rest
    else (k, v) :: insertEntry key value rest

theorem lookup_insertEntry (key : κ) (value : ν) (entries : List (κ × ν)) (other : κ) :
    (insertEntry key value entries).lookup other =
      if key = other then some value else entries.lookup other := by
  induction entries with
  | nil => simp [insertEntry, lookup_entry]
  | cons entry rest ih =>
    obtain ⟨k, v⟩ := entry
    rw [insertEntry]
    split
    · next hk =>
      subst hk
      simp only [lookup_entry]
      split <;> rfl
    · next hk =>
      split
      · rw [lookup_entry]
      · rw [lookup_entry, lookup_entry, ih]
        -- the first entry has another key than the one that is set
        by_cases hother : k = other
        · subst hother
          simp [Ne.symm hk]
        · simp [hother]

theorem mem_of_mem_insertEntry {key : κ} {value : ν} {entries : List (κ × ν)} {entry : κ × ν}
    (h : entry ∈ insertEntry key value entries) : entry = (key, value) ∨ entry ∈ entries := by
  induction entries with
  | nil => exact .inl (List.mem_singleton.1 h)
  | cons head rest ih =>
    obtain ⟨k, v⟩ := head
    rw [insertEntry] at h
    split at h
    · exact (List.mem_cons.1 h).imp_right (List.mem_cons_of_mem _)
    · split at h
      · exact List.mem_cons.1 h
      · rcases List.mem_cons.1 h with rfl | h
        · exact .inr List.mem_cons_self
        · exact (ih h).imp_right (List.mem_cons_of_mem _)

variable [LE κ] [Std.LawfulOrderLT κ] [Std.IsLinearOrder κ]

theorem pairwise_insertEntry {entries : List (κ × ν)} (h : entries.Pairwise fun a b => a.1 < b.1)
    (key : κ) (value : ν) : (insertEntry key value entries).Pairwise fun a b => a.1 < b.1 := by
  induction entries with
  | nil => exact List.pairwise_singleton _ _
  | cons entry rest ih =>
    obtain ⟨k, v⟩ := entry
    obtain ⟨hhead, hrest⟩ := List.pairwise_cons.1 h
    rw [insertEntry]
    split
    · next hk =>
      subst hk
      exact List.pairwise_cons.2 ⟨hhead, hrest⟩
    · next hk =>
      split
      · next hlt =>
        refine List.pairwise_cons.2 ⟨fun e he => ?_, h⟩
        rcases List.mem_cons.1 he with rfl | he
        · exact hlt
        · exact Std.lt_trans hlt (hhead e he)
      · next hlt =>
        have hgt : k < key := by
          rcases Std.lt_trichotomy k key with h | h | h
          · exact h
          · exact absurd h hk
          · exact absurd h hlt
        refine List.pairwise_cons.2 ⟨fun e he => ?_, ih hrest⟩
        rcases mem_of_mem_insertEntry he with rfl | he
        · exact hgt
        · exact hhead e he

def put (ledger : Ledger κ ν) (key : κ) (value : ν) : Ledger κ ν :=
  ⟨insertEntry key value ledger.entries, pairwise_insertEntry ledger.ascending key value⟩

theorem get?_put (ledger : Ledger κ ν) (key : κ) (value : ν) (other : κ) :
    (ledger.put key value).get? other = if key = other then some value else ledger.get? other :=
  lookup_insertEntry key value ledger.entries other

@[simp]
theorem get?_put_self (ledger : Ledger κ ν) (key : κ) (value : ν) :
    (ledger.put key value).get? key = some value := by
  rw [get?_put, if_pos rfl]

theorem get?_put_of_ne (ledger : Ledger κ ν) {key other : κ} (value : ν) (h : key ≠ other) :
    (ledger.put key value).get? other = ledger.get? other := by
  rw [get?_put, if_neg h]

theorem mem_keys_put {ledger : Ledger κ ν} {key other : κ} {value : ν} :
    other ∈ (ledger.put key value).keys ↔ other = key ∨ other ∈ ledger.keys := by
  rw [← Decidable.not_iff_not, not_or, ← get?_eq_none_iff, ← get?_eq_none_iff, get?_put]
  by_cases hkey : key = other
  · simp [hkey]
  · simp [hkey, Ne.symm hkey]

theorem put_put (ledger : Ledger κ ν) (key : κ) (old value : ν) :
    (ledger.put key old).put key value = ledger.put key value := by
  refine ext_get? fun other => ?_
  simp only [get?_put]
  split <;> rfl

theorem others_put (ledger : Ledger κ ν) (key : κ) (value : ν) :
    ((ledger.put key value).others key).Perm (ledger.others key) := by
  refine (List.perm_ext_iff_of_nodup ((ledger.put key value).nodup_entries.filter _)
    (ledger.nodup_entries.filter _)).2 ?_
  rintro ⟨k, v⟩
  simp only [List.mem_filter, ← get?_eq_some_iff, get?_put]
  by_cases hk : key = k
  · simp [hk]
  · simp [hk]

/-- The entry that is set, and the others as they were. -/
theorem entries_put_perm (ledger : Ledger κ ν) (key : κ) (value : ν) :
    (ledger.put key value).entries.Perm ((key, value) :: ledger.others key) :=
  (entries_perm (ledger.get?_put_self key value)).trans ((ledger.others_put key value).cons _)

theorem size_put_of_none {ledger : Ledger κ ν} {key : κ} (h : ledger.get? key = none) (value : ν) :
    (ledger.put key value).size = ledger.size + 1 := by
  rw [size, (ledger.entries_put_perm key value).length_eq, others_of_none h]
  rfl

theorem size_put_of_some {ledger : Ledger κ ν} {key : κ} {old : ν}
    (h : ledger.get? key = some old) (value : ν) :
    (ledger.put key value).size = ledger.size := by
  rw [size, (ledger.entries_put_perm key value).length_eq, size, (entries_perm h).length_eq]
  rfl

end Put

end Ledger

end SourceTally
