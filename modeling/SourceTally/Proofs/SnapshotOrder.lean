import SourceTally.Proofs.PlaneTable

/-!
# Snapshots do not depend on the order of the slots

A snapshot lists the counters of a table by address. Two tables that hold the same keys with the
same counts give the same snapshot, wherever their keys have come to lie.

## Main statements

* `CounterEntry.sorted_eq_of_perm`: sorting forgets the order of a listing
* `CountingTable.Sound.entries_perm`: tables with the same counts have the same listing up to order
* `Plane.snapshot_eq`: planes with the same policy and counts show the same snapshot
-/

namespace SourceTally

namespace Address

/-- The place of an address in the order is the key of its octets in the other direction. -/
theorem value_eq_key (addr : Address) :
    addr.value = key ⟨addr.fourth, addr.third, addr.second, addr.first⟩ := by
  rw [value, key, UInt32.or_comm, UInt32.or_comm _ (addr.third.toUInt32 <<< 8),
    UInt32.or_comm (addr.first.toUInt32 <<< 24), ← UInt32.or_assoc, ← UInt32.or_assoc]

theorem value_inj {a b : Address} (h : a.value = b.value) : a = b := by
  rw [value_eq_key, value_eq_key, key_inj, Address.mk.injEq] at h
  obtain ⟨hfourth, hthird, hsecond, hfirst⟩ := h
  cases a
  cases b
  rw [Address.mk.injEq]
  exact ⟨hfirst, hsecond, hthird, hfourth⟩

theorem le_trans {a b c : Address} (hab : a.le b) (hbc : b.le c) : a.le c := by
  simp only [le, decide_eq_true_eq] at hab hbc ⊢
  exact UInt32.le_trans hab hbc

theorem le_total (a b : Address) : (a.le b || b.le a) = true := by
  simp only [le, Bool.or_eq_true, decide_eq_true_eq]
  exact UInt32.le_total a.value b.value

theorem le_antisymm {a b : Address} (hab : a.le b) (hba : b.le a) : a = b := by
  simp only [le, decide_eq_true_eq] at hab hba
  exact value_inj (UInt32.le_antisymm hab hba)

end Address

namespace CounterEntry

theorem pairwise_sorted (counts : List (UInt32 × UInt64)) :
    (sorted counts).Pairwise fun a b => a.addr.le b.addr :=
  @List.pairwise_mergeSort CounterEntry (fun a b => a.addr.le b.addr)
    (fun _ _ _ hab hbc => Address.le_trans hab hbc)
    (fun a b => Address.le_total a.addr b.addr) _

theorem mem_sorted {counts : List (UInt32 × UInt64)} {entry : CounterEntry} :
    entry ∈ sorted counts ↔ ∃ e ∈ counts, ofCount e.1 e.2 = entry := by
  rw [sorted, List.mem_mergeSort, List.mem_map]

/-- Sorting forgets the order of a listing in which no key comes twice. -/
theorem sorted_eq_of_perm {a b : List (UInt32 × UInt64)} (h : a.Perm b)
    (hnodup : (a.map Prod.fst).Nodup) : sorted a = sorted b := by
  refine List.Perm.eq_of_pairwise ?_ (pairwise_sorted a) (pairwise_sorted b) ?_
  · intro x y hx hy hxy hyx
    obtain ⟨e, he, rfl⟩ := mem_sorted.1 hx
    obtain ⟨e', he', rfl⟩ := mem_sorted.1 hy
    -- two entries with one address have one key, and so are one entry of the listing
    have haddr : Address.ofKey e.1 = Address.ofKey e'.1 := Address.le_antisymm hxy hyx
    have hkey : e.1 = e'.1 := by
      rw [← Address.key_ofKey e.1, haddr, Address.key_ofKey]
    rw [List.inj_on_of_nodup_map hnodup he (h.mem_iff.2 he') hkey]
  · have hmap := h.map fun e => ofCount e.1 e.2
    exact (List.mergeSort_perm _ _).trans (hmap.trans (List.mergeSort_perm _ _).symm)

end CounterEntry

variable {N : Nat} [HasSlots N]

/-- Tables with the same counts have the same listing, up to its order. -/
theorem CountingTable.Sound.entries_perm {t t' : CountingTable N} (h : t.Sound) (h' : t'.Sound)
    (hget : ∀ key, t.get? key = t'.get? key) : t.entries.Perm t'.entries := by
  rw [List.perm_ext_iff_of_nodup (nodup_keys_entries h.placed).of_map
    (nodup_keys_entries h'.placed).of_map]
  rintro ⟨key, count⟩
  rw [mem_entries, mem_entries, ← get?_eq_some_iff h.placed, ← get?_eq_some_iff h'.placed, hget]

/-- Planes with the same policy and the same counts show the same snapshot. -/
theorem Plane.snapshot_eq {plane plane' : Plane} (h : plane.table.Sound)
    (h' : plane'.table.Sound) (hpolicy : plane.table.policy = plane'.table.policy)
    (hget : ∀ key, plane.table.get? key = plane'.table.get? key) :
    plane.snapshot = plane'.snapshot := by
  have hperm := h.entries_perm h' hget
  rw [snapshot, snapshot, hpolicy,
    CounterEntry.sorted_eq_of_perm hperm (CountingTable.nodup_keys_entries h.placed)]

end SourceTally
