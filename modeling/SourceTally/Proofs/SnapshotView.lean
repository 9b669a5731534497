import SourceTally.Proofs.Interleaving
import SourceTally.Proofs.PlaneHistory
import SourceTally.Proofs.SnapshotOrder

/-!
# A snapshot is a faithful view of the table

A table lists its keys in the order of the slots, and a key has the first octet of its address as
its least significant byte. A snapshot lists addresses, in an order in which the first octet counts
most. It still shows each key once, with its count, and searching it for an address gives what the
table gives for the key.

## Main definitions

* `Address.Before`: the order of addresses, octet by octet
* `Plane.Settled`: a plane between operations, some of which may have run at the same time

## Main statements

* `Address.before_iff`: the order of addresses is that of their values
* `Plane.Settled.sound`: the table of a settled plane is sound
* `Plane.snapshot_faithful`: what a snapshot shows of a settled plane
-/

namespace SourceTally

namespace Address

/-- One address comes before another, octet by octet from the first. -/
def Before (a b : Address) : Prop :=
  a.first < b.first ∨ a.first = b.first ∧
    (a.second < b.second ∨ a.second = b.second ∧
      (a.third < b.third ∨ a.third = b.third ∧ a.fourth < b.fourth))

theorem toNat_value (addr : Address) : addr.value.toNat =
    littleEndian [addr.fourth, addr.third, addr.second, addr.first] := by
  rw [value_eq_key, toNat_key]

theorem before_iff {a b : Address} : a.Before b ↔ a.value < b.value := by
  obtain ⟨a₁, a₂, a₃, a₄⟩ := a
  obtain ⟨b₁, b₂, b₃, b₄⟩ := b
  have ha₂ := a₂.toNat_lt
  have ha₃ := a₃.toNat_lt
  have ha₄ := a₄.toNat_lt
  have hb₂ := b₂.toNat_lt
  have hb₃ := b₃.toNat_lt
  have hb₄ := b₄.toNat_lt
  simp only [Before, UInt32.lt_iff_toNat_lt, toNat_value, littleEndian, UInt8.lt_iff_toNat_lt,
    ← UInt8.toNat_inj]
  omega

theorem before_of_le_of_ne {a b : Address} (hle : a.le b) (hne : a ≠ b) : a.Before b := by
  rw [before_iff]
  simp only [le, decide_eq_true_eq] at hle
  rcases UInt32.lt_or_eq_of_le hle with hlt | heq
  · exact hlt
  · exact absurd (value_inj heq) hne

end Address

/-! ### Planes between operations -/

namespace Plane

/-- A plane on which nothing is running. Its operations came one after another, or its table served
calls that ran at the same time, in any interleaving, and have all returned. -/
inductive Settled : Plane → Prop where
  | empty (policy : InsertPolicy) : Settled (empty policy)
  | ofConfig {config : Config} {plane : Plane} (h : (ofConfig config).result = .ok plane) :
      Settled plane
  | perform {plane : Plane} (h : Settled plane) (operation : Operation) :
      Settled (plane.perform operation).2
  | together {plane : Plane} (h : Settled plane) (requests : List Atomic.Request)
      (schedule : List Nat) {last : Atomic.System counterCapacity}
      (hlast : Atomic.System.run ⟨plane.table, requests.map (Atomic.Call.start _)⟩ schedule = last)
      (hdone : last.isDone) : Settled { plane with table := last.table }

/-- A plane that was reached by operations one after another is settled. -/
theorem Reached.settled {n : Nat} {plane : Plane} (h : Reached n plane) : Settled plane := by
  induction h with
  | empty policy => exact .empty policy
  | ofConfig h => exact .ofConfig h
  | perform _ operation ih => exact ih.perform operation

theorem Settled.sound {plane : Plane} (h : Settled plane) : plane.table.Sound := by
  induction h with
  | empty policy => exact CountingTable.sound_empty policy
  | ofConfig h => exact (tallies_of_ofConfig h).2.2.sound
  | perform _ operation ih => exact (within_perform ⟨ih, Nat.le_refl _⟩ operation).sound
  | together _ requests schedule hlast hdone ih =>
    subst hlast
    exact ((Atomic.System.sound_of_table ih requests).run schedule).table_of_isDone hdone

/-! ### Snapshots -/

variable {plane : Plane}

theorem nodup_addresses_snapshot (h : Placed plane.table.slots) :
    (plane.snapshot.entries.map (·.addr)).Nodup :=
  plane.addresses_snapshot.nodup_iff.2 (CountingTable.nodup_addresses_entries h)

/-- The order of a snapshot is strict, since no address comes twice. -/
theorem pairwise_snapshot (h : Placed plane.table.slots) :
    plane.snapshot.entries.Pairwise fun a b => a.addr.Before b.addr := by
  have hsorted := CounterEntry.pairwise_sorted plane.table.entries
  have hnodup := List.pairwise_map.1 (nodup_addresses_snapshot h)
  exact (hsorted.and hnodup).imp fun hab => Address.before_of_le_of_ne hab.1 hab.2

/-- In every state of a plane between operations, a snapshot lists addresses in strictly ascending
order, octet by octet; each with its key, and each key of the table with its count. There are as
many entries as the table has keys, and never more than it has slots. The count that a snapshot
gives for an address is that of its key in the table, and there is none exactly if no slot holds the
key. -/
theorem snapshot_faithful (h : Settled plane) :
    let snapshot := plane.snapshot
    snapshot.entries.Pairwise (fun a b => a.addr.Before b.addr) ∧
    (snapshot.entries.map (·.addr)).Nodup ∧
    (∀ entry ∈ snapshot.entries,
      entry.key = entry.addr.key ∧ entry.addr = Address.ofKey entry.key) ∧
    (∀ addr : Address, Address.ofKey addr.key = addr) ∧
    (∀ key : UInt32, (Address.ofKey key).key = key) ∧
    (snapshot.entries.map fun e => (e.key, e.count)).Perm plane.table.entries ∧
    snapshot.entries.length = snapshot.size ∧ snapshot.size = plane.table.size ∧
    plane.table.size ≤ snapshot.capacity ∧
    ∀ addr : Address, snapshot.countFor? addr = plane.table.get? addr.key ∧
      (snapshot.countFor? addr = none ↔ ¬ Holds plane.table.slots addr.key) := by
  have hsound := h.sound
  refine ⟨pairwise_snapshot hsound.placed, nodup_addresses_snapshot hsound.placed, ?_,
    Address.ofKey_key, Address.key_ofKey, plane.entries_snapshot_perm, rfl, size_snapshot hsound,
    hsound.size_le, ?_⟩
  · intro entry hentry
    obtain ⟨-, haddr⟩ := (mem_snapshot hsound.placed).1 hentry
    exact ⟨by rw [haddr, Address.key_ofKey], haddr⟩
  · intro addr
    rw [countFor?_snapshot hsound.placed]
    exact ⟨rfl, CountingTable.get?_eq_none_iff hsound.placed⟩

/-- A host is seeded, and then two calls count a source with the same home slot, whose address comes
before the host's though its key does not. They take turns, and the second one finds the slot that
the first one claims. -/
theorem snapshot_faithful_racing :
    let host : Address := ⟨10, 0, 0, 2⟩
    let source : Address := ⟨9, 0, 0, 3⟩
    let plane := ((empty .lookupOrInsert).perform (.seed host)).2
    let calls := [Atomic.Request.increment source.key, .increment source.key].map
      (Atomic.Call.start counterCapacity)
    let last := Atomic.System.run ⟨plane.table, calls⟩ [0, 1, 0, 1, 0, 1, 0, 1, 0, 1, 0]
    let settled := { plane with table := last.table }
    Settled settled ∧ home counterCapacity host.key = home counterCapacity source.key ∧
      host.key < source.key ∧ source.Before host ∧
      settled.snapshot.entries.Pairwise (fun a b => a.addr.Before b.addr) ∧
      settled.snapshot.size = 2 ∧ settled.snapshot.countFor? source = some 2 ∧
      settled.snapshot.countFor? host = some 0 ∧
      settled.snapshot.countFor? ⟨3, 0, 0, 9⟩ = none := by
  intro host source plane calls last settled
  have hdone : last.isDone := by decide +kernel
  have hsettled : Settled settled :=
    ((Settled.empty .lookupOrInsert).perform (.seed host)).together _ _ rfl hdone
  obtain ⟨hpairwise, -, -, -, -, -, -, hsize, -, hcount⟩ := snapshot_faithful hsettled
  refine ⟨hsettled, by decide, by decide, .inl (by decide), hpairwise, ?_, ?_, ?_, ?_⟩
  · rw [hsize]
    decide +kernel
  · rw [(hcount source).1]
    decide +kernel
  · rw [(hcount host).1]
    decide +kernel
  · rw [(hcount _).1]
    decide +kernel

end Plane

end SourceTally
