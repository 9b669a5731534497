import SourceTally.Proofs.ReplayAccounting
import SourceTally.Proofs.SnapshotOrder
import SourceTally.Proofs.SourceCounting

/-!
# Replay does not depend on the order

Which slot a source takes, what the table answers and, once the table is full, which sources it
holds, all depend on the order in which frames are observed. But how many sources it holds does not,
and while there is room for all of them the snapshot and the tally do not either.

## Main statements

* `Plane.tallies_addresses`: a sound table tallies the addresses of its snapshot
* `Plane.size_observeAll_eq`: the size of the snapshot does not depend on the order
* `Plane.snapshot_observeAll_eq`: while there is room, the snapshot does not depend on the order
* `Replay.ends_agree`: what two replays of the same frames have in common
-/

namespace SourceTally

section Listed

variable {capacity : Nat} {policy : InsertPolicy} {known sources sources' : List Address}

theorem nodup_newcomers (known sources : List Address) : (newcomers known sources).Nodup :=
  nodup_eraseDups _

/-- The order of the sources changes only the order of the newcomers. -/
theorem newcomers_perm (h : sources.Perm sources') :
    (newcomers known sources).Perm (newcomers known sources') := by
  rw [List.perm_ext_iff_of_nodup (nodup_newcomers _ _) (nodup_newcomers _ _)]
  intro addr
  rw [mem_newcomers, mem_newcomers, h.mem_iff]

theorem length_listed_eq (h : sources.Perm sources') :
    (listed capacity policy known sources).length =
      (listed capacity policy known sources').length := by
  cases policy with
  | lookupOnly => rfl
  | lookupOrInsert =>
    rw [listed, listed, List.length_append, List.length_append, List.length_take,
      List.length_take, (newcomers_perm h).length_eq]

/-- All known addresses and sources together, each once. -/
theorem length_eraseDups_append (h : known.Nodup) (sources : List Address) :
    (known ++ sources).eraseDups.length = known.length + (newcomers known sources).length := by
  have hremove : sources.removeAll known = sources.filter (· ∉ known) := by
    simp [List.removeAll]
  rw [List.eraseDups_append, eraseDups_eq_self h, List.length_append, hremove]
  rfl

/-- While all newcomers have their place, their order does not matter. -/
theorem listed_perm (h : sources.Perm sources') (hroom : policy = .lookupOnly ∨
      known.length + (newcomers known sources).length ≤ capacity) :
    (listed capacity policy known sources).Perm (listed capacity policy known sources') := by
  cases policy with
  | lookupOnly => exact .refl _
  | lookupOrInsert =>
    have hfits := hroom.resolve_left (by simp)
    have hperm : (newcomers known sources).Perm (newcomers known sources') := newcomers_perm h
    have hlength := hperm.length_eq
    rw [listed, listed, List.take_of_length_le (by omega), List.take_of_length_le (by omega)]
    exact hperm.append_left known

end Listed

namespace Plane

variable {plane : Plane} {order order' : List Frame}

/-- A sound table tallies the addresses of its snapshot. -/
theorem tallies_addresses (h : plane.table.Sound) :
    Tallies plane.table (plane.snapshot.entries.map (·.addr))
      fun a => (plane.table.get? a.key).getD 0 where
  sound := h
  nodup := plane.addresses_snapshot.nodup_iff.2 (CountingTable.nodup_addresses_entries h.placed)
  get?_eq addr := by
    cases hget : plane.table.get? addr.key with
    | some count =>
      have hmem : ⟨addr, addr.key, count⟩ ∈ plane.snapshot.entries :=
        (mem_snapshot h.placed).2 ⟨hget, (Address.ofKey_key addr).symm⟩
      rw [if_pos (List.mem_map_of_mem hmem)]
      rfl
    | none =>
      refine (if_neg fun hmem => ?_).symm
      obtain ⟨entry, hentry, rfl⟩ := List.mem_map.1 hmem
      obtain ⟨hcount, haddr⟩ := (mem_snapshot h.placed).1 hentry
      rw [haddr, Address.key_ofKey, hcount] at hget
      cases hget

/-- What is counted after frames have been observed in the given order. -/
theorem tallies_order (h : plane.table.Sound) (order : List Frame) :
    (plane.observeAll .source order).table.policy = plane.table.policy ∧
      Tallies (plane.observeAll .source order).table
        (listed counterCapacity plane.table.policy (plane.snapshot.entries.map (·.addr))
          (order.filterMap Frame.source?))
        fun a => (plane.table.get? a.key).getD 0 +
          .ofNat ((order.filterMap Frame.source?).count a) := by
  have htallies := tallies_addresses h
  refine tallies_observeAll_from (fun addr hnew => ?_) rfl htallies order
  rw [htallies.get?_eq, if_neg hnew]
  rfl

/-- The size of the snapshot does not depend on the order of the frames. -/
theorem size_observeAll_eq (h : plane.table.Sound) (hperm : order.Perm order') :
    (plane.observeAll .source order).snapshot.size =
      (plane.observeAll .source order').snapshot.size := by
  have htallies := (tallies_order h order).2
  have htallies' := (tallies_order h order').2
  rw [size_snapshot htallies.sound, size_snapshot htallies'.sound, htallies.size_eq,
    htallies'.size_eq, length_listed_eq (hperm.filterMap Frame.source?)]

/-- While there is room for all sources, the snapshot does not depend on the order of the frames. -/
theorem snapshot_observeAll_eq (h : plane.table.Sound) (hperm : order.Perm order')
    (hroom : plane.table.policy = .lookupOnly ∨
      (plane.snapshot.entries.map (·.addr) ++ order.filterMap Frame.source?).eraseDups.length ≤
        counterCapacity) :
    (plane.observeAll .source order).snapshot = (plane.observeAll .source order').snapshot := by
  obtain ⟨hpolicy, htallies⟩ := tallies_order h order
  obtain ⟨hpolicy', htallies'⟩ := tallies_order h order'
  have hsources := hperm.filterMap Frame.source?
  rw [length_eraseDups_append (tallies_addresses h).nodup] at hroom
  refine snapshot_eq htallies.sound htallies'.sound (hpolicy.trans hpolicy'.symm) fun key => ?_
  rw [← Address.key_ofKey key, htallies.get?_eq, htallies'.get?_eq, hsources.count_eq]
  simp only [(listed_perm hsources hroom).mem_iff]

end Plane

namespace Replay

variable {tally tally₁ tally₂ : Tally} {plane plane₁ plane₂ : Plane} {frames : List Frame}

/-- Two replays of the same frames that insert as many sources and end with the same snapshot have
made the same tally. -/
theorem Accounts.tally_eq {counted₁ counted₂ inserted missed₁ missed₂ : Nat}
    (h₁ : Accounts frames tally plane tally₁ plane₁ counted₁ inserted missed₁)
    (h₂ : Accounts frames tally plane tally₂ plane₂ counted₂ inserted missed₂)
    (hsnapshot : plane₁.snapshot = plane₂.snapshot) : tally₁ = tally₂ := by
  -- the totals tell how many were counted, and the rest were missed
  have hcounted : UInt64.ofNat counted₁ = .ofNat counted₂ := by
    have htotal := h₁.total_eq
    rwa [hsnapshot, h₂.total_eq, UInt64.add_right_inj, UInt64.ofNat_add, UInt64.ofNat_add,
      UInt64.add_left_inj, eq_comm] at htotal
  have hmissed : UInt64.ofNat missed₁ = .ofNat missed₂ := by
    have hlength₁ := h₁.length_eq
    have hlength₂ := h₂.length_eq
    have hsum : counted₁ + missed₁ = counted₂ + missed₂ := by omega
    have hwords := congrArg UInt64.ofNat hsum
    rwa [UInt64.ofNat_add, UInt64.ofNat_add, hcounted, UInt64.add_right_inj] at hwords
  have hinvocations := h₁.invocations_eq.trans h₂.invocations_eq.symm
  have hshort := h₁.short_eq.trans h₂.short_eq.symm
  have hparsed := h₁.parsed_eq.trans h₂.parsed_eq.symm
  have hcount := h₁.counted_eq.trans (hcounted ▸ h₂.counted_eq.symm)
  have hinserted := h₁.inserted_eq.trans h₂.inserted_eq.symm
  have hmiss := h₁.missed_eq.trans (hmissed ▸ h₂.missed_eq.symm)
  have hverdicts := h₁.verdicts_eq.trans h₂.verdicts_eq.symm
  cases tally₁
  cases tally₂
  rw [Tally.mk.injEq]
  exact ⟨hinvocations, hshort, hparsed, hcount, hinserted, hmiss, hverdicts⟩

/-- Replaying frames through the source counter, in any order and on any number of workers, ends
with the same invocations, short frames, insertions, verdicts and number of addresses. If nothing
may be inserted, or if there is room for all sources, it ends with the same tally and snapshot. -/
theorem ends_agree {n : Nat} {plane : Plane} (hplane : Plane.Reached n plane)
    (frames : List Frame) (tally : Tally) :
    (∀ order : List Frame, order.Perm frames →
      Ends .source frames tally plane (tally.observeAll (plane.observations .source order))
        (plane.observeAll .source order)) ∧
    (License.isCompatible plane.license → ∀ workers, ∃ tally' plane',
      (runHandler plane .source workers frames tally).result = .ok (tally', plane') ∧
      Ends .source frames tally plane tally' plane') ∧
    ∀ tally₁ plane₁ tally₂ plane₂, Ends .source frames tally plane tally₁ plane₁ →
      Ends .source frames tally plane tally₂ plane₂ →
      (tally₁.invocations = tally₂.invocations ∧ tally₁.shortFrames = tally₂.shortFrames ∧
        tally₁.parsed = tally₂.parsed ∧ tally₁.inserted = tally₂.inserted ∧
        tally₁.verdicts = tally₂.verdicts ∧ plane₁.snapshot.size = plane₂.snapshot.size) ∧
      (plane.table.policy = .lookupOnly ∨
        (plane.snapshot.entries.map (·.addr) ++ frames.filterMap Frame.source?).eraseDups.length ≤
          1024 →
        tally₁ = tally₂ ∧ plane₁.snapshot = plane₂.snapshot) := by
  have hsound := hplane.within.sound
  refine ⟨fun order horder => ends_of_perm .source tally plane horder,
    fun hlicense workers => runHandler_ends hlicense .source workers frames tally, ?_⟩
  intro tally₁ plane₁ tally₂ plane₂ hends₁ hends₂
  obtain ⟨counted₁, inserted₁, missed₁, h₁⟩ := hends₁.accounts hsound
  obtain ⟨counted₂, inserted₂, missed₂, h₂⟩ := hends₂.accounts hsound
  obtain ⟨order₁, _, horder₁, _, hplane₁, _⟩ := hends₁.exists_order
  obtain ⟨order₂, _, horder₂, _, hplane₂, _⟩ := hends₂.exists_order
  have hsize : plane₁.snapshot.size = plane₂.snapshot.size := by
    rw [hplane₁, hplane₂]
    exact Plane.size_observeAll_eq hsound (horder₁.trans horder₂.symm)
  -- as many sources were inserted in both, since the snapshots have grown by as much
  obtain rfl : inserted₁ = inserted₂ := by
    have hsize₁ := h₁.size_eq
    have hsize₂ := h₂.size_eq
    omega
  refine ⟨⟨h₁.invocations_eq.trans h₂.invocations_eq.symm, h₁.short_eq.trans h₂.short_eq.symm,
    h₁.parsed_eq.trans h₂.parsed_eq.symm, h₁.inserted_eq.trans h₂.inserted_eq.symm,
    h₁.verdicts_eq.trans h₂.verdicts_eq.symm, hsize⟩, fun hroom => ?_⟩
  have hsnapshot : plane₁.snapshot = plane₂.snapshot := by
    rw [hplane₁, hplane₂, ← Plane.snapshot_observeAll_eq hsound horder₁.symm hroom,
      ← Plane.snapshot_observeAll_eq hsound horder₂.symm hroom]
  exact ⟨h₁.tally_eq h₂ hsnapshot, hsnapshot⟩

/-- One worker and three workers, who observe frames of two new sources in different orders. -/
theorem ends_agree_three_workers :
    let config : Config := { policy := .lookupOrInsert, hosts := [⟨10, 0, 0, 1⟩] }
    let one : Frame := List.replicate 26 0 ++ [10, 0, 0, 2]
    let other : Frame := List.replicate 26 0 ++ [10, 0, 0, 3]
    let frames := [one, other.take 29, other, other]
    ∃ plane tally₁ plane₁ tally₂ plane₂, (Plane.ofConfig config).result = .ok plane ∧
      (runHandler plane .source 1 frames {}).result = .ok (tally₁, plane₁) ∧
      (runHandler plane .source 3 frames {}).result = .ok (tally₂, plane₂) ∧
      tally₁ = tally₂ ∧ plane₁.snapshot = plane₂.snapshot := by
  intro config one other frames
  obtain ⟨plane, hplane, hlicense, _, htallies⟩ :=
    Plane.ofConfig_result (by decide : config.validate = .ok ())
  have hcompatible : License.isCompatible plane.license := by
    rw [hlicense]
    decide
  obtain ⟨_, hruns, hagree⟩ := ends_agree (.ofConfig hplane) frames {}
  obtain ⟨tally₁, plane₁, hrun₁, hends₁⟩ := hruns hcompatible 1
  obtain ⟨tally₂, plane₂, hrun₂, hends₂⟩ := hruns hcompatible 3
  have hroom : (plane.snapshot.entries.map (·.addr) ++
      frames.filterMap Frame.source?).eraseDups.length ≤ 1024 := by
    refine Nat.le_trans (length_eraseDups_le _) ?_
    rw [List.length_append, (Plane.addresses_snapshot_perm htallies).length_eq]
    decide
  obtain ⟨htally, hsnapshot⟩ := (hagree tally₁ plane₁ tally₂ plane₂ hends₁ hends₂).2 (.inr hroom)
  exact ⟨plane, tally₁, plane₁, tally₂, plane₂, hplane, hrun₁, hrun₂, htally, hsnapshot⟩

end Replay

end SourceTally
