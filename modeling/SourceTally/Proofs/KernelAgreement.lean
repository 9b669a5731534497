import SourceTally.Proofs.AgentSetup
import SourceTally.Proofs.SnapshotOrder
import SourceTally.Proofs.SourceCounting

/-!
# Kernel and plane count alike

The source counter exists twice: as a handler of a plane, which counts in a table of slots, and as a
kernel program, which counts in a kernel map under a policy that it reads from a control word. Table
and map hold the same counts, and counting a key keeps it so. Once agent and plane have been set up
from one configuration, they answer every frame alike and report the same counters.

## Main definitions

* `Mirrors`: kernel maps and a table hold the same counts under the same policy
* `Kernel.Host.filterAll`: the kernel after it has filtered packets

## Main statements

* `Kernel.Packet.sourceKey_eq`: a packet in place is read as its frame is
* `Mirrors.count`, `Mirrors.filter`: one key, and one packet, on both sides
* `Agent.filter_agrees_with_plane`: kernel and plane agree on all packets
-/

namespace SourceTally

namespace Kernel

/-- A packet that ends where its address and length say, and whose address leaves room for a source
address behind it, is read as its frame is. -/
theorem Packet.sourceKey_eq {packet : Packet}
    (hend : packet.dataEnd.toNat = packet.data.toNat + packet.bytes.length)
    (hroom : packet.data.toNat + 30 < 2 ^ 64) : packet.sourceKey = packet.bytes.sourceKey := by
  have hlast : (packet.data + Field.source.offset +
      Field.source.width.bytes.toUInt64).toNat = packet.data.toNat + 30 := by
    have hoffset : Field.source.offset.toNat = 26 := by decide
    have hwidth : Field.source.width.bytes.toUInt64.toNat = 4 := by decide
    rw [UInt64.toNat_add, UInt64.toNat_add, hoffset, hwidth]
    omega
  have hfits : Span.packetFits packet.data packet.dataEnd Field.source.offset
      Field.source.width.bytes.toUInt64 = decide (30 ≤ packet.bytes.length) := by
    rw [Span.packetFits, decide_eq_decide, UInt64.le_iff_toNat_le, hlast, hend]
    omega
  have havailable : packet.available = packet.bytes.length := by
    rw [Packet.available, hend]
    omega
  rw [Packet.sourceKey, hfits, havailable, Frame.sourceKey, Frame.read, Frame.fits_source]
  split
  · rfl
  · rfl

/-! ### Counting in a kernel map -/

section Count

variable {maps : Maps} {key : UInt32}

theorem countSource_of_some {count : UInt64} (hget : maps.counters.get? key = some count) :
    countSource {} key maps =
      (.updated (count + 1), { maps with counters := maps.counters.put key (count + 1) }) := by
  simp only [countSource, countPresent, hget, BoundedMap.bump_eq]

theorem countSource_of_room (hget : maps.counters.get? key = none)
    (hpolicy : insertPolicy {} maps = .lookupOrInsert)
    (hroom : maps.counters.size < counterCapacity) :
    countSource {} key maps =
      (.inserted, { maps with counters := maps.counters.put key 1 }) := by
  simp only [countSource, disturbed, hget, hpolicy, Bool.false_eq_true, if_false,
    BoundedMap.insertNew?_of_room hget hroom]

/-- A key that is absent and may not be inserted, or finds no room, is not counted. -/
theorem countSource_of_refused (hget : maps.counters.get? key = none)
    (hrefused : insertPolicy {} maps = .lookupOnly ∨ ¬ maps.counters.size < counterCapacity) :
    countSource {} key maps = (.notFound, maps) := by
  cases hpolicy : insertPolicy {} maps with
  | lookupOnly => simp only [countSource, hget, hpolicy]
  | lookupOrInsert =>
    rcases hrefused with hlookup | hfull
    · exact absurd (hpolicy.symm.trans hlookup) (by decide)
    · simp only [countSource, countPresent, disturbed, hget, hpolicy, Bool.false_eq_true, if_false,
        BoundedMap.insertNew?_of_full hget hfull]

end Count

end Kernel

/-- The kernel's maps and a table have the same policy and hold the same keys with the same
counts. -/
structure Mirrors (maps : Kernel.Maps) (t : CountingTable counterCapacity) : Prop where
  sound : t.Sound
  policy : Kernel.insertPolicy {} maps = t.policy
  get?_eq : ∀ key, t.get? key = maps.counters.get? key

namespace Mirrors

variable {maps : Kernel.Maps} {t t' : CountingTable counterCapacity}

theorem entries_perm (h : Mirrors maps t) : t.entries.Perm maps.counters.entries :=
  h.sound.entries_perm_ledger h.get?_eq

theorem size_eq (h : Mirrors maps t) : t.size = maps.counters.size := by
  rw [h.sound.size_eq, ← t.length_entries]
  exact h.entries_perm.length_eq

/-- Setting the count of a key on both sides keeps them together. -/
theorem sets {key : UInt32} {count : UInt64} (h : Mirrors maps t) (hsets : t.Sets t' key count)
    (htakes : maps.counters.takes key) :
    Mirrors { maps with counters := maps.counters.put key count } t' where
  sound := hsets.sound
  policy := h.policy.trans hsets.policy.symm
  get?_eq k := by rw [hsets.get?_eq, Kernel.BoundedMap.get?_put htakes, h.get?_eq]

/-- Counting one key on both sides gives the same answer and keeps them together. -/
theorem count (h : Mirrors maps t) (key : UInt32) :
    (Kernel.countSource {} key maps).1 = (t.increment key).1 ∧
      Mirrors (Kernel.countSource {} key maps).2 (t.increment key).2 := by
  have hget := h.get?_eq key
  have hsize := h.size_eq
  -- each side decides by presence, then by policy, then by room, and sees the same of all three
  cases hkernel : maps.counters.get? key with
  | some count =>
    obtain ⟨t', hincrement, hsets⟩ := h.sound.increment_of_some (hget.trans hkernel)
    rw [Kernel.countSource_of_some hkernel, hincrement]
    exact ⟨rfl, h.sets hsets (Kernel.BoundedMap.takes_of_some hkernel)⟩
  | none =>
    have htable := hget.trans hkernel
    cases hpolicy : Kernel.insertPolicy {} maps with
    | lookupOnly =>
      rw [Kernel.countSource_of_refused hkernel (.inl hpolicy),
        h.sound.increment_of_refused htable (.inl (h.policy.symm.trans hpolicy))]
      exact ⟨rfl, h⟩
    | lookupOrInsert =>
      by_cases hroom : maps.counters.size < counterCapacity
      · obtain ⟨t', hincrement, hsets⟩ :=
          h.sound.increment_of_room htable (h.policy.symm.trans hpolicy) (hsize ▸ hroom)
        rw [Kernel.countSource_of_room hkernel hpolicy hroom, hincrement]
        exact ⟨rfl, h.sets hsets (Kernel.BoundedMap.takes_of_room hroom key)⟩
      · have hfull : t.size = counterCapacity := by
          have hle := h.sound.size_le
          omega
        rw [Kernel.countSource_of_refused hkernel (.inr hroom),
          h.sound.increment_of_refused htable (.inr hfull)]
        exact ⟨rfl, h⟩

/-- Maps and tables that have been seeded with the same hosts, under the same policy. -/
theorem of_seeded {hosts : List Address} (hseeded : Seeded maps.counters hosts)
    (hword : maps.control[Kernel.policySlot]? = some t.policy.raw)
    (htallies : Tallies t hosts.eraseDups fun _ => 0) : Mirrors maps t := by
  have hpolicy : t.policy = Kernel.insertPolicy {} maps := by
    rw [Kernel.insertPolicy, hword]
    exact (InsertPolicy.ofRaw_raw t.policy).symm
  refine ⟨htallies.sound, hpolicy.symm, fun key => ?_⟩
  have hkernel := hseeded.get?_eq (Address.ofKey key)
  have htable := htallies.get?_eq (Address.ofKey key)
  simp only [List.mem_eraseDups] at htable
  rw [Address.key_ofKey] at hkernel htable
  exact htable.trans hkernel.symm

/-- Both sides report the same counters. -/
theorem counters_eq {plane : Plane} (h : Mirrors maps plane.table) :
    CounterEntry.sorted maps.counters.entries = plane.snapshot.entries := by
  have hnodup := CountingTable.nodup_keys_entries h.sound.placed
  rw [Plane.snapshot, CounterEntry.sorted_eq_of_perm h.entries_perm hnodup]

/-- A packet in place is filtered by the kernel as its frame is observed by the plane. -/
theorem filter {packet : Kernel.Packet} {plane : Plane} (h : Mirrors maps plane.table)
    (hread : packet.sourceKey = packet.bytes.sourceKey) :
    (Kernel.Entry.run {} packet maps .filterPackets).1 =
        (plane.observe .source packet.bytes).1.verdict.raw ∧
      (plane.observe .source packet.bytes).1.outcome = (match packet.sourceKey with
        | .ok key => .counted (Kernel.countSource {} key maps).1
        | .error _ => .insufficientData) ∧
      Mirrors (Kernel.Entry.run {} packet maps .filterPackets).2
        (plane.observe .source packet.bytes).2.table := by
  simp only [Kernel.Entry.run, Kernel.filterPackets, Plane.observe, HandlerKind.observe, hread]
  cases packet.bytes.sourceKey with
  | error short => exact ⟨rfl, rfl, h⟩
  | ok key =>
    obtain ⟨hresult, hnext⟩ := h.count key
    exact ⟨rfl, congrArg Outcome.counted hresult.symm, hnext⟩

end Mirrors

namespace Kernel.Host

/-- The kernel after the source counter has filtered packets. -/
def filterAll (host : Host) (packets : List Packet) : Host :=
  packets.foldl (fun host packet =>
    { host with maps := (Entry.run {} packet host.maps .filterPackets).2 }) host

theorem filterAll_concat (host : Host) (packets : List Packet) (packet : Packet) :
    (host.filterAll (packets ++ [packet])).maps =
      (Entry.run {} packet (host.filterAll packets).maps .filterPackets).2 := by
  rw [filterAll, List.foldl_append]
  rfl

theorem script_filterAll (host : Host) (packets : List Packet) :
    (host.filterAll packets).script = host.script := by
  induction packets generalizing host with
  | nil => rfl
  | cons packet rest ih => exact ih _

/-- What has been filtered by the kernel and observed by the plane stays together. -/
theorem mirrors_filterAll {host : Host} {plane : Plane} (h : Mirrors host.maps plane.table)
    {packets : List Packet}
    (hread : ∀ packet ∈ packets, packet.sourceKey = packet.bytes.sourceKey) :
    Mirrors (host.filterAll packets).maps
      (plane.observeAll .source (packets.map (·.bytes))).table := by
  induction packets using List.reverseRecOn with
  | nil => exact h
  | append_singleton packets packet ih =>
    have hbefore := ih fun other hother => hread other (List.mem_append_left _ hother)
    rw [filterAll_concat, List.map_append, List.map_singleton, Plane.observeAll_concat]
    exact (hbefore.filter (hread packet (by simp))).2.2

end Kernel.Host

/-- For every valid configuration whose license opens the counter, with a kernel that serves and
passes the checks: agent and plane start; every packet is read alike, counted alike and answered
alike by the kernel's program and the plane's handler, whatever came before it; and after any number
of packets the agent reads back the entries of the plane's snapshot. -/
theorem Agent.filter_agrees_with_plane {config : Config} (hvalid : config.validate = .ok ())
    (hlicense : License.isCompatible config.license) {output : VersionOutput}
    {host : Kernel.Host} (hpreflight : ((preflight output).after host).1 = .ok ())
    (hserves : host.script.Serves) {packets : List Kernel.Packet}
    (hplaced : ∀ packet ∈ packets,
      packet.dataEnd.toNat = packet.data.toNat + packet.bytes.length ∧
        packet.data.toNat + 30 < 2 ^ 64) :
    ∃ prepared plane, (start config output).after host = (.ok (), prepared) ∧
      (Plane.ofConfig config).result = .ok plane ∧
      (plane.deploy (.handler .source)).result = .ok () ∧
      (∀ before packet later, packets = before ++ packet :: later →
        let maps := (prepared.filterAll before).maps
        let observed := ((plane.observeAll .source (before.map (·.bytes))).observe .source
          packet.bytes).1
        packet.sourceKey = packet.bytes.sourceKey ∧
          (Kernel.Entry.run {} packet maps .filterPackets).1 = observed.verdict.raw ∧
          observed.outcome = match packet.sourceKey with
            | .ok key => .counted (Kernel.countSource {} key maps).1
            | .error _ => .insufficientData) ∧
      ∀ before later, packets = before ++ later →
        (counters.after (prepared.filterAll before)).1 =
          .ok (plane.observeAll .source (before.map (·.bytes))).snapshot.entries := by
  obtain ⟨prepared, hstart, hscript, hword, hseeded⟩ :=
    start_after hvalid hlicense hpreflight hserves
  obtain ⟨plane, hplane, hsame, hpolicy, htallies⟩ := Plane.ofConfig_result hvalid
  have hmirrors : Mirrors prepared.maps plane.table :=
    Mirrors.of_seeded hseeded (hpolicy ▸ hword) htallies
  have hread : ∀ packet ∈ packets, packet.sourceKey = packet.bytes.sourceKey :=
    fun packet hpacket =>
      Kernel.Packet.sourceKey_eq (hplaced packet hpacket).1 (hplaced packet hpacket).2
  refine ⟨prepared, plane, hstart, hplane, Plane.deploy_result (hsame ▸ hlicense) _, ?_, ?_⟩
  · intro before packet later hsplit maps observed
    have hnow := hread packet (by simp [hsplit])
    have hbefore : Mirrors maps _ := Kernel.Host.mirrors_filterAll hmirrors
      fun other hother => hread other (by simp [hsplit, hother])
    obtain ⟨hraw, houtcome, _⟩ := hbefore.filter hnow
    exact ⟨hnow, hraw, houtcome⟩
  · intro before later hsplit
    have hbefore : Mirrors (prepared.filterAll before).maps _ :=
      Kernel.Host.mirrors_filterAll hmirrors
        fun other hother => hread other (by simp [hsplit, hother])
    rw [counters_after (by rw [Kernel.Host.script_filterAll, hscript]; exact hserves),
      hbefore.counters_eq]

/-- A host that is given twice, a source that is not a host, and a frame that is cut off, at three
addresses, the last of which leaves hardly any room. -/
theorem Agent.filter_agrees_with_plane_cut_off :
    let config : Config := { policy := .lookupOrInsert, hosts := [⟨10, 0, 0, 1⟩, ⟨10, 0, 0, 1⟩] }
    let output : VersionOutput := .ok [54, 46, 56, 10]
    let host : Kernel.Host := {}
    let known : Frame := List.replicate 26 0 ++ [10, 0, 0, 1]
    let other : Frame := List.replicate 26 0 ++ [10, 0, 0, 2]
    let packets : List Kernel.Packet :=
      [⟨0x1000, known⟩, ⟨0, other.take 29⟩, ⟨0xffffffffffffffe1, other⟩]
    config.validate = .ok () ∧ License.isCompatible config.license ∧
      ((preflight output).after host).1 = .ok () ∧ host.script.Serves ∧
      (∀ packet ∈ packets, packet.dataEnd.toNat = packet.data.toNat + packet.bytes.length ∧
        packet.data.toNat + 30 < 2 ^ 64) ∧
      packets.map Kernel.Packet.sourceKey =
        [.ok 0x100000a, .error ⟨30, 29⟩, .ok 0x200000a] ∧
      ∃ prepared plane, (start config output).after host = (.ok (), prepared) ∧
        (Plane.ofConfig config).result = .ok plane ∧
        (counters.after (prepared.filterAll packets)).1 =
          .ok (plane.observeAll .source [known, other.take 29, other]).snapshot.entries := by
  intro config output host known other packets
  have hvalid : config.validate = .ok () := by decide
  have hlicense : License.isCompatible config.license := by decide
  have hpreflight : ((preflight output).after host).1 = .ok () := by decide
  have hserves : host.script.Serves := by
    constructor <;> decide
  have hplaced : ∀ packet ∈ packets,
      packet.dataEnd.toNat = packet.data.toNat + packet.bytes.length ∧
        packet.data.toNat + 30 < 2 ^ 64 := by decide
  obtain ⟨prepared, plane, hstart, hplane, -, -, hcounters⟩ :=
    filter_agrees_with_plane hvalid hlicense hpreflight hserves hplaced
  exact ⟨hvalid, hlicense, hpreflight, hserves, hplaced, by decide, prepared, plane, hstart, hplane,
    hcounters packets [] (List.append_nil _).symm⟩

end SourceTally
