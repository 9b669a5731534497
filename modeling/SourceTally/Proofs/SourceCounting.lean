import Mathlib.Data.List.Induction
import SourceTally.Proofs.PlaneTable

/-!
# Counting sources from configuration to snapshot

A plane is set up from a configuration, its source counter observes frames, and a snapshot is taken.
Which addresses the snapshot lists depends on the hosts and on the order in which other sources
first appear. How often each of them is counted depends on the frames alone.

## Main definitions

* `newcomers`: sources that are not known, in the order of their first appearance
* `listed`: the addresses that have a place in the table

## Main statements

* `Tallies.increment`: counting one source
* `Plane.tallies_observeAll_from`: counting the sources of frames
* `Plane.snapshot_counts_sources`: the snapshot after a run
-/

namespace SourceTally

/-- The sources that are not known, each once, in the order of their first appearance. -/
def newcomers (known sources : List Address) : List Address :=
  (sources.filter (· ∉ known)).eraseDups

/-- The addresses in a table of the given capacity once the sources have been counted. -/
def listed (capacity : Nat) (policy : InsertPolicy) (known sources : List Address) :
    List Address :=
  match policy with
  | .lookupOnly => known
  | .lookupOrInsert => known ++ (newcomers known sources).take (capacity - known.length)

section Listed

variable {capacity : Nat} {policy : InsertPolicy} {known sources : List Address} {addr : Address}

theorem mem_newcomers : addr ∈ newcomers known sources ↔ addr ∈ sources ∧ addr ∉ known := by
  simp [newcomers]

theorem newcomers_concat : newcomers known (sources ++ [addr]) =
    if addr ∈ known ∨ addr ∈ sources then newcomers known sources
    else newcomers known sources ++ [addr] := by
  by_cases hknown : addr ∈ known
  · simp [newcomers, hknown]
  · have hfilter : (sources ++ [addr]).filter (· ∉ known) =
        sources.filter (· ∉ known) ++ [addr] := by simp [hknown]
    rw [newcomers, hfilter, eraseDups_concat]
    simp only [List.mem_filter, hknown, not_false_eq_true, decide_true, and_true, false_or]
    rfl

theorem listed_nil : listed capacity policy known [] = known := by
  cases policy with
  | lookupOnly => rfl
  | lookupOrInsert => simp [listed, newcomers]

/-- While there is room, every source has its place. -/
theorem mem_listed_of_room (hpolicy : policy = .lookupOrInsert)
    (hroom : (listed capacity policy known sources).length < capacity) (hmem : addr ∈ sources) :
    addr ∈ listed capacity policy known sources := by
  subst hpolicy
  rw [listed, List.length_append, List.length_take] at hroom
  rw [listed, List.take_of_length_le (by omega), List.mem_append, mem_newcomers]
  by_cases hknown : addr ∈ known
  · exact .inl hknown
  · exact .inr ⟨hmem, hknown⟩

theorem listed_concat_of_mem (hmem : addr ∈ listed capacity policy known sources) :
    listed capacity policy known (sources ++ [addr]) =
      listed capacity policy known sources := by
  cases policy with
  | lookupOnly => rfl
  | lookupOrInsert =>
    have hseen : addr ∈ known ∨ addr ∈ sources := by
      rcases List.mem_append.1 hmem with hknown | htake
      · exact .inl hknown
      · exact .inr (mem_newcomers.1 (List.mem_of_mem_take htake)).1
    rw [listed, newcomers_concat, if_pos hseen, listed]

theorem listed_concat_of_room (hpolicy : policy = .lookupOrInsert)
    (hroom : (listed capacity policy known sources).length < capacity)
    (hnew : addr ∉ listed capacity policy known sources) :
    listed capacity policy known (sources ++ [addr]) =
      listed capacity policy known sources ++ [addr] := by
  have hsources : addr ∉ sources := mt (mem_listed_of_room hpolicy hroom) hnew
  subst hpolicy
  have hknown : addr ∉ known := fun h => hnew (List.mem_append_left _ h)
  rw [listed, List.length_append, List.length_take] at hroom
  have hfits : (newcomers known sources ++ [addr]).length ≤ capacity - known.length := by
    rw [List.length_append, List.length_singleton]
    omega
  rw [listed, newcomers_concat, if_neg (not_or.2 ⟨hknown, hsources⟩), listed,
    List.take_of_length_le hfits, List.take_of_length_le (by omega), List.append_assoc]

theorem listed_concat_of_full (hfull : (listed capacity .lookupOrInsert known sources).length =
      capacity) :
    listed capacity .lookupOrInsert known (sources ++ [addr]) =
      listed capacity .lookupOrInsert known sources := by
  rw [listed, List.length_append, List.length_take] at hfull
  rw [listed, newcomers_concat, listed]
  split
  · rfl
  · rw [List.take_append_of_le_length (by omega)]

end Listed

variable {N : Nat} [HasSlots N]

/-- Counting one source keeps the table in step with the sources. The known addresses may have been
counted before. -/
theorem Tallies.increment {t : CountingTable N} {policy : InsertPolicy}
    {known sources : List Address} {base : Address → UInt64}
    (hbase : ∀ a ∉ known, base a = 0) (hpolicy : t.policy = policy)
    (h : Tallies t (listed N policy known sources) fun a => base a + .ofNat (sources.count a))
    (addr : Address) :
    (t.increment addr.key).2.policy = policy ∧
      Tallies (t.increment addr.key).2 (listed N policy known (sources ++ [addr]))
        fun a => base a + .ofNat ((sources ++ [addr]).count a) := by
  have hself : (sources ++ [addr]).count addr = sources.count addr + 1 := by simp
  have hothers : ∀ other, other ≠ addr →
      base other + .ofNat ((sources ++ [addr]).count other) =
        base other + .ofNat (sources.count other) := by
    intro other hne
    rw [List.count_append, List.count_singleton, if_neg (by simpa using hne.symm), Nat.add_zero]
  have hget := h.get?_eq addr
  by_cases hmem : addr ∈ listed N policy known sources
  · -- the address has its place, and its count goes up
    rw [if_pos hmem] at hget
    obtain ⟨t', hincrement, hsets⟩ := h.sound.increment_of_some hget
    rw [UInt64.add_assoc, ← UInt64.ofNat_one, ← UInt64.ofNat_add, ← hself] at hsets
    rw [hincrement, listed_concat_of_mem hmem]
    exact ⟨hsets.policy.trans hpolicy,
      h.sets_known hmem hsets fun other _ hne => hothers other hne⟩
  · rw [if_neg hmem] at hget
    have hkeep : ∀ other ∈ listed N policy known sources,
        base other + .ofNat ((sources ++ [addr]).count other) =
          base other + .ofNat (sources.count other) :=
      fun other hother => hothers other fun heq => hmem (heq ▸ hother)
    have hle : (listed N policy known sources).length ≤ N := h.size_eq ▸ h.sound.size_le
    cases policy with
    | lookupOnly =>
      rw [h.sound.increment_of_refused hget (.inl hpolicy)]
      exact ⟨hpolicy, h.congr fun other hother => (hkeep other hother).symm⟩
    | lookupOrInsert =>
      rcases Nat.lt_or_eq_of_le hle with hroom | hfull
      · -- the address takes the next slot, and this is its first appearance
        have hfirst : sources.count addr = 0 :=
          List.count_eq_zero.2 (mt (mem_listed_of_room rfl hroom) hmem)
        have hone : base addr + .ofNat ((sources ++ [addr]).count addr) = 1 := by
          rw [hself, hfirst, hbase addr fun hknown => hmem (List.mem_append_left _ hknown)]
          rfl
        obtain ⟨t', hincrement, hsets⟩ :=
          h.sound.increment_of_room hget hpolicy (h.size_eq ▸ hroom)
        rw [← hone] at hsets
        rw [hincrement, listed_concat_of_room rfl hroom hmem]
        exact ⟨hsets.policy.trans hpolicy, h.sets_new hmem hsets hkeep⟩
      · rw [h.sound.increment_of_refused hget (.inr (h.size_eq.trans hfull)),
          listed_concat_of_full hfull]
        exact ⟨hpolicy, h.congr fun other hother => (hkeep other hother).symm⟩

namespace Plane

/-- Counting the sources of frames, from a plane that may have counted the known addresses. -/
theorem tallies_observeAll_from {plane : Plane} {policy : InsertPolicy} {known : List Address}
    {base : Address → UInt64} (hbase : ∀ a ∉ known, base a = 0)
    (hpolicy : plane.table.policy = policy) (h : Tallies plane.table known base)
    (frames : List Frame) :
    (plane.observeAll .source frames).table.policy = policy ∧
      Tallies (plane.observeAll .source frames).table
        (listed counterCapacity policy known (frames.filterMap Frame.source?))
        fun a => base a + .ofNat ((frames.filterMap Frame.source?).count a) := by
  induction frames using List.reverseRecOn with
  | nil =>
    refine ⟨hpolicy, ?_⟩
    rw [List.filterMap_nil, listed_nil]
    exact h.congr fun a _ => (UInt64.add_zero _).symm
  | append_singleton frames frame ih =>
    rw [observeAll_concat, observe_source_table, List.filterMap_append]
    cases hsource : frame.source? with
    | none =>
      rw [List.filterMap_cons_none hsource, List.filterMap_nil, List.append_nil]
      exact ih
    | some addr =>
      rw [List.filterMap_cons_some hsource, List.filterMap_nil]
      exact ih.2.increment hbase ih.1 addr

/-- Counting the sources of frames, from a plane that has counted nothing. -/
theorem tallies_observeAll {plane : Plane} {policy : InsertPolicy} {known : List Address}
    (hpolicy : plane.table.policy = policy) (h : Tallies plane.table known fun _ => 0)
    (frames : List Frame) :
    (plane.observeAll .source frames).table.policy = policy ∧
      Tallies (plane.observeAll .source frames).table
        (listed counterCapacity policy known (frames.filterMap Frame.source?))
        fun a => .ofNat ((frames.filterMap Frame.source?).count a) := by
  obtain ⟨hpolicy', htallies⟩ := tallies_observeAll_from (fun _ _ => rfl) hpolicy h frames
  exact ⟨hpolicy', htallies.congr fun _ _ => UInt64.zero_add _⟩

theorem count_filterMap_source (frames : List Frame) (addr : Address) :
    (frames.filterMap Frame.source?).count addr =
      frames.countP fun frame => frame.source? = some addr := by
  rw [List.count, List.countP_filterMap]
  congr 1
  funext frame
  cases frame.source? with
  | none => rfl
  | some source =>
    rw [Bool.eq_iff_iff]
    simp

/-- The snapshot after the source counter has observed frames lists the hosts and, if sources may be
inserted, those sources that came first. Each of them is counted for all its frames, and any other
address for none. -/
theorem snapshot_counts_sources {config : Config} (hvalid : config.validate = .ok ())
    (hlicense : License.isCompatible config.license) {frames : List Frame}
    (hfew : frames.length < 2 ^ 64) :
    ∃ plane, (ofConfig config).result = .ok plane ∧
      (plane.deploy (.handler .source)).result = .ok () ∧
      let snapshot := (plane.observeAll .source frames).snapshot
      let addrs := listed 1024 config.policy config.hosts.eraseDups
        (frames.filterMap Frame.source?)
      (snapshot.entries.map (·.addr)).Perm addrs ∧
      (∀ entry ∈ snapshot.entries,
        entry.count.toNat = frames.countP fun frame => frame.source? = some entry.addr) ∧
      (∀ addr ∈ addrs, ∃ count, snapshot.countFor? addr = some count ∧
        count.toNat = frames.countP fun frame => frame.source? = some addr) ∧
      ∀ addr ∉ addrs, snapshot.countFor? addr = none := by
  obtain ⟨plane, hplane, hsame, hpolicy, hhosts⟩ := ofConfig_result hvalid
  have htallies : Tallies _ (listed 1024 _ _ _) _ := (tallies_observeAll hpolicy hhosts frames).2
  -- fewer than `2 ^ 64` frames cannot wrap a counter around
  have hcount : ∀ addr, (UInt64.ofNat ((frames.filterMap Frame.source?).count addr)).toNat =
      frames.countP fun frame => frame.source? = some addr := by
    intro addr
    rw [count_filterMap_source, UInt64.toNat_ofNat_of_lt']
    exact Nat.lt_of_le_of_lt List.countP_le_length hfew
  refine ⟨plane, hplane, deploy_result (hsame ▸ hlicense) _, addresses_snapshot_perm htallies,
    ?_, ?_, ?_⟩
  · intro entry hentry
    obtain ⟨hget, haddr⟩ := (mem_snapshot htallies.sound.placed).1 hentry
    rw [← Address.key_ofKey entry.key, ← haddr, htallies.get?_eq] at hget
    split at hget
    · rw [← Option.some.inj hget, hcount]
    · exact absurd hget.symm (Option.some_ne_none _)
  · intro addr haddr
    refine ⟨_, ?_, hcount addr⟩
    rw [countFor?_snapshot htallies.sound.placed, htallies.get?_eq, if_pos haddr]
  · intro addr haddr
    rw [countFor?_snapshot htallies.sound.placed, htallies.get?_eq, if_neg haddr]

/-- A host that is given twice and never seen, and a source that is cut off in the second of its
three frames. -/
theorem snapshot_counts_sources_cut_off :
    let host : Address := ⟨10, 0, 0, 1⟩
    let other : Address := ⟨10, 0, 0, 2⟩
    let config : Config := { policy := .lookupOrInsert, hosts := [host, host] }
    let frame : Frame := List.replicate 26 0 ++ [10, 0, 0, 2]
    config.validate = .ok () ∧ License.isCompatible config.license ∧
    ∃ plane, (ofConfig config).result = .ok plane ∧
      let snapshot := (plane.observeAll .source [frame, frame.take 29, frame]).snapshot
      (snapshot.entries.map (·.addr)).Perm [host, other] ∧
      snapshot.countFor? host = some 0 ∧ snapshot.countFor? other = some 2 ∧
      snapshot.countFor? ⟨2, 0, 0, 10⟩ = none := by
  intro host other config frame
  have hvalid : config.validate = .ok () := by decide
  have hlicense : License.isCompatible config.license := by decide
  have hfew : [frame, frame.take 29, frame].length < 2 ^ 64 := by decide
  obtain ⟨plane, hplane, -, hperm, -, hin, hout⟩ := snapshot_counts_sources hvalid hlicense hfew
  have haddrs : listed 1024 config.policy config.hosts.eraseDups
      ([frame, frame.take 29, frame].filterMap Frame.source?) = [host, other] := by decide
  rw [haddrs] at hperm hin hout
  obtain ⟨unseen, hunseen, hzero⟩ := hin host (by decide)
  obtain ⟨two, htwo, htimes⟩ := hin other (by decide)
  refine ⟨hvalid, hlicense, plane, hplane, hperm, ?_, ?_, hout ⟨2, 0, 0, 10⟩ (by decide)⟩
  · rw [hunseen, UInt64.toNat_inj.1 (hzero.trans (by decide : _ = (0 : UInt64).toNat))]
  · rw [htwo, UInt64.toNat_inj.1 (htimes.trans (by decide : _ = (2 : UInt64).toNat))]

end Plane

end SourceTally
