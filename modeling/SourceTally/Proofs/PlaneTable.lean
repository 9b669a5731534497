import Mathlib.Data.List.Induction
import SourceTally.Plane
import SourceTally.Proofs.SourceKey
import SourceTally.Proofs.TableRefinement

/-!
# The table of a plane

What the operations of a plane do to its counting table, in terms of addresses: hosts are seeded
under the keys of their addresses, frames count the keys of their sources, and a snapshot shows the
counts of the table.

## Main definitions

* `Plane.observeAll`: observe frames in order
* `Tallies`: a table holds the counts of the given addresses

## Main statements

* `Plane.ofConfig_result`: a valid configuration gives a plane that knows its hosts
* `Plane.observe_source_table`: a frame counts its source, if it has one
* `Plane.countFor?_snapshot`: a snapshot shows the counts of the table
-/

namespace SourceTally

namespace Attempt

variable {α β : Type}

theorem result_note (component : Log.Component) (level : Log.Level) (text : String) :
    result (note component level text) = .ok () := rfl

theorem result_bind_of_ok {x : Attempt α} {a : α} (h : x.result = .ok a) (f : α → Attempt β) :
    result (x >>= f) = (f a).result := by
  have hvalue : x.run.value = .ok a := h
  simp only [result, ExceptT.run_bind, Logged.value_bind, hvalue]

end Attempt

theorem Program.check_of_isCompatible (program : Program) {license : String}
    (h : License.isCompatible license) : program.check license = .ok () := by
  rw [Program.check, checkLicense, h, Bool.not_true, Bool.and_false]
  rfl

theorem Config.validate_eq_ok_iff {config : Config} : config.validate = .ok () ↔
    config.hosts.length ≤ counterCapacity ∧ Text.trim config.license.toList ≠ [] := by
  rw [validate]
  by_cases hmany : config.hosts.length > counterCapacity
  · rw [if_pos hmany]
    exact iff_of_false nofun fun hvalid => Nat.not_lt.2 hvalid.1 hmany
  · rw [if_neg hmany]
    by_cases hblank : Text.trim config.license.toList = []
    · rw [if_pos (by simpa using hblank)]
      exact iff_of_false nofun fun hvalid => hvalid.2 hblank
    · rw [if_neg (by simpa using hblank)]
      exact iff_of_true rfl ⟨Nat.not_lt.1 hmany, hblank⟩

/-! ### Addresses in a table -/

section EraseDups

variable {α : Type} [DecidableEq α]

/-- A value at the end is kept if it is new. -/
theorem eraseDups_concat (l : List α) (a : α) :
    (l ++ [a]).eraseDups = if a ∈ l then l.eraseDups else l.eraseDups ++ [a] := by
  rw [List.eraseDups_append]
  split
  · next h => simp [List.removeAll, h]
  · next h => simp [List.removeAll, h, List.eraseDups_cons]

theorem length_eraseDups_le (l : List α) : l.eraseDups.length ≤ l.length := by
  induction l using List.reverseRecOn with
  | nil => exact Nat.le_refl _
  | append_singleton l a ih =>
    rw [eraseDups_concat]
    split <;> simp <;> omega

theorem nodup_eraseDups (l : List α) : l.eraseDups.Nodup := by
  induction l using List.reverseRecOn with
  | nil => exact List.nodup_nil
  | append_singleton l a ih =>
    rw [eraseDups_concat]
    split
    · exact ih
    · next hnew =>
      rw [← List.concat_eq_append]
      exact ih.concat (by simpa using hnew)

theorem eraseDups_eq_self {l : List α} (h : l.Nodup) : l.eraseDups = l := by
  induction l using List.reverseRecOn with
  | nil => rfl
  | append_singleton l a ih =>
    have hnodup := List.nodup_append.1 h
    have hnew : a ∉ l := fun hmem => hnodup.2.2 a hmem a List.mem_cons_self rfl
    rw [eraseDups_concat, if_neg hnew, ih hnodup.1]

end EraseDups

variable {N : Nat} [HasSlots N]

/-- A table lists no address twice. -/
theorem CountingTable.nodup_addresses_entries {t : CountingTable N} (h : Placed t.slots) :
    (t.entries.map fun e => Address.ofKey e.1).Nodup := by
  have hinj : Function.Injective Address.ofKey := fun a b hab => by
    rw [← Address.key_ofKey a, hab, Address.key_ofKey]
  have hkeys := (nodup_keys_entries h).map hinj
  rwa [List.map_map] at hkeys

/-- A table holds the keys of the given addresses, and no others, with the given counts. -/
structure Tallies (t : CountingTable N) (addrs : List Address) (count : Address → UInt64) :
    Prop where
  sound : t.Sound
  nodup : addrs.Nodup
  get?_eq : ∀ addr : Address, t.get? addr.key = if addr ∈ addrs then some (count addr) else none

namespace Tallies

variable {t t' : CountingTable N} {addrs : List Address} {count count' : Address → UInt64}
  {addr : Address}

theorem empty (policy : InsertPolicy) (count : Address → UInt64) :
    Tallies (CountingTable.empty N policy) [] count where
  sound := CountingTable.sound_empty policy
  nodup := List.nodup_nil
  get?_eq addr := (Represents.empty policy).get?_eq addr.key

theorem congr (h : Tallies t addrs count) (hcount : ∀ addr ∈ addrs, count addr = count' addr) :
    Tallies t addrs count' where
  sound := h.sound
  nodup := h.nodup
  get?_eq addr := by
    rw [h.get?_eq]
    split
    · next hmem => rw [hcount addr hmem]
    · rfl

/-- The addresses of a listing are those whose counts the table holds. -/
theorem addresses_perm (h : Tallies t addrs count) :
    (t.entries.map fun e => Address.ofKey e.1).Perm addrs := by
  -- neither list repeats an address, so it is enough that they have the same members
  rw [List.perm_ext_iff_of_nodup (CountingTable.nodup_addresses_entries h.sound.placed) h.nodup]
  intro addr
  rw [List.mem_map]
  constructor
  · rintro ⟨⟨key, c⟩, hmem, rfl⟩
    rw [CountingTable.mem_entries, ← CountingTable.get?_eq_some_iff h.sound.placed,
      ← Address.key_ofKey key, h.get?_eq] at hmem
    by_contra hnot
    rw [if_neg hnot] at hmem
    exact Option.some_ne_none c hmem.symm
  · intro hmem
    refine ⟨(addr.key, count addr), ?_, Address.ofKey_key addr⟩
    rw [CountingTable.mem_entries, ← CountingTable.get?_eq_some_iff h.sound.placed, h.get?_eq,
      if_pos hmem]

theorem size_eq (h : Tallies t addrs count) : t.size = addrs.length := by
  rw [h.sound.size_eq, ← t.length_entries, ← h.addresses_perm.length_eq, List.length_map]

/-- Setting the count of an address that is there. -/
theorem sets_known (h : Tallies t addrs count) (hmem : addr ∈ addrs)
    (hsets : t.Sets t' addr.key (count' addr))
    (hcount : ∀ other ∈ addrs, other ≠ addr → count' other = count other) :
    Tallies t' addrs count' where
  sound := hsets.sound
  nodup := h.nodup
  get?_eq other := by
    rw [hsets.get?_eq]
    by_cases heq : other = addr
    · subst heq
      rw [if_pos rfl, if_pos hmem]
    · rw [if_neg (mt Address.key_inj.1 heq), h.get?_eq]
      split
      · next hother => rw [hcount other hother heq]
      · rfl

/-- Setting the count of a new address. -/
theorem sets_new (h : Tallies t addrs count) (hnew : addr ∉ addrs)
    (hsets : t.Sets t' addr.key (count' addr))
    (hcount : ∀ other ∈ addrs, count' other = count other) :
    Tallies t' (addrs ++ [addr]) count' where
  sound := hsets.sound
  nodup := by
    rw [← List.concat_eq_append]
    exact h.nodup.concat hnew
  get?_eq other := by
    rw [hsets.get?_eq]
    by_cases heq : other = addr
    · subst heq
      rw [if_pos rfl, if_pos (by simp)]
    · rw [if_neg (mt Address.key_inj.1 heq), h.get?_eq]
      by_cases hother : other ∈ addrs
      · rw [if_pos hother, if_pos (by simp [hother]), hcount other hother]
      · rw [if_neg hother, if_neg (by simp [hother, heq])]

/-- Seeding an address while there is room. -/
theorem seed (h : Tallies t addrs fun _ => 0) (hroom : addrs.length < N) (addr : Address) :
    ∃ t', t.seed addr.key = .ok t' ∧ t'.policy = t.policy ∧
      Tallies t' (if addr ∈ addrs then addrs else addrs ++ [addr]) fun _ => 0 := by
  have hget := h.get?_eq addr
  split
  · next hmem =>
    rw [if_pos hmem] at hget
    exact ⟨t, h.sound.seed_of_some hget, rfl, h⟩
  · next hnew =>
    rw [if_neg hnew] at hget
    obtain ⟨t', hseed, hsets⟩ := h.sound.seed_of_room hget (h.size_eq ▸ hroom)
    exact ⟨t', hseed, hsets.policy, h.sets_new hnew hsets fun _ _ => rfl⟩

end Tallies

namespace Plane

theorem seed_result (plane : Plane) (addr : Address) :
    (plane.seed addr).result = plane.seed? addr := rfl

/-- Seeding hosts into an empty table that has room for all of them. -/
theorem foldlM_seed_result {plane : Plane} (hempty : Tallies plane.table [] fun _ => 0)
    (hosts : List Address) (hfit : hosts.length ≤ counterCapacity) :
    ∃ plane', Attempt.result (hosts.foldlM seed plane) = .ok plane' ∧
      plane'.license = plane.license ∧ plane'.table.policy = plane.table.policy ∧
      Tallies plane'.table hosts.eraseDups fun _ => 0 := by
  -- from the end, since the table holds the distinct hosts of what has been seeded so far
  induction hosts using List.reverseRecOn with
  | nil => exact ⟨plane, rfl, rfl, rfl, hempty⟩
  | append_singleton hosts addr ih =>
    rw [List.length_append, List.length_singleton] at hfit
    obtain ⟨middle, hmiddle, hlicense, hpolicy, htallies⟩ := ih (by omega)
    have hroom := length_eraseDups_le hosts
    obtain ⟨table, hseed, htable, hlast⟩ := htallies.seed (by omega) addr
    have hone : (middle.seed addr).result = .ok { middle with table } := by
      rw [seed_result, seed?, hseed]
    refine ⟨{ middle with table }, ?_, hlicense, htable.trans hpolicy, ?_⟩
    · rw [List.foldlM_append, Attempt.result_bind_of_ok hmiddle, List.foldlM_cons,
        Attempt.result_bind_of_ok hone]
      rfl
    · rw [eraseDups_concat]
      simpa only [List.mem_eraseDups] using hlast

theorem length_hosts_le {config : Config} (h : config.validate = .ok ()) :
    config.hosts.length ≤ counterCapacity :=
  (Config.validate_eq_ok_iff.1 h).1

/-- A valid configuration gives a plane that knows its hosts and has counted nothing. -/
theorem ofConfig_result {config : Config} (h : config.validate = .ok ()) :
    ∃ plane, (ofConfig config).result = .ok plane ∧ plane.license = config.license ∧
      plane.table.policy = config.policy ∧
      Tallies plane.table config.hosts.eraseDups fun _ => 0 := by
  have hvalid : Attempt.result (liftM (config.validate.mapError Error.config)) = .ok () := by
    rw [h]
    rfl
  let start : Plane := { empty config.policy with license := config.license }
  have hempty : Tallies start.table [] fun _ => 0 := Tallies.empty config.policy _
  obtain ⟨plane, hplane, hlicense, hpolicy, htallies⟩ :=
    foldlM_seed_result hempty config.hosts (length_hosts_le h)
  refine ⟨plane, ?_, hlicense, hpolicy, htallies⟩
  rw [ofConfig, Attempt.result_bind_of_ok hvalid, Attempt.result_bind_of_ok hplane,
    Attempt.result_bind_of_ok (Attempt.result_note _ _ _)]
  split
  · rfl
  · rfl

theorem admits_of_isCompatible {plane : Plane} (h : License.isCompatible plane.license)
    (program : Program) : plane.admits program = .ok () := by
  rw [admits, program.check_of_isCompatible h]
  rfl

theorem deploy_result {plane : Plane} (h : License.isCompatible plane.license)
    (kind : ProgramKind) : (plane.deploy kind).result = .ok () := by
  have hadmits : Attempt.result (liftM (plane.admits kind.program)) = .ok () := by
    rw [admits_of_isCompatible h]
    rfl
  rw [deploy, Attempt.result_bind_of_ok hadmits]
  rfl

theorem observe_source_of_none (plane : Plane) {frame : Frame} (h : frame.source? = none) :
    plane.observe .source frame = (⟨.xdp .pass, .insufficientData⟩, plane) := by
  rw [observe, HandlerKind.observe, frame.sourceKey_eq, h]
  rfl

theorem observe_source_of_some (plane : Plane) {frame : Frame} {addr : Address}
    (h : frame.source? = some addr) :
    plane.observe .source frame =
      (⟨.xdp .pass, .counted (plane.table.increment addr.key).1⟩,
        { plane with table := (plane.table.increment addr.key).2 }) := by
  rw [observe, HandlerKind.observe, frame.sourceKey_eq, h]
  rfl

theorem observe_source_table (plane : Plane) (frame : Frame) :
    (plane.observe .source frame).2.table = match frame.source? with
      | some addr => (plane.table.increment addr.key).2
      | none => plane.table := by
  cases hsource : frame.source? with
  | some addr => rw [plane.observe_source_of_some hsource]
  | none => rw [plane.observe_source_of_none hsource]

/-- Observe frames in order. -/
def observeAll (plane : Plane) (handler : HandlerKind) (frames : List Frame) : Plane :=
  frames.foldl (fun plane frame => (plane.observe handler frame).2) plane

theorem observeAll_concat (plane : Plane) (handler : HandlerKind) (frames : List Frame)
    (frame : Frame) : plane.observeAll handler (frames ++ [frame]) =
      ((plane.observeAll handler frames).observe handler frame).2 := by
  rw [observeAll, List.foldl_append]
  rfl

/-! ### Snapshots -/

theorem mem_snapshot {plane : Plane} {entry : CounterEntry} (h : Placed plane.table.slots) :
    entry ∈ plane.snapshot.entries ↔
      plane.table.get? entry.key = some entry.count ∧ entry.addr = Address.ofKey entry.key := by
  rw [snapshot, CounterEntry.sorted, List.mem_mergeSort, List.mem_map]
  constructor
  · rintro ⟨⟨key, count⟩, hmem, rfl⟩
    rw [CountingTable.mem_entries, ← CountingTable.get?_eq_some_iff h] at hmem
    exact ⟨hmem, rfl⟩
  · rintro ⟨hget, haddr⟩
    refine ⟨(entry.key, entry.count), ?_, ?_⟩
    · rw [CountingTable.mem_entries, ← CountingTable.get?_eq_some_iff h]
      exact hget
    · exact congrArg (CounterEntry.mk · entry.key entry.count) haddr.symm

theorem countFor?_snapshot {plane : Plane} (h : Placed plane.table.slots) (addr : Address) :
    plane.snapshot.countFor? addr = plane.table.get? addr.key := by
  rw [Snapshot.countFor?]
  cases hfind : plane.snapshot.entries.find? fun e => e.addr = addr with
  | some entry =>
    obtain ⟨hget, haddr⟩ := (mem_snapshot h).1 (List.mem_of_find?_eq_some hfind)
    have hentry : entry.addr = addr := by simpa using List.find?_some hfind
    rw [← hentry, haddr, Address.key_ofKey, hget]
    rfl
  | none =>
    cases hget : plane.table.get? addr.key with
    | none => rfl
    | some count =>
      have hmem : ⟨addr, addr.key, count⟩ ∈ plane.snapshot.entries :=
        (mem_snapshot h).2 ⟨hget, (Address.ofKey_key addr).symm⟩
      simpa using List.find?_eq_none.1 hfind _ hmem

theorem addresses_snapshot (plane : Plane) : (plane.snapshot.entries.map (·.addr)).Perm
    (plane.table.entries.map fun e => Address.ofKey e.1) := by
  refine ((List.mergeSort_perm _ _).map _).trans ?_
  rw [List.map_map]
  exact .refl _

theorem addresses_snapshot_perm {plane : Plane} {addrs : List Address}
    {count : Address → UInt64} (h : Tallies plane.table addrs count) :
    (plane.snapshot.entries.map (·.addr)).Perm addrs :=
  plane.addresses_snapshot.trans h.addresses_perm

end Plane

end SourceTally
