import SourceTally.Proofs.SnapshotView

/-!
# Seeding known hosts cannot fail

A configuration is checked before its hosts are seeded. The check counts entries of a list, and the
table counts distinct keys that it places by their hash. A list that passes the check still finds a
slot for each of its hosts, down to the last slot of the table. What a snapshot shows then depends
on which hosts were listed, and not on how.

## Main definitions

* `Config.tidy`: a configuration with its hosts in ascending order, each of them once

## Main statements

* `Plane.snapshot_eq_of_hosts`: the same hosts give the same snapshot
* `Plane.ofConfig_seeds`: a valid configuration gives a plane with its hosts, and any other is
  refused for what is wrong with it
-/

namespace SourceTally

namespace Config

/-- The configuration with its hosts in ascending order, each of them once. -/
def tidy (config : Config) : Config :=
  { config with hosts := config.hosts.eraseDups.mergeSort Address.le }

variable {config : Config}

theorem mem_hosts_tidy {addr : Address} : addr ∈ config.tidy.hosts ↔ addr ∈ config.hosts := by
  simp [tidy]

theorem pairwise_hosts_tidy (config : Config) : config.tidy.hosts.Pairwise Address.Before := by
  have hsorted : config.tidy.hosts.Pairwise fun a b => a.le b :=
    @List.pairwise_mergeSort Address Address.le (fun _ _ _ hab hbc => Address.le_trans hab hbc)
      Address.le_total _
  have hnodup : config.tidy.hosts.Nodup :=
    (List.mergeSort_perm _ _).nodup_iff.2 (nodup_eraseDups config.hosts)
  exact (hsorted.and hnodup).imp fun hab => Address.before_of_le_of_ne hab.1 hab.2

theorem validate_tidy (h : config.validate = .ok ()) : config.tidy.validate = .ok () := by
  rw [validate_eq_ok_iff] at h ⊢
  refine ⟨?_, h.2⟩
  have hfewer := length_eraseDups_le config.hosts
  rw [tidy, List.length_mergeSort]
  omega

end Config

namespace Plane

variable {config config' : Config} {plane plane' : Plane}

/-- The hosts are in the table with count zero, and nothing else is. -/
theorem get?_of_ofConfig (h : (ofConfig config).result = .ok plane) (addr : Address) :
    plane.table.get? addr.key = if addr ∈ config.hosts then some 0 else none := by
  obtain ⟨-, -, htallies⟩ := tallies_of_ofConfig h
  simpa only [List.mem_eraseDups] using htallies.get?_eq addr

/-- The same hosts give the same snapshot, however they are listed. -/
theorem snapshot_eq_of_hosts (h : (ofConfig config).result = .ok plane)
    (h' : (ofConfig config').result = .ok plane') (hpolicy : config.policy = config'.policy)
    (hhosts : ∀ addr, addr ∈ config.hosts ↔ addr ∈ config'.hosts) :
    plane.snapshot = plane'.snapshot := by
  obtain ⟨-, hplane, htallies⟩ := tallies_of_ofConfig h
  obtain ⟨-, hplane', htallies'⟩ := tallies_of_ofConfig h'
  refine snapshot_eq htallies.sound htallies'.sound ?_ ?_
  · rw [hplane, hplane', hpolicy]
  · intro key
    rw [← Address.key_ofKey key, get?_of_ofConfig h, get?_of_ofConfig h']
    simp only [hhosts]

theorem ofConfig_result_map (config : Config) :
    (ofConfig config).result.map (fun _ => ()) = config.validate.mapError .config := by
  cases hvalid : config.validate with
  | ok =>
    obtain ⟨plane, hplane, -⟩ := ofConfig_result hvalid
    rw [hplane]
    rfl
  | error fault =>
    rw [ofConfig_result_of_invalid hvalid]
    rfl

/-- For every configuration, a plane is made exactly if the configuration is valid, and otherwise
the error is that of the check; the table is never found to be full. A plane that was made knows
each distinct host with count zero and nothing else, and has the policy and the license of the
configuration. Its snapshot is the one that the hosts give in ascending order, each listed once. -/
theorem ofConfig_seeds (config : Config) :
    (ofConfig config).result.map (fun _ => ()) = config.validate.mapError .config ∧
    (∀ capacity addr, (ofConfig config).result ≠ .error (.tableFull capacity addr)) ∧
    ∀ plane, (ofConfig config).result = .ok plane →
      plane.table.size = config.hosts.eraseDups.length ∧
      (∀ addr : Address,
        plane.table.get? addr.key = if addr ∈ config.hosts then some 0 else none) ∧
      plane.table.policy = config.policy ∧ plane.license = config.license ∧
      config.tidy.hosts.Pairwise Address.Before ∧
      (∀ addr, addr ∈ config.tidy.hosts ↔ addr ∈ config.hosts) ∧
      ∃ other, (ofConfig config.tidy).result = .ok other ∧ plane.snapshot = other.snapshot := by
  refine ⟨ofConfig_result_map config, ?_, ?_⟩
  · intro capacity addr hfull
    have hmap := ofConfig_result_map config
    rw [hfull] at hmap
    cases hvalid : config.validate with
    | ok =>
      rw [hvalid] at hmap
      cases hmap
    | error fault =>
      rw [hvalid] at hmap
      cases hmap
  · intro plane hplane
    obtain ⟨hlicense, hpolicy, htallies⟩ := tallies_of_ofConfig hplane
    have hvalid := Config.validate_tidy (validate_of_ofConfig hplane)
    obtain ⟨other, hother, -⟩ := ofConfig_result hvalid
    refine ⟨htallies.size_eq, get?_of_ofConfig hplane, hpolicy, hlicense,
      config.pairwise_hosts_tidy, fun _ => Config.mem_hosts_tidy, other, hother, ?_⟩
    exact snapshot_eq_of_hosts hplane hother rfl fun _ => Config.mem_hosts_tidy.symm

end Plane

end SourceTally
