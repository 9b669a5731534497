import SourceTally.Agent.Basic
import SourceTally.Proofs.KernelMap
import SourceTally.Proofs.PlaneTable

/-!
# What the agent prepares

Before it attaches anything, the agent writes the insert policy into a control word and gives every
known host a count of zero. With a kernel that does what it is asked, a valid configuration and a
license that opens the counter, the start succeeds, and what it leaves in the maps is known.

## Main definitions

* `Agent.Step.after`: what a step answers and the kernel that it leaves, apart from its log entries
* `Agent.Step.Quiet`: a step that does nothing to the kernel
* `Kernel.Script.Serves`: a kernel that lets the counter be loaded, prepared and read
* `Seeded`: a map that holds the keys of the given hosts with count zero

## Main statements

* `Agent.start_after`: the maps when the agent has started
* `Agent.counters_after`: reading the counters back
-/

namespace SourceTally

namespace Agent

namespace Step

variable {α β : Type} {host host' : Kernel.Host}

/-- What a step answers and the kernel that it leaves, apart from its log entries. -/
def after (step : Step α) (host : Kernel.Host) : Except Error α × Kernel.Host :=
  (step.run host).value

theorem after_bind (x : Step α) (f : α → Step β) (host : Kernel.Host) :
    (x >>= f).after host = match x.after host with
      | (.ok a, host') => (f a).after host'
      | (.error e, host') => (.error e, host') := by
  unfold after Step.run
  rw [ExceptT.run_bind, StateT.run_bind, Logged.value_bind]
  cases ((ExceptT.run x).run host).value with
  | mk result host' => cases result <;> rfl

theorem after_bind_of_ok {x : Step α} {a : α} (h : x.after host = (.ok a, host'))
    (f : α → Step β) : (x >>= f).after host = (f a).after host' := by
  rw [after_bind, h]

theorem after_tell (component : Log.Component) (level : Log.Level) (text : String) :
    (tell component level text).after host = (.ok (), host) := rfl

theorem after_get : (get : Step Kernel.Host).after host = (.ok host, host) := rfl

/-- A step that does nothing to the kernel. -/
def Quiet (step : Step α) : Prop := ∀ host, (step.after host).2 = host

theorem quiet_tell (component : Log.Component) (level : Log.Level) (text : String) :
    Quiet (tell component level text) := fun _ => rfl

theorem quiet_attempt (result : Except Error α) : Quiet (attempt result) := fun _ => rfl

theorem quiet_throw (e : Error) : Quiet (throw e : Step α) := fun _ => rfl

theorem Quiet.bind {x : Step α} {f : α → Step β} (hx : Quiet x) (hf : ∀ a, Quiet (f a)) :
    Quiet (x >>= f) := by
  intro host
  have hhost := hx host
  rw [after_bind]
  split
  · next a host' h =>
    rw [h] at hhost
    exact (hf a host').trans hhost
  · next e host' h =>
    rw [h] at hhost
    exact hhost

theorem after_call {wrap : Kernel.Fault → Error}
    {f : Kernel.Host → Except Kernel.Fault Kernel.Host} (h : f host = .ok host') :
    (call wrap f).after host = (.ok (), host') := by
  rw [call, after_bind_of_ok after_get, h]
  rfl

end Step

end Agent

/-- A kernel that lets the counter be loaded, prepared and read. -/
structure Kernel.Script.Serves (script : Kernel.Script) : Prop where
  shows : ∀ name ∈ Kernel.ObjectFile.counter.maps, script.shows name.text
  permits : ∀ call ∈ [Kernel.Call.loadCounter, .setWord, .insertKey, .readEntry],
    script.permit call = .ok ()

/-- A map that holds the keys of the given hosts, and no others, with count zero. -/
structure Seeded (map : Kernel.BoundedMap counterCapacity) (hosts : List Address) : Prop where
  size_le : map.size ≤ hosts.length
  get?_eq : ∀ addr : Address, map.get? addr.key = if addr ∈ hosts then some 0 else none

theorem Seeded.empty : Seeded {} [] where
  size_le := Nat.le_refl _
  get?_eq _ := rfl

/-- Setting the count of one more host to zero, whether it is known already or not. -/
theorem Seeded.put {map : Kernel.BoundedMap counterCapacity} {hosts : List Address}
    (h : Seeded map hosts) (hroom : hosts.length < counterCapacity) (addr : Address) :
    Seeded (map.put addr.key 0) (hosts ++ [addr]) := by
  have hsize := h.size_le
  have hfree : map.size < counterCapacity := by omega
  have hget : ∀ other : Address, (map.put addr.key 0).get? other.key =
      if other ∈ hosts ++ [addr] then some 0 else none := by
    intro other
    rw [Kernel.BoundedMap.get?_put (Kernel.BoundedMap.takes_of_room hfree _), h.get?_eq]
    by_cases heq : other = addr
    · subst heq
      rw [if_pos rfl, if_pos (by simp)]
    · rw [if_neg (mt Address.key_inj.1 heq)]
      simp [heq]
  cases hold : map.get? addr.key with
  | some count =>
    refine ⟨?_, hget⟩
    rw [Kernel.BoundedMap.size_put_of_some hold, List.length_append]
    omega
  | none =>
    refine ⟨?_, hget⟩
    rw [Kernel.BoundedMap.size_put_of_none hold hfree, List.length_append, List.length_singleton]
    omega

namespace Kernel.Host

variable {host : Host}

theorem load_counter (h : host.script.Serves) :
    host.load .counter =
      .ok { host with maps := { results := host.maps.results }, counterLoaded := false } := by
  rw [load, h.permits .loadCounter (by simp)]
  rfl

theorem setWord_policy (h : host.script.Serves) (word : UInt32) :
    ∃ host', host.setWord policySlot word = .ok host' ∧ host'.script = host.script ∧
      host'.maps.counters = host.maps.counters ∧ host'.maps.control[policySlot]? = some word := by
  have hslot : policySlot < controlSlots := by decide
  refine ⟨{ host with
    maps := { host.maps with control := host.maps.control.set policySlot word hslot }
    events := host.events ++ [.wroteWord policySlot word] }, ?_, rfl, rfl, ?_⟩
  · rw [setWord, h.permits .setWord (by simp), Maps.setControl?, dif_pos hslot]
    rfl
  · exact Vector.getElem?_set_self hslot

theorem insertKey_of_room (h : host.script.Serves)
    (hroom : host.maps.counters.size < counterCapacity) (key : UInt32) :
    ∃ host', host.insertKey key = .ok host' ∧ host'.script = host.script ∧
      host'.maps.control = host.maps.control ∧
      host'.maps.counters = host.maps.counters.put key 0 := by
  refine ⟨{ host with
    maps := { host.maps with counters := host.maps.counters.put key 0 }
    events := host.events ++ [.insertedKey key] }, ?_, rfl, rfl, rfl⟩
  rw [insertKey, h.permits .insertKey (by simp), BoundedMap.set?_of_room hroom]
  rfl

end Kernel.Host

namespace Agent

open Step

variable {host : Kernel.Host}

theorem quiet_checkKernelVersion (output : VersionOutput) :
    Quiet (checkKernelVersion output) := by
  refine (quiet_attempt _).bind fun bytes => (quiet_attempt _).bind fun text =>
    (quiet_attempt _).bind fun version => ?_
  split
  · exact (quiet_throw _).bind fun _ => quiet_tell _ _ _
  · exact quiet_tell _ _ _

theorem quiet_preflight (output : VersionOutput) : Quiet (preflight output) :=
  (quiet_tell _ _ _).bind fun _ => (quiet_checkKernelVersion output).bind fun _ => quiet_tell _ _ _

theorem requireMap_after {name : Kernel.MapName} (h : host.script.shows name.text) :
    (requireMap name).after host = (.ok (), host) := by
  rw [requireMap, after_bind_of_ok after_get, h]
  rfl

theorem writePolicy_after (h : host.script.Serves) (policy : InsertPolicy) :
    ∃ host', (writePolicy policy).after host = (.ok (), host') ∧ host'.script = host.script ∧
      host'.maps.counters = host.maps.counters ∧
      host'.maps.control[Kernel.policySlot]? = some policy.raw := by
  obtain ⟨host', hset, hscript, hcounters, hword⟩ := Kernel.Host.setWord_policy h policy.raw
  refine ⟨host', ?_, hscript, hcounters, hword⟩
  rw [writePolicy, after_bind_of_ok (requireMap_after (h.shows .control (by decide))),
    after_bind_of_ok (after_call hset), after_tell]

/-- Seeding hosts one after the other, from a map that holds those seeded before. -/
theorem forM_seedHost_after (h : host.script.Serves) {done : List Address}
    (hseeded : Seeded host.maps.counters done) (hosts : List Address)
    (hfit : (done ++ hosts).length ≤ counterCapacity) :
    ∃ host', (hosts.forM seedHost).after host = (.ok (), host') ∧ host'.script = host.script ∧
      host'.maps.control = host.maps.control ∧ Seeded host'.maps.counters (done ++ hosts) := by
  induction hosts generalizing host done with
  | nil =>
    rw [List.append_nil]
    exact ⟨host, rfl, rfl, rfl, hseeded⟩
  | cons addr rest ih =>
    have hlength : done.length < counterCapacity := by
      rw [List.length_append, List.length_cons] at hfit
      omega
    -- a host may come twice, but no map has more keys than hosts were given
    have hroom : host.maps.counters.size < counterCapacity :=
      Nat.lt_of_le_of_lt hseeded.size_le hlength
    obtain ⟨next, hinsert, hscript, hcontrol, hcounters⟩ :=
      Kernel.Host.insertKey_of_room h hroom addr.key
    have hone : (seedHost addr).after host = (.ok (), next) := by
      rw [seedHost, after_bind_of_ok (after_call hinsert), after_tell]
    have hnext : Seeded next.maps.counters (done ++ [addr]) := hcounters ▸ hseeded.put hlength addr
    obtain ⟨host', hrest, hscript', hcontrol', hseeded'⟩ :=
      ih (hscript ▸ h) hnext (by simpa using hfit)
    refine ⟨host', ?_, hscript'.trans hscript, hcontrol'.trans hcontrol, ?_⟩
    · show (seedHost addr >>= fun _ => rest.forM seedHost).after host = _
      rw [after_bind_of_ok hone, hrest]
    · simpa using hseeded'

/-- With a kernel that serves, a start that passes its checks leaves the policy in its control word
and the hosts with count zero. -/
theorem start_after {config : Config} (hvalid : config.validate = .ok ())
    (hlicense : License.isCompatible config.license) {output : VersionOutput}
    (hpreflight : ((preflight output).after host).1 = .ok ()) (h : host.script.Serves) :
    ∃ host', (start config output).after host = (.ok (), host') ∧ host'.script = host.script ∧
      host'.maps.control[Kernel.policySlot]? = some config.policy.raw ∧
      Seeded host'.maps.counters config.hosts := by
  have hconfig : (attempt (config.validate.mapError fun fault => .plane (.config fault))).after
      host = (.ok (), host) := by
    rw [hvalid]
    rfl
  have hready : (preflight output).after host = (.ok (), host) :=
    Prod.ext hpreflight (quiet_preflight output host)
  have hcheck : (deployCheck (.handler .source) config.license).after host = (.ok (), host) := by
    rw [deployCheck, Program.check_of_isCompatible _ hlicense]
    rfl
  -- loading makes new maps, so what this kernel held before does not matter
  let loaded : Kernel.Host := { host with
    maps := { results := host.maps.results }, counterLoaded := false }
  have hload : host.load .counter = .ok loaded := Kernel.Host.load_counter h
  have hloaded : loaded.script.Serves := h
  obtain ⟨written, hwrite, hscript, hcounters, hword⟩ := writePolicy_after hloaded config.policy
  have hempty : Seeded written.maps.counters [] := hcounters ▸ Seeded.empty
  obtain ⟨host', hseed, hscript', hcontrol, hseeded⟩ :=
    forM_seedHost_after (hscript ▸ h) hempty config.hosts (Plane.length_hosts_le hvalid)
  refine ⟨host', ?_, hscript'.trans hscript, hcontrol ▸ hword, hseeded⟩
  have hshows := h.shows .counters (by decide)
  rw [start, after_bind_of_ok hconfig, after_bind_of_ok hready,
    after_bind_of_ok hcheck, after_bind_of_ok (after_tell _ _ _),
    after_bind_of_ok (after_call hload), after_bind_of_ok hwrite, seedHosts,
    after_bind_of_ok (requireMap_after (hscript ▸ hshows)), after_bind_of_ok hseed, after_tell]

theorem counters_after (h : host.script.Serves) :
    (counters.after host).1 = .ok (CounterEntry.sorted host.maps.counters.entries) := by
  have hreadable : (requireReadable .counter .counters).after host = (.ok (), host) := by
    rw [requireReadable, after_bind_of_ok after_get]
    simp only [h.shows .counters (by decide)]
    rfl
  have hread : host.readCounters = .ok host.maps.counters.entries := by
    rw [Kernel.Host.readCounters, h.permits .readEntry (by simp)]
    split
    · rfl
    · rfl
  rw [counters, after_bind_of_ok hreadable, after_bind_of_ok after_get, hread]
  rfl

end Agent

end SourceTally
