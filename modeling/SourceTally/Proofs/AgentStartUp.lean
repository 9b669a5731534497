import SourceTally.Proofs.AgentSteps
import SourceTally.Proofs.KernelCalls

/-!
# Starting up over a kernel that may refuse

Seeding a host sets its count to zero, which would reset a counter that is live. What protects the
counts is the order of the steps: everything is checked and written before anything is attached.
That holds whichever calls fail. A call that is made twice may fail the one time and not the other,
so the kernel may take up another script before each step.

## Main definitions

* `Agent.startUp`: the steps from the start to the last attachment
* `Agent.Ready`: what the counter finds when it is attached
* `Agent.Orderly`: first the writes, then the attachments

## Main statements

* `Agent.attachCounter_after`, `Agent.transacts_attachHarness`: what attaching does, or leaves
  undone
* `Agent.startUp_orderly`: no run attaches a counter that is not ready, or writes after attaching
-/

namespace SourceTally

/-- A map that holds the given hosts lists each of them once, with count zero. -/
theorem Seeded.entries_perm {map : Kernel.BoundedMap counterCapacity} {hosts : List Address}
    (h : Seeded map hosts) :
    map.entries.Perm (hosts.eraseDups.map fun addr => (addr.key, 0)) := by
  have hnodup : (hosts.eraseDups.map fun addr => (addr.key, (0 : UInt64))).Nodup := by
    refine List.Pairwise.map _ ?_ (nodup_eraseDups hosts)
    intro a b hne heq
    exact hne (Address.key_inj.1 (Prod.mk.inj heq).1)
  rw [Kernel.BoundedMap.entries, List.perm_ext_iff_of_nodup map.counts.nodup_entries hnodup]
  rintro ⟨key, count⟩
  have hget : map.get? key = if Address.ofKey key ∈ hosts then some 0 else none := by
    rw [← h.get?_eq, Address.key_ofKey]
  rw [← Ledger.get?_eq_some_iff]
  change map.get? key = some count ↔ _
  rw [hget, List.mem_map]
  constructor
  · intro hsome
    split at hsome
    · next hmem =>
      cases hsome
      exact ⟨Address.ofKey key, List.mem_eraseDups.2 hmem, by rw [Address.key_ofKey]⟩
    · cases hsome
  · rintro ⟨addr, hmem, heq⟩
    obtain ⟨rfl, rfl⟩ := Prod.mk.inj heq
    rw [Address.ofKey_key, if_pos (List.mem_eraseDups.1 hmem)]

namespace Agent

open Step

/-! ### Attaching -/

/-- A counter was attached, once: by the driver if it was willing, else on received packets. -/
def CounterAttached (iface : String) (host next : Kernel.Host) : Prop :=
  ∃ mode, next.events = host.events ++ [.attachedCounter mode host.maps] ∧
    next.attachments = host.attachments ++ [.counter iface mode] ∧
    (mode = .native ↔ host.script.permit .attachNative = .ok ())

theorem transacts_attachToInterface (iface : String) :
    Transacts (CounterAttached iface) (attachToInterface iface) := by
  intro host
  rw [attachToInterface, after_bind_of_ok after_get]
  cases hnative : host.attachCounter iface .native with
  | ok next =>
    obtain ⟨hpermit, hevents, hattachments⟩ := Kernel.Host.of_attachCounter hnative
    exact ⟨.native, hevents, hattachments, iff_of_true rfl hpermit⟩
  | error fault =>
    have hrefused : host.script.permit .attachNative = .error fault :=
      Kernel.Host.of_attachCounter_error hnative
    dsimp only
    rw [after_bind_of_ok (after_tell _ _ _)]
    cases hskb : host.attachCounter iface .skb with
    | ok next =>
      obtain ⟨-, hevents, hattachments⟩ := Kernel.Host.of_attachCounter hskb
      rw [after_call hskb]
      refine ⟨.skb, hevents, hattachments, iff_of_false nofun ?_⟩
      rw [hrefused]
      nofun
    | error fault => rw [after_call_of_error hskb]

/-- An attempt in vain leaves the program loaded, if it came so far, but nothing attached. -/
theorem attachCounter_after (iface : String) (host : Kernel.Host) :
    match (attachCounter iface).after host with
    | (.ok _, next) => CounterAttached iface host next
    | (.error _, next) =>
      next.events = host.events ∧ next.attachments = host.attachments := by
  rw [attachCounter, after_bind_of_ok (after_tell _ _ _), after_bind,
    (quiet_requireProgram _).after_eq host]
  cases ((requireProgram .counter).after host).1 with
  | error e => exact ⟨rfl, rfl⟩
  | ok =>
    dsimp only
    cases hload : host.loadProgram .counter with
    | error fault =>
      rw [after_bind, after_call_of_error hload]
      exact ⟨rfl, rfl⟩
    | ok loaded =>
      have hattach := (transacts_attachToInterface iface).tell_after .probes .info
        ("Source counter attached to " ++ iface) loaded
      obtain ⟨hscript, hmaps, hevents, hattachments⟩ := Kernel.Host.of_loadProgram_counter hload
      rw [after_bind_of_ok (after_call hload)]
      split at hattach
      · next next hafter =>
        rw [hafter]
        obtain ⟨mode, h⟩ := hattach
        rw [hscript, hmaps, hevents, hattachments] at h
        exact ⟨mode, h⟩
      · next e next hafter =>
        rw [hafter]
        exact ⟨hattach ▸ hevents, hattach ▸ hattachments⟩

theorem transacts_attachHarness (license : String) :
    Transacts (fun host next => next.events = host.events ++ [.attachedHarness])
      (attachHarness license) := by
  -- an object file of its own: neither it nor its program changes what is there
  have hload : Quiet (call (.during .loadHarness) (·.load .harness)) :=
    (transacts_call fun _ _ => Kernel.Host.of_load_harness).quiet
  have hprogram : Quiet (call .kernel (·.loadProgram .harness)) :=
    (transacts_call fun _ _ => Kernel.Host.of_loadProgram_harness).quiet
  refine (quiet_deployCheck _ license).transacts_bind fun _ => ?_
  refine hload.transacts_bind fun _ => (quiet_requireProgram _).transacts_bind fun _ => ?_
  refine hprogram.transacts_bind fun _ => ?_
  exact (transacts_call fun _ _ => Kernel.Host.of_attachHarness).tell_after _ _ _

/-! ### The whole start-up -/

/-- The steps of a start, one for each host. -/
def startSteps (config : Config) (output : VersionOutput) : List (Step Unit) :=
  [attempt (config.validate.mapError fun fault => .plane (.config fault)),
    preflight output,
    deployCheck (.handler .source) config.license,
    tell .probes .info "Loading source counter...",
    call (.during .loadCounter) (·.load .counter),
    writePolicy config.policy,
    requireMap .counters] ++
  (config.hosts.map seedHost ++
    [tell .probes .info ("Seeded " ++ toString config.hosts.length ++ " known hosts")])

/-- The steps from the start to the last attachment. -/
def startUp (config : Config) (output : VersionOutput) (iface : String) (harness : Bool) :
    List (Step Unit) :=
  startSteps config output ++
    attachCounter iface :: if harness then [attachHarness config.license] else []

theorem unsteady_map_seedHost (hosts : List Address) :
    unsteady [] (hosts.map seedHost) = hosts.forM seedHost := by
  induction hosts with
  | nil => rfl
  | cons addr rest ih =>
    rw [List.map_cons, unsteady, ih]
    rfl

theorem unsteady_startSteps (config : Config) (output : VersionOutput) :
    unsteady [] (startSteps config output) = start config output := by
  rw [startSteps, unsteady_append, unsteady_append, unsteady_map_seedHost]
  simp [unsteady, start, seedHosts]

/-- Over a kernel that keeps its script these are the steps of the agent. -/
theorem unsteady_startUp (config : Config) (output : VersionOutput) (iface : String)
    (harness : Bool) :
    unsteady [] (startUp config output iface harness) = (do
      start config output
      attachCounter iface
      if harness then attachHarness config.license) := by
  rw [startUp, unsteady_append, unsteady_startSteps]
  cases harness with
  | false => simp [unsteady]
  | true => simp [unsteady]

/-- What the counter finds when it is attached: a valid configuration, a license that opens it, the
insert policy in its word, and each known host once, with count zero. -/
structure Ready (config : Config) (maps : Kernel.Maps) : Prop where
  valid : config.validate = .ok ()
  licensed : (ProgramKind.handler .source).program.check config.license = .ok ()
  policy : maps.control[Kernel.policySlot]? = some config.policy.raw
  counters : maps.counters.entries.Perm (config.hosts.eraseDups.map fun addr => (addr.key, 0))

/-- First the writes, then the attachments; and a counter is attached only when it is ready. -/
def Orderly (config : Config) (before events : List Kernel.Event) : Prop :=
  ∃ writes attachments, events = before ++ writes ++ attachments ∧
    (∀ event ∈ writes, event.isWrite) ∧ (∀ event ∈ attachments, ¬ event.isWrite) ∧
    ∀ mode maps, .attachedCounter mode maps ∈ attachments → Ready config maps

/-- What has been done since some point is in order. -/
abbrev InOrder (config : Config) (before : List Kernel.Event) : Assertion :=
  fun _ events => Orderly config before events

/-- Nothing but writes so far. -/
def Wrote (before events : List Kernel.Event) : Prop :=
  ∃ writes, events = before ++ writes ∧ ∀ event ∈ writes, event.isWrite

section

variable {config : Config} {before events : List Kernel.Event} {event : Kernel.Event}

theorem Wrote.start (before : List Kernel.Event) : Wrote before before :=
  ⟨[], (List.append_nil _).symm, nofun⟩

theorem Wrote.concat (h : Wrote before events) (hevent : event.isWrite) :
    Wrote before (events ++ [event]) := by
  obtain ⟨writes, rfl, hwrites⟩ := h
  refine ⟨writes ++ [event], List.append_assoc _ _ _, ?_⟩
  intro other hother
  rcases List.mem_append.1 hother with hold | hnew
  · exact hwrites other hold
  · rwa [List.mem_singleton.1 hnew]

theorem Wrote.orderly (h : Wrote before events) : Orderly config before events := by
  obtain ⟨writes, rfl, hwrites⟩ := h
  exact ⟨writes, [], (List.append_nil _).symm, hwrites, nofun, nofun⟩

theorem Orderly.concat (h : Orderly config before events) (hevent : ¬ event.isWrite)
    (hready : ∀ mode maps, event = .attachedCounter mode maps → Ready config maps) :
    Orderly config before (events ++ [event]) := by
  obtain ⟨writes, attachments, rfl, hwrites, hattachments, hcounters⟩ := h
  refine ⟨writes, attachments ++ [event], List.append_assoc _ _ _, hwrites, ?_, ?_⟩
  · intro other hother
    rcases List.mem_append.1 hother with hold | hnew
    · exact hattachments other hold
    · rwa [List.mem_singleton.1 hnew]
  · intro mode maps hmem
    rcases List.mem_append.1 hmem with hold | hnew
    · exact hcounters mode maps hold
    · exact hready mode maps (List.mem_singleton.1 hnew).symm

end

/-- The policy is written and some hosts are seeded, and nothing else has happened. -/
structure Prepared (config : Config) (before : List Kernel.Event) (hosts : List Address)
    (maps : Kernel.Maps) (events : List Kernel.Event) : Prop where
  wrote : Wrote before events
  policy : maps.control[Kernel.policySlot]? = some config.policy.raw
  seeded : Seeded maps.counters hosts

section

variable {config : Config} {before : List Kernel.Event} {post : Assertion}
  {rest : List (Step Unit)}

theorem ensures_writePolicy :
    Ensures (fun maps events => Wrote before events ∧ maps.counters = {})
      (writePolicy config.policy) (Prepared config before [])
      (fun _ => InOrder config before) := by
  refine Ensures.bind (ensures_requireMap fun _ _ h => h.1.orderly) fun _ =>
    Ensures.bind (ensures_call ?_ fun _ _ _ h => h.1.orderly) fun _ => ensures_tell _ _ _
  rintro host next ⟨hwrote, hempty⟩ hset
  obtain ⟨hcounters, hword, hevents⟩ := Kernel.Host.of_setWord_policy hset
  refine ⟨hevents ▸ hwrote.concat rfl, hword, ?_⟩
  rw [hcounters, hempty]
  exact Seeded.empty

theorem ensures_seedHost {done : List Address} (hroom : done.length < counterCapacity)
    (addr : Address) :
    Ensures (Prepared config before done) (seedHost addr) (Prepared config before (done ++ [addr]))
      (fun _ => InOrder config before) := by
  refine Ensures.bind (ensures_call ?_ fun _ _ _ h => h.wrote.orderly) fun _ => ensures_tell _ _ _
  intro host next hprepared hinsert
  obtain ⟨hcontrol, hcounters, hevents⟩ := Kernel.Host.of_insertKey hinsert
  refine ⟨hevents ▸ hprepared.wrote.concat rfl, hcontrol ▸ hprepared.policy, ?_⟩
  rw [hcounters]
  exact hprepared.seeded.put hroom addr

/-- Seeding host after host, any of which may fail. -/
theorem ensuresAll_seeds {done : List Address} (hosts : List Address)
    (hfit : (done ++ hosts).length ≤ counterCapacity)
    (hrest : EnsuresAll (Prepared config before (done ++ hosts)) rest post
      (fun _ => InOrder config before)) :
    EnsuresAll (Prepared config before done) (hosts.map seedHost ++ rest) post
      (fun _ => InOrder config before) := by
  induction hosts generalizing done with
  | nil =>
    rw [List.append_nil] at hrest
    exact hrest
  | cons addr hosts ih =>
    have hroom : done.length < counterCapacity := by
      rw [List.length_append, List.length_cons] at hfit
      omega
    refine (ensures_seedHost hroom addr).cons (ih (by simpa using hfit) ?_)
    rwa [List.append_assoc]

theorem ensures_attachCounter (iface : String) :
    Ensures (fun maps events => Wrote before events ∧ Ready config maps) (attachCounter iface)
      (InOrder config before)
      (fun _ => InOrder config before) := by
  rintro host ⟨hwrote, hready⟩
  have hattach := attachCounter_after iface host
  cases hafter : (attachCounter iface).after host with
  | mk result next =>
    rw [hafter] at hattach
    cases result with
    | ok =>
      obtain ⟨mode, hevents, -, -⟩ := hattach
      show Orderly config before next.events
      rw [hevents]
      refine hwrote.orderly.concat nofun ?_
      rintro _ _ ⟨⟩
      exact hready
    | error e =>
      show Orderly config before next.events
      rw [hattach.1]
      exact hwrote.orderly

theorem ensures_attachHarness (license : String) :
    Ensures (InOrder config before) (attachHarness license)
      (InOrder config before)
      (fun _ => InOrder config before) := by
  intro host horderly
  have hattach := transacts_attachHarness license host
  cases hafter : (attachHarness license).after host with
  | mk result next =>
    rw [hafter] at hattach
    cases result with
    | ok =>
      show Orderly config before next.events
      rw [show next.events = _ from hattach]
      exact horderly.concat nofun nofun
    | error e =>
      cases hattach
      exact horderly

/-- What is attached after the start finds the maps as the start left them. -/
theorem ensuresAll_attach (iface : String) (harness : Bool) :
    EnsuresAll (fun maps events => Wrote before events ∧ Ready config maps)
      (attachCounter iface :: if harness then [attachHarness config.license] else [])
      (InOrder config before)
      (fun _ => InOrder config before) := by
  refine (ensures_attachCounter iface).cons ?_
  cases harness with
  | false => exact ensuresAll_nil
  | true => exact (ensures_attachHarness config.license).cons ensuresAll_nil

theorem ensuresAll_startUp (config : Config) (output : VersionOutput) (iface : String)
    (harness : Bool) :
    EnsuresAll (fun _ events => Wrote before events) (startUp config output iface harness)
      (InOrder config before)
      (fun _ => InOrder config before) := by
  have hfail (_ : Error) (_ : Kernel.Maps) (events : List Kernel.Event)
      (h : Wrote before events) : Orderly config before events := h.orderly
  rw [startUp, startSteps, List.append_assoc, List.append_assoc]
  refine (ensures_attempt_mapError hfail).check_cons fun hvalid => ?_
  refine ((quiet_preflight output).ensures hfail).cons ?_
  refine (ensures_deployCheck hfail).check_cons fun hlicensed => ?_
  refine (ensures_tell _ _ _).cons ?_
  have hload : Ensures (fun _ events => Wrote before events)
      (call (.during .loadCounter) (·.load .counter))
      (fun maps events => Wrote before events ∧ maps.counters = {})
      (fun _ => InOrder config before) := by
    refine ensures_call ?_ fun _ _ _ h => h.orderly
    intro host next hwrote hload
    obtain ⟨hcounters, hevents⟩ := Kernel.Host.of_load_counter hload
    exact ⟨hevents ▸ hwrote, hcounters⟩
  refine hload.cons (ensures_writePolicy.cons ?_)
  refine (ensures_requireMap fun _ _ h => h.wrote.orderly).cons ?_
  refine ensuresAll_seeds config.hosts (Plane.length_hosts_le hvalid) ?_
  refine (ensures_tell _ _ _).cons ?_
  intro scripts host hprepared
  exact ensuresAll_attach iface harness scripts host
    ⟨hprepared.wrote, hvalid, hlicensed, hprepared.policy, hprepared.seeded.entries_perm⟩

end

/-- Whatever the kernel refuses, a start-up first writes and then attaches, and the counter is
attached only to maps that are ready. Attaching the counter succeeds exactly if one attachment was
made. Where the harness cannot be attached, the counters and the results read as before. -/
theorem startUp_orderly (config : Config) (output : VersionOutput) (iface : String)
    (harness : Bool) :
    unsteady [] (startUp config output iface harness) = (do
        start config output
        attachCounter iface
        if harness then attachHarness config.license) ∧
      (∀ scripts host, Orderly config host.events
        ((unsteady scripts (startUp config output iface harness)).after host).2.events) ∧
      (∀ host result next, (attachCounter iface).after host = (result, next) →
        (result = .ok () ↔ CounterAttached iface host next) ∧
        (result ≠ .ok () →
          next.events = host.events ∧ next.attachments = host.attachments)) ∧
      ∀ license host e next, (attachHarness license).after host = (.error e, next) →
        ∀ script,
          (counters.after { next with script }).1 = (counters.after { host with script }).1 ∧
          (results.after { next with script }).1 = (results.after { host with script }).1 := by
  refine ⟨unsteady_startUp config output iface harness, ?_, ?_, ?_⟩
  · intro scripts host
    exact (ensuresAll_startUp config output iface harness scripts).always (Wrote.start host.events)
  · intro host result next hafter
    have hattach := attachCounter_after iface host
    rw [hafter] at hattach
    cases result with
    | ok => exact ⟨iff_of_true rfl hattach, fun hne => absurd rfl hne⟩
    | error e =>
      refine ⟨iff_of_false nofun ?_, fun _ => hattach⟩
      rintro ⟨mode, hevents, -, -⟩
      -- nothing was done, so no attachment can have been added
      rw [hattach.1] at hevents
      exact absurd hevents (by simp)
  · intro license host e next hafter script
    have hattach := transacts_attachHarness license host
    rw [hafter] at hattach
    cases hattach
    exact ⟨rfl, rfl⟩

/-- The driver refuses, so the counter is attached on received packets, with a host that is given
twice known once. -/
theorem startUp_orderly_fallback :
    let config : Config := { policy := .lookupOrInsert, hosts := [⟨10, 0, 0, 1⟩, ⟨10, 0, 0, 1⟩] }
    let output : VersionOutput := .ok [54, 46, 56, 10]
    let refusing : Kernel.Script := { faults := [(.attachNative, "Operation not supported")] }
    let maps : Kernel.Maps :=
      { counters := Kernel.BoundedMap.put {} 0x100000a 0, control := #v[1, 0, 0, 0] }
    ((unsteady [refusing] (startUp config output "lo" true)).after {}).2.events =
        [.wroteWord 0 1, .insertedKey 0x100000a, .insertedKey 0x100000a,
          .attachedCounter .skb maps, .attachedHarness] ∧
      Ready config maps := by
  intro config output refusing maps
  have hevents : ((unsteady [refusing] (startUp config output "lo" true)).after {}).2.events =
      [.wroteWord 0 1, .insertedKey 0x100000a, .insertedKey 0x100000a,
        .attachedCounter .skb maps, .attachedHarness] := by decide +kernel
  obtain ⟨-, hruns, -⟩ := startUp_orderly config output "lo" true
  obtain ⟨writes, attachments, hsplit, hwrites, -, hready⟩ := hruns [refusing] {}
  refine ⟨hevents, hready .skb maps ?_⟩
  have hmem : Kernel.Event.attachedCounter .skb maps ∈ writes ++ attachments := by
    have hall := hsplit.symm.trans hevents
    change writes ++ attachments = _ at hall
    rw [hall]
    simp
  refine (List.mem_append.1 hmem).resolve_left fun hwrite => ?_
  exact absurd (hwrites _ hwrite) (by decide)

end Agent

end SourceTally
