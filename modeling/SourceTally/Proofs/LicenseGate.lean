import SourceTally.CommandLine.Run
import SourceTally.Proofs.AgentSteps
import SourceTally.Proofs.PlaneSession

/-!
# The license gate

One program asks for a restricted capability, the source counter. Three places ask whether a license
opens it: a plane when it deploys a program, the command that checks all programs, and the agent
before it loads anything. They give the same answer. Where the gate is closed, nothing that can be
asked of a plane makes it count, in whatever order it is asked.

## Main definitions

* `CountingTable.Idle`: a table that has counted nothing and holds only given keys
* `Session.Gated`: a session behind a closed gate
* `Agent.Step.NeverRejects`: a step of the agent that does not fail for want of a capability

## Main statements

* `ProgramKind.check_eq`: the rule
* `Command.check_error`, `Agent.start_capability_iff`: the rule as the command and the agent apply
  it
* `Session.license_gate`: no counting behind a closed gate, and one rule in all three places
-/

namespace SourceTally

open License (compatible)

/-- The rule: no license text matters but for the source counter, and there only the compatible ones
will do. -/
theorem ProgramKind.check_eq (kind : ProgramKind) (license : String) :
    kind.program.check license =
      if kind = .handler .source ∧ license ∉ compatible then
        .error ⟨"filter_packets", .sharedTableAtomics⟩
      else .ok () := by
  cases kind with
  | results => rfl
  | handler handler =>
    cases handler with
    | source =>
      have hrestricted : Capabilities.sharedTableAtomics.intersects .restricted = true := by decide
      have hmissing : Capabilities.sharedTableAtomics.inter .restricted =
          .sharedTableAtomics := by decide
      simp [program, Program.check, checkLicense, hrestricted, hmissing, License.isCompatible]
    | _ => rfl

namespace Plane

variable {plane : Plane}

theorem deploy_source_result (h : plane.license ∉ compatible) :
    (plane.deploy (.handler .source)).result =
      .error (.capability ⟨"filter_packets", .sharedTableAtomics⟩) := by
  rw [deploy_result_eq, admits, ProgramKind.check_eq, if_pos ⟨rfl, h⟩]
  rfl

theorem deploy_result_of_ne (plane : Plane) {kind : ProgramKind} (h : kind ≠ .handler .source) :
    (plane.deploy kind).result = .ok () := by
  rw [deploy_result_eq, admits, ProgramKind.check_eq, if_neg fun hsource => h hsource.1]
  rfl

theorem deploy_all_iff (plane : Plane) :
    (∀ kind, (plane.deploy kind).result = .ok ()) ↔ plane.license ∈ compatible := by
  constructor
  · intro hall
    by_contra hclosed
    have hsource := hall (.handler .source)
    rw [deploy_source_result hclosed] at hsource
    cases hsource
  · intro hopen kind
    rw [deploy_result_eq, admits, ProgramKind.check_eq, if_neg fun hclosed => hclosed.2 hopen]
    rfl

end Plane

/-! ### Planes behind a closed gate -/

/-- A table that has counted nothing and holds only given keys. -/
structure CountingTable.Idle {N : Nat} (t : CountingTable N) (given : UInt32 → Prop) : Prop where
  count_eq : ∀ i : Fin N, (t.slots.get i).count = 0
  key_given : ∀ (i : Fin N) (key : UInt32), (t.slots.get i).key = some key → given key

namespace CountingTable.Idle

variable {N : Nat} {t t' : CountingTable N} {given : UInt32 → Prop} {key : UInt32}

theorem empty (policy : InsertPolicy) : (CountingTable.empty N policy).Idle given := by
  constructor
  · intro i
    rw [CountingTable.empty, get_replicate_slot]
  · intro i key hkey
    rw [CountingTable.empty, get_replicate_slot] at hkey
    cases hkey

theorem put (h : t.Idle given) (hkey : given key) (i : Fin N) : (t.put i key 0).Idle given := by
  constructor
  · intro j
    simp only [CountingTable.put, get_set_slot]
    split
    · rfl
    · exact h.count_eq j
  · intro j other hother
    simp only [CountingTable.put, get_set_slot] at hother
    split at hother
    · cases hother
      exact hkey
    · exact h.key_given j other hother

theorem seed [HasSlots N] (h : t.Idle given) (hkey : given key) (hseed : t.seed key = .ok t') :
    t'.Idle given := by
  rw [CountingTable.seed] at hseed
  split at hseed
  · cases hseed
    exact h
  · cases hseed
    exact h.put hkey _
  · cases hseed

end CountingTable.Idle

theorem Plane.Made.idle {hosts : List Address} {plane : Plane} (h : Made hosts plane)
    {given : UInt32 → Prop} (hhosts : ∀ addr ∈ hosts, given addr.key) :
    plane.table.Idle given := by
  refine h.inv (motive := fun p => p.table.Idle given) (fun _ _ => .empty _) ?_
  intro p addr next hmem hidle hseed
  obtain ⟨table, htable, rfl⟩ := seed?_eq_ok hseed
  exact hidle.seed (hhosts addr hmem) htable

namespace Session

/-- The gate is closed, so the source counter has not been handed out, and nothing was counted. -/
structure Gated (s : Session) (given : UInt32 → Prop) : Prop where
  closed : s.plane.license ∉ compatible
  withheld : .source ∉ s.handlers
  idle : s.plane.table.Idle given

theorem Gated.step {s next : Session} {operation : Plane.Operation} {answer : Plane.Answer}
    {given : UInt32 → Prop} (h : s.Gated given)
    (hgiven : ∀ addr, operation = .seed addr → given addr.key)
    (hmoves : Moves s operation answer next) : next.Gated given := by
  have hlicense : next.plane.license ∉ compatible := hmoves.license_eq ▸ h.closed
  cases hmoves with
  | seeded addr hseed => exact ⟨hlicense, h.withheld, h.idle.seed (hgiven addr rfl) hseed⟩
  | deployed handler hadmits =>
    refine ⟨hlicense, ?_, h.idle⟩
    rw [List.mem_cons, not_or]
    refine ⟨?_, h.withheld⟩
    rintro rfl
    have hrejected := Plane.deploy_source_result h.closed
    rw [Plane.deploy_result_eq] at hrejected
    exact absurd (hadmits.symm.trans hrejected) (by simp)
  | observed frame hhanded =>
    have hother := ne_of_mem_of_not_mem hhanded h.withheld
    rw [s.plane.observe_of_ne_source hother frame]
    exact h
  | fired lhs rhs => exact ⟨hlicense, h.withheld, h.idle⟩
  | _ => exact h

end Session

/-! ### The command -/

namespace Command

theorem checkPrograms_rejected (license : String) (kinds : List ProgramKind) :
    (checkPrograms license kinds).value.2 =
      if license ∈ compatible then 0 else kinds.count (.handler .source) := by
  induction kinds with
  | nil => simp [checkPrograms]
  | cons kind rest ih =>
    rw [checkPrograms, ProgramKind.check_eq]
    by_cases hopen : license ∈ compatible
    · rw [if_pos hopen] at ih ⊢
      rw [if_neg fun hclosed => hclosed.2 hopen]
      exact ih
    · rw [if_neg hopen] at ih ⊢
      by_cases hsource : kind = .handler .source
      · rw [if_pos ⟨hsource, hopen⟩, hsource, List.count_cons_self, ← ih]
        rfl
      · rw [if_neg fun hclosed => hsource hclosed.1, List.count_cons_of_ne hsource, ← ih]
        rfl

theorem checkAll_error (license : String) :
    (checkAll license).value.error =
      if license ∈ compatible then none
      else some (.config (.programsRejected 1 6 license)) := by
  have hrejected := checkPrograms_rejected license ProgramKind.all
  have hone : ProgramKind.all.count (.handler .source) = 1 := by decide
  have hsix : ProgramKind.all.length = 6 := by decide
  rw [hone] at hrejected
  simp only [checkAll, Logged.value_bind, Logged.value_pure, hrejected, hsix]
  by_cases hopen : license ∈ compatible
  · simp [hopen]
  · simp [hopen]

/-- The license is given, or else it is read from a configuration. -/
theorem check_error {files : FileReader} {license name : Option String} {config : Config}
    (h : license = some config.license ∨
      license = none ∧ (loadConfig files name).result = .ok config) :
    ((check license name).run files).value.error =
      if config.license ∈ compatible then none
      else some (.config (.programsRejected 1 6 config.license)) := by
  rw [← checkAll_error]
  rcases h with rfl | ⟨rfl, hload⟩
  · rfl
  · have hvalue : (loadConfig files name).run.value = .ok config := hload
    simp only [run, checkLicensed, Logged.value_bind, hvalue]

end Command

/-! ### The agent -/

namespace Agent

open Step

/-- A step that may fail, but not for want of a capability. -/
def Step.NeverRejects {α : Type} (step : Step α) : Prop :=
  Ensures (fun _ _ => True) step (fun _ _ => True) fun e _ _ => ∀ cause, e ≠ .capability cause

namespace Step.NeverRejects

variable {α β ε : Type}

theorem bind {x : Step α} {f : α → Step β} (hx : NeverRejects x) (hf : ∀ a, NeverRejects (f a)) :
    NeverRejects (x >>= f) :=
  Ensures.bind hx hf

theorem tell (component : Log.Component) (level : Log.Level) (text : String) :
    NeverRejects (tell component level text) :=
  ensures_tell _ _ _

theorem attempt (result : Except ε α) (wrap : ε → Error)
    (hwrap : ∀ fault cause, wrap fault ≠ .capability cause) :
    NeverRejects (attempt (result.mapError wrap)) := by
  refine ensures_attempt (fun _ _ _ _ _ => trivial) ?_
  intro e _ _ herror _
  cases result with
  | ok a => cases herror
  | error fault =>
    cases herror
    exact hwrap fault

theorem call (activity : Activity) (f : Kernel.Host → Except Kernel.Fault Kernel.Host) :
    NeverRejects (call (.during activity) f) :=
  ensures_call (fun _ _ _ _ => trivial) fun _ _ _ _ => nofun

theorem requireMap (name : Kernel.MapName) : NeverRejects (requireMap name) :=
  ensures_requireMap fun _ _ _ => nofun

theorem forM {items : List ε} {f : ε → Step Unit} (hf : ∀ item, NeverRejects (f item)) :
    NeverRejects (items.forM f) := by
  induction items with
  | nil => exact fun _ _ => trivial
  | cons item rest ih => exact (hf item).bind fun _ => ih

end Step.NeverRejects

theorem neverRejects_checkKernelVersion (output : VersionOutput) :
    NeverRejects (checkKernelVersion output) := by
  refine (NeverRejects.attempt output .noVersion fun _ => nofun).bind fun bytes =>
    (NeverRejects.attempt _ .versionBytes fun _ => nofun).bind fun text =>
    (NeverRejects.attempt _ .version fun _ => nofun).bind fun version => ?_
  split
  · exact fun _ _ => nofun
  · exact .tell _ _ _

theorem neverRejects_preflight (output : VersionOutput) : NeverRejects (preflight output) :=
  (NeverRejects.tell _ _ _).bind fun _ => (neverRejects_checkKernelVersion output).bind fun _ =>
    .tell _ _ _

theorem neverRejects_writePolicy (policy : InsertPolicy) : NeverRejects (writePolicy policy) :=
  (NeverRejects.requireMap _).bind fun _ => (NeverRejects.call _ _).bind fun _ => .tell _ _ _

theorem neverRejects_seedHosts (hosts : List Address) : NeverRejects (seedHosts hosts) :=
  (NeverRejects.requireMap _).bind fun _ =>
    (NeverRejects.forM fun _ => (NeverRejects.call _ _).bind fun _ => .tell _ _ _).bind fun _ =>
      .tell _ _ _

theorem neverRejects_deployCheck {license : String} (hopen : license ∈ compatible)
    (kind : ProgramKind) : NeverRejects (deployCheck kind license) := by
  rw [deployCheck, ProgramKind.check_eq, if_neg fun hclosed => hclosed.2 hopen]
  exact fun _ _ => trivial

theorem neverRejects_start {config : Config} (hopen : config.license ∈ compatible)
    (output : VersionOutput) : NeverRejects (start config output) :=
  (NeverRejects.attempt _ (fun fault => .plane (.config fault)) fun _ => nofun).bind fun _ =>
    (neverRejects_preflight output).bind fun _ =>
    (neverRejects_deployCheck hopen _).bind fun _ =>
    (NeverRejects.tell _ _ _).bind fun _ =>
    (NeverRejects.call _ _).bind fun _ =>
    (neverRejects_writePolicy _).bind fun _ => neverRejects_seedHosts _

/-- Behind a closed gate a start that has come so far ends at the check, before it calls the
kernel. -/
theorem start_of_closed {config : Config} {output : VersionOutput} {host : Kernel.Host}
    (hvalid : config.validate = .ok ())
    (hpreflight : ((preflight output).after host).1 = .ok ())
    (hclosed : config.license ∉ compatible) :
    (start config output).after host =
      (.error (.capability ⟨"filter_packets", .sharedTableAtomics⟩), host) := by
  have hconfig : (attempt (config.validate.mapError fun fault => .plane (.config fault))).after
      host = (.ok (), host) := by
    rw [hvalid]
    rfl
  have hready : (preflight output).after host = (.ok (), host) :=
    Prod.ext hpreflight (quiet_preflight output host)
  rw [start, after_bind_of_ok hconfig, after_bind_of_ok hready, after_bind, deployCheck,
    ProgramKind.check_eq, if_pos ⟨rfl, hclosed⟩]
  rfl

theorem start_capability_iff {config : Config} {output : VersionOutput} {host : Kernel.Host}
    (hvalid : config.validate = .ok ())
    (hpreflight : ((preflight output).after host).1 = .ok ()) :
    (∀ cause, ((start config output).after host).1 ≠ .error (.capability cause)) ↔
      config.license ∈ compatible := by
  constructor
  · intro hpasses
    by_contra hclosed
    rw [start_of_closed hvalid hpreflight hclosed] at hpasses
    exact hpasses _ rfl
  · intro hopen cause hrejected
    have hnever := neverRejects_start hopen output host trivial
    cases hafter : (start config output).after host with
    | mk result next =>
      rw [hafter] at hnever hrejected
      cases hrejected
      exact hnever cause rfl

end Agent

/-! ### One rule -/

namespace Session

/-- Behind a closed gate the source counter is refused after whatever was asked before, nothing is
counted, every key was given to a seed, and all other programs deploy. For every license of a valid
configuration the command, a plane and the agent give the same answer. -/
theorem license_gate :
    (∀ (hosts : List Address) (plane : Plane) (operations : List Plane.Operation) (last : Session),
      Plane.Made hosts plane → plane.license ∉ compatible →
      performAll? { plane } operations = some last →
      (last.plane.deploy (.handler .source)).result =
          .error (.capability ⟨"filter_packets", .sharedTableAtomics⟩) ∧
        (∀ kind, kind ≠ .handler .source → (last.plane.deploy kind).result = .ok ()) ∧
        (∀ i, (last.plane.table.slots.get i).count = 0) ∧
        ∀ i key, (last.plane.table.slots.get i).key = some key →
          ∃ addr : Address, addr.key = key ∧ (addr ∈ hosts ∨ .seed addr ∈ operations)) ∧
    ∀ (config : Config) (plane : Plane) (files : FileReader) (license name : Option String)
      (output : Agent.VersionOutput) (host : Kernel.Host),
      config.validate = .ok () → plane.license = config.license →
      (license = some config.license ∨
        license = none ∧ (Command.loadConfig files name).result = .ok config) →
      ((Agent.preflight output).after host).1 = .ok () →
      let checked := ((Command.check license name).run files).value.error
      (checked = none ↔ ∀ kind, (plane.deploy kind).result = .ok ()) ∧
        (checked = none ↔
          ∀ cause, ((Agent.start config output).after host).1 ≠ .error (.capability cause)) ∧
        (checked = none ∨ checked = some (.config (.programsRejected 1 6 config.license))) := by
  constructor
  · intro hosts plane operations last hmade hclosed hrun
    have hgated : last.Gated fun key =>
        ∃ addr : Address, addr.key = key ∧ (addr ∈ hosts ∨ .seed addr ∈ operations) := by
      refine performAll?_inv (motive := fun s => s.Gated _) ?_ ?_ hrun
      · intro s operation answer next hmem hs hmoves
        refine hs.step ?_ hmoves
        rintro addr rfl
        exact ⟨addr, rfl, .inr hmem⟩
      · exact ⟨hclosed, List.not_mem_nil, hmade.idle fun addr hmem => ⟨addr, rfl, .inl hmem⟩⟩
    exact ⟨Plane.deploy_source_result hgated.closed,
      fun kind hkind => last.plane.deploy_result_of_ne hkind,
      hgated.idle.count_eq, hgated.idle.key_given⟩
  · intro config plane files license name output host hvalid hplane hlicense hpreflight
    rw [Plane.deploy_all_iff, hplane, Agent.start_capability_iff hvalid hpreflight,
      Command.check_error hlicense]
    by_cases hopen : config.license ∈ compatible
    · simp [hopen]
    · simp [hopen]

/-- A plane under another license: the counter is asked for twice, in vain, while the classifier is
handed out and passes a frame. -/
theorem license_gate_proprietary :
    let config : Config := { license := "Proprietary", hosts := [⟨10, 0, 0, 1⟩] }
    let frame : Frame := List.replicate 26 0 ++ [10, 0, 0, 2]
    let operations : List Plane.Operation :=
      [.deploy (.handler .source), .deploy (.handler .classifier), .seed ⟨10, 0, 0, 2⟩,
        .observe .classifier frame, .fire 3 10, .deploy (.handler .source), .snapshot]
    let output : Agent.VersionOutput := .ok [54, 46, 56, 10]
    let host : Kernel.Host := {}
    let files : FileReader := fun _ => .error .notFound
    config.validate = .ok () ∧ ((Agent.preflight output).after host).1 = .ok () ∧
      ∃ plane last, Plane.Made config.hosts plane ∧ plane.license ∉ compatible ∧
        performAll? { plane } operations = some last ∧
        (last.plane.deploy (.handler .source)).result =
          .error (.capability ⟨"filter_packets", .sharedTableAtomics⟩) ∧
        (∀ i, (last.plane.table.slots.get i).count = 0) ∧
        ((Command.check (some config.license) none).run files).value.error =
          some (.config (.programsRejected 1 6 config.license)) := by
  intro config frame operations output host files
  have hvalid : config.validate = .ok () := by decide
  have hpreflight : ((Agent.preflight output).after host).1 = .ok () := by decide
  obtain ⟨plane, hplane, hplaneLicense, -⟩ := Plane.ofConfig_result hvalid
  have hclosed : plane.license ∉ compatible := by
    rw [hplaneLicense]
    decide
  have hsome : ((Plane.ofConfig config).result.toOption.bind fun plane =>
      performAll? { plane } operations).isSome := by decide +kernel
  rw [hplane] at hsome
  obtain ⟨last, hrun⟩ := Option.isSome_iff_exists.1 hsome
  obtain ⟨hsource, -, hcounts, -⟩ := license_gate.1 _ _ _ _ (.ofConfig hplane) hclosed hrun
  obtain ⟨hall, -, hanswer⟩ :=
    license_gate.2 config plane files _ none output host hvalid hplaneLicense (.inl rfl) hpreflight
  refine ⟨hvalid, hpreflight, plane, last, .ofConfig hplane, hclosed, hrun, hsource, hcounts, ?_⟩
  refine hanswer.resolve_left fun hnone => ?_
  have hdeployed := hall.1 hnone (.handler .source)
  rw [Plane.deploy_source_result hclosed] at hdeployed
  cases hdeployed

end Session

end SourceTally
