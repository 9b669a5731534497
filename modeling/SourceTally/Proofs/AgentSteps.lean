import SourceTally.Proofs.AgentSetup

/-!
# Reasoning about steps of the agent

Any call to the kernel may fail, and a step that fails ends the run where it is. A triple says what
holds where a step succeeds and what holds where it fails, in terms of the maps and of what has been
done to the kernel. It says nothing about what the kernel will do next, so a kernel may take up
another script between two steps.

## Main definitions

* `Agent.Step.Assertion`: a property of the maps and the events
* `Agent.Step.Ensures`: the triple
* `Agent.Step.Transacts`: a step that does all it should, or nothing
* `Agent.Step.unsteady`: steps over a kernel that changes its mind between them
* `Agent.Step.EnsuresAll`: the triple for such steps

## Main statements

* `Agent.Step.Ensures.bind`, `Agent.Step.Ensures.cons`: one step after the other
* `Agent.Step.ensures_attempt`, `Agent.Step.ensures_call`: a step that can fail
-/

namespace SourceTally.Agent.Step

variable {α β : Type}

/-- What can be said of a kernel whatever it will do next. -/
abbrev Assertion := Kernel.Maps → List Kernel.Event → Prop

/-- From wherever `pre` holds, the step succeeds with `post` or fails with `fail`. -/
def Ensures (pre : Assertion) (step : Step α) (post : Assertion) (fail : Error → Assertion) :
    Prop :=
  ∀ host : Kernel.Host, pre host.maps host.events →
    match step.after host with
    | (.ok _, next) => post next.maps next.events
    | (.error e, next) => fail e next.maps next.events

variable {pre mid post : Assertion} {fail : Error → Assertion}

theorem Ensures.bind {x : Step α} {f : α → Step β} (hx : Ensures pre x mid fail)
    (hf : ∀ a, Ensures mid (f a) post fail) : Ensures pre (x >>= f) post fail := by
  intro host hpre
  have hmid := hx host hpre
  rw [after_bind]
  cases hafter : x.after host with
  | mk result next =>
    rw [hafter] at hmid
    cases result with
    | ok a => exact hf a next hmid
    | error e => exact hmid

/-- What holds whether the step succeeds or not holds after it. -/
theorem Ensures.always {step : Step α} {host : Kernel.Host}
    (h : Ensures pre step post fun _ => post) (hpre : pre host.maps host.events) :
    post (step.after host).2.maps (step.after host).2.events := by
  have hafter := h host hpre
  split at hafter
  · next heq =>
    rw [heq]
    exact hafter
  · next heq =>
    rw [heq]
    exact hafter

/-- A step that does nothing to the kernel may fail at any time. -/
theorem Quiet.ensures {step : Step α} (hquiet : Quiet step)
    (hfail : ∀ e maps events, pre maps events → fail e maps events) :
    Ensures pre step pre fail := by
  intro host hpre
  have hsame := hquiet host
  cases hafter : step.after host with
  | mk result next =>
    rw [hafter] at hsame
    change next = host at hsame
    subst hsame
    cases result with
    | ok a => exact hpre
    | error e => exact hfail e _ _ hpre

theorem ensures_tell (component : Log.Component) (level : Log.Level) (text : String) :
    Ensures pre (tell component level text) pre fail :=
  fun _ hpre => hpre

theorem ensures_attempt {result : Except Error α}
    (hok : ∀ a maps events, result = .ok a → pre maps events → post maps events)
    (herror : ∀ e maps events, result = .error e → pre maps events → fail e maps events) :
    Ensures pre (attempt result) post fail := by
  intro host hpre
  cases result with
  | ok a => exact hok a _ _ rfl hpre
  | error e => exact herror e _ _ rfl hpre

theorem after_call_of_error {wrap : Kernel.Fault → Error}
    {f : Kernel.Host → Except Kernel.Fault Kernel.Host} {host : Kernel.Host}
    {fault : Kernel.Fault} (h : f host = .error fault) :
    (call wrap f).after host = (.error (wrap fault), host) := by
  rw [call, after_bind_of_ok after_get, h]
  rfl

theorem ensures_call {wrap : Kernel.Fault → Error}
    {f : Kernel.Host → Except Kernel.Fault Kernel.Host}
    (hok : ∀ host next, pre host.maps host.events → f host = .ok next →
      post next.maps next.events)
    (herror : ∀ fault maps events, pre maps events → fail (wrap fault) maps events) :
    Ensures pre (call wrap f) post fail := by
  intro host hpre
  cases hcall : f host with
  | ok next =>
    rw [after_call hcall]
    exact hok host next hpre hcall
  | error fault =>
    rw [after_call_of_error hcall]
    exact herror fault _ _ hpre

theorem ensures_requireMap {name : Kernel.MapName}
    (hmissing : ∀ maps events, pre maps events → fail (.noMap name) maps events) :
    Ensures pre (requireMap name) pre fail := by
  intro host hpre
  rw [requireMap, after_bind_of_ok after_get]
  cases host.script.shows name.text with
  | false => exact hmissing _ _ hpre
  | true => exact hpre

/-! ### All or nothing -/

variable {done : Kernel.Host → Kernel.Host → Prop}

theorem Quiet.after_eq {step : Step α} (h : Quiet step) (host : Kernel.Host) :
    step.after host = ((step.after host).1, host) :=
  Prod.ext rfl (h host)

/-- A step that does what it should, or else leaves the kernel as it was. -/
def Transacts (done : Kernel.Host → Kernel.Host → Prop) (step : Step α) : Prop :=
  ∀ host, match step.after host with
    | (.ok _, next) => done host next
    | (.error _, next) => next = host

theorem Quiet.transacts_bind {x : Step α} {f : α → Step β} (hx : Quiet x)
    (hf : ∀ a, Transacts done (f a)) : Transacts done (x >>= f) := by
  intro host
  rw [after_bind, hx.after_eq host]
  cases (x.after host).1 with
  | ok a => exact hf a host
  | error e => rfl

theorem transacts_call {wrap : Kernel.Fault → Error}
    {f : Kernel.Host → Except Kernel.Fault Kernel.Host}
    (hf : ∀ host next, f host = .ok next → done host next) : Transacts done (call wrap f) := by
  intro host
  cases hcall : f host with
  | ok next =>
    rw [after_call hcall]
    exact hf host next hcall
  | error fault => rw [after_call_of_error hcall]

theorem Transacts.quiet {step : Step α} (h : Transacts (fun host next => next = host) step) :
    Quiet step := by
  intro host
  have hafter := h host
  split at hafter
  · next heq => rwa [heq]
  · next heq => rwa [heq]

theorem Transacts.tell_after {x : Step Unit} (hx : Transacts done x) (component : Log.Component)
    (level : Log.Level) (text : String) :
    Transacts done (x >>= fun _ => tell component level text) := by
  intro host
  have h := hx host
  rw [after_bind]
  cases hafter : x.after host with
  | mk result next =>
    rw [hafter] at h
    cases result with
    | ok a => exact h
    | error e => exact h

theorem quiet_deployCheck (kind : ProgramKind) (license : String) :
    Quiet (deployCheck kind license) :=
  (quiet_attempt _).bind fun _ => quiet_tell _ _ _

theorem quiet_requireProgram (file : Kernel.ObjectFile) : Quiet (requireProgram file) := by
  refine Quiet.bind (fun _ => rfl) fun host => ?_
  have htype : Quiet (if host.script.wrongType then throw (.kernel .wrongType) else pure ()) := by
    split
    · exact quiet_throw _
    · exact fun _ => rfl
  dsimp only
  split
  · exact (quiet_throw _).bind fun _ => htype
  · exact htype

/-! ### A kernel that changes its mind -/

/-- Take steps one after the other. Before each of them the kernel may take up another script; when
these run out, it keeps the one it has. -/
def unsteady : List Kernel.Script → List (Step Unit) → Step Unit
  | _, [] => pure ()
  | [], step :: rest => do
    step
    unsteady [] rest
  | script :: scripts, step :: rest => do
    modify fun host => { host with script }
    step
    unsteady scripts rest

theorem unsteady_append (steps rest : List (Step Unit)) :
    unsteady [] (steps ++ rest) = unsteady [] steps >>= fun _ => unsteady [] rest := by
  induction steps with
  | nil => simp [unsteady]
  | cons step steps ih => simp [unsteady, ih]

/-- Whatever scripts the kernel takes up, from wherever `pre` holds all steps succeed with `post`,
or one of them fails with `fail`. -/
def EnsuresAll (pre : Assertion) (steps : List (Step Unit)) (post : Assertion)
    (fail : Error → Assertion) : Prop :=
  ∀ scripts, Ensures pre (unsteady scripts steps) post fail

variable {step : Step Unit} {rest : List (Step Unit)}

theorem ensuresAll_nil : EnsuresAll pre [] pre fail := by
  intro scripts host hpre
  rw [unsteady]
  exact hpre

theorem Ensures.cons (hstep : Ensures pre step mid fail) (hrest : EnsuresAll mid rest post fail) :
    EnsuresAll pre (step :: rest) post fail := by
  intro scripts
  cases scripts with
  | nil => exact hstep.bind fun _ => hrest []
  | cons script scripts =>
    have htake : Ensures pre (modify fun host : Kernel.Host => { host with script }) pre fail :=
      fun _ hpre => hpre
    exact htake.bind fun _ => hstep.bind fun _ => hrest scripts

/-- What comes after a check may rely on what it has found. -/
theorem Ensures.check_cons {found : Prop}
    (hstep : Ensures pre step (fun maps events => found ∧ pre maps events) fail)
    (hrest : found → EnsuresAll pre rest post fail) : EnsuresAll pre (step :: rest) post fail := by
  by_cases hfound : found
  · exact hstep.cons fun scripts host hmid => hrest hfound scripts host hmid.2
  · exact hstep.cons fun _ _ hmid => absurd hmid.1 hfound

theorem ensures_attempt_mapError {ε : Type} {result : Except ε Unit} {wrap : ε → Error}
    (hfail : ∀ e maps events, pre maps events → fail e maps events) :
    Ensures pre (attempt (result.mapError wrap))
      (fun maps events => result = .ok () ∧ pre maps events) fail := by
  refine ensures_attempt ?_ fun e maps events _ => hfail e maps events
  intro _ maps events hok hpre
  cases result with
  | ok => exact ⟨rfl, hpre⟩
  | error fault => cases hok

theorem ensures_deployCheck {kind : ProgramKind} {license : String}
    (hfail : ∀ e maps events, pre maps events → fail e maps events) :
    Ensures pre (deployCheck kind license)
      (fun maps events => kind.program.check license = .ok () ∧ pre maps events) fail :=
  (ensures_attempt_mapError hfail).bind fun _ => ensures_tell _ _ _

end SourceTally.Agent.Step
