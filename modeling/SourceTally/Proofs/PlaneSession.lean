import SourceTally.Proofs.PlaneHistory
import SourceTally.Proofs.ResultHistory

/-!
# What the clients of a plane can change

A plane hands out handlers, and clients use them between other requests: they seed hosts, deploy
programs, observe frames, fire the harness and look at snapshots. All of them share one table and
one row of result slots. Each operation is pinned down by its whole effect, so that the table and
the slots at the end of a session can be read off its list of operations.

## Main definitions

* `Plane.Made`: a plane as it is made
* `Session.Moves`: everything that one operation can do
* `Plane.Operation.tableRequest?`, `Plane.Operation.operands?`: what an operation asks of the table
  and of the slots

## Main statements

* `Session.table_performAll?`, `Session.slots_performAll?`: the table and the slots after a session
* `Session.performAll?_effects`: what a session changes, and what it leaves alone
-/

namespace SourceTally

namespace Plane

/-- A plane as it is made, with the hosts that are seeded on the way. -/
inductive Made : List Address → Plane → Prop where
  | empty (policy : InsertPolicy) : Made [] (empty policy)
  | ofConfig {config : Config} {plane : Plane} (h : (ofConfig config).result = .ok plane) :
      Made config.hosts plane

/-- What an operation asks of the counting table. A frame with less than 30 bytes has no source. -/
def Operation.tableRequest? : Operation → Option TableRequest
  | .seed addr => some (.seed addr.key)
  | .observe handler frame =>
    if handler = .source then frame.source?.map fun addr => .increment addr.key else none
  | .deploy _ | .fire _ _ | .snapshot | .results => none

/-- The operands with which an operation fires the harness. -/
def Operation.operands? : Operation → Option (UInt64 × UInt64)
  | .fire lhs rhs => some (lhs, rhs)
  | .seed _ | .deploy _ | .observe _ _ | .snapshot | .results => none

/-- The operation failed, or its frame was too short. -/
def Answer.Refuses : Answer → Prop
  | .failed _ => True
  | .observed observation => observation.outcome = .insufficientData
  | .done | .snapshot _ | .results _ => False

end Plane

/-- How many bytes a handler asks for. -/
def HandlerKind.needs : HandlerKind → Nat
  | source => 30
  | classifier => 14
  | socket => 1
  | message => 0
  | sockAddr => 0

/-- The named results of a computation, in the order of their slots. -/
def Arithmetic.entries (a : Arithmetic) : List ResultEntry :=
  ResultSlot.all.map fun slot => ⟨slot, a.value slot⟩

/-! ### Operations on the parts of a plane -/

theorem CountingTable.policy_serve {N : Nat} [HasSlots N] (t : CountingTable N)
    (request : TableRequest) : (t.serve request).2.policy = t.policy := by
  cases request with
  | seed key =>
    simp only [serve, seed]
    cases t.probe key <;> rfl
  | increment key =>
    simp only [serve, increment]
    cases t.probe key with
    | found i => rfl
    | vacant i => cases hpolicy : t.policy <;> simp [hpolicy, put]
    | exhausted => rfl
  | _ => rfl

theorem ResultSlot.index_lt (slot : ResultSlot) : slot.index < resultsCapacity := by
  cases slot <;> decide

/-- Every named slot is written, so nothing is left of what was there before. -/
theorem Arithmetic.load?_storeInto (a : Arithmetic) (s : ResultSlots resultsCapacity)
    (slot : ResultSlot) : (a.storeInto s).load? slot.index = some (a.value slot) := by
  rw [a.load?_storeInto_of_lt s slot.index_lt]
  cases slot <;> rfl

theorem checkingInvocation_require {V : Type} [Verdict V] (frame : Frame) (len : UInt64) :
    (checkingInvocation (V := V) (frame.require len)).2 = .insufficientData ↔
      frame.length < len.toNat := by
  rw [Frame.require_eq]
  by_cases hlong : len.toNat ≤ frame.length
  · simp [hlong]
  · simp only [hlong, if_false, checkingInvocation_error, true_iff]
    omega

namespace Plane

variable {plane : Plane} {handler : HandlerKind} {frame : Frame}

theorem results_of_storeInto {a : Arithmetic} {slots : ResultSlots resultsCapacity}
    (h : plane.slots = a.storeInto slots) : plane.results = a.entries := by
  simp only [results, h, Arithmetic.load?_storeInto, Option.map_some]
  rfl

theorem results_of_zero (h : plane.slots = .zero resultsCapacity) :
    plane.results = ResultSlot.all.map (⟨·, 0⟩) := by
  simp only [results, h, ResultSlots.load?_zero (ResultSlot.index_lt _), Option.map_some]
  rfl

theorem observe_of_ne_source (plane : Plane) (h : handler ≠ .source) (frame : Frame) :
    (plane.observe handler frame).2 = plane := by
  cases handler with
  | source => exact absurd rfl h
  | _ => rfl

/-- An observation is short exactly if the frame has less bytes than the handler asks for. -/
theorem observe_outcome_iff (plane : Plane) (handler : HandlerKind) (frame : Frame) :
    (plane.observe handler frame).1.outcome = .insufficientData ↔
      frame.length < handler.needs := by
  cases handler with
  | source =>
    show _ ↔ frame.length < 30
    rw [← Frame.source?_eq_none_iff]
    cases hsource : frame.source? with
    | none => simp [plane.observe_source_of_none hsource]
    | some addr => simp [plane.observe_source_of_some hsource]
  | classifier => exact checkingInvocation_require frame Field.ethernetHeader.toUInt64
  | socket => exact checkingInvocation_require frame 1
  | message => simp [observe, HandlerKind.observe, HandlerKind.needs]
  | sockAddr => simp [observe, HandlerKind.observe, HandlerKind.needs]

theorem observe_of_short (h : (plane.observe handler frame).1.outcome = .insufficientData) :
    (plane.observe handler frame).2 = plane := by
  by_cases hhandler : handler = .source
  · subst hhandler
    cases hsource : frame.source? with
    | none => rw [plane.observe_source_of_none hsource]
    | some addr =>
      rw [plane.observe_source_of_some hsource] at h
      cases h
  · exact plane.observe_of_ne_source hhandler frame

theorem verdict_observe (plane plane' : Plane) (handler : HandlerKind) (frame : Frame) :
    (plane.observe handler frame).1.verdict = (plane'.observe handler frame).1.verdict := by
  cases handler with
  | source =>
    cases hsource : frame.source? with
    | none => rw [plane.observe_source_of_none hsource, plane'.observe_source_of_none hsource]
    | some addr => rw [plane.observe_source_of_some hsource, plane'.observe_source_of_some hsource]
  | _ => rfl

/-- Any license lets the harness be deployed, since it asks for nothing that is restricted. -/
theorem admits_results (plane : Plane) : plane.admits ProgramKind.results.program = .ok () := rfl

theorem deploy_result_eq (plane : Plane) (kind : ProgramKind) :
    (plane.deploy kind).result = plane.admits kind.program := by
  cases hadmits : plane.admits kind.program with
  | ok =>
    have hok : Attempt.result (liftM (plane.admits kind.program)) = .ok () := by
      rw [hadmits]
      rfl
    rw [deploy, Attempt.result_bind_of_ok hok, Attempt.result_note]
  | error e =>
    have herror : Attempt.result (liftM (plane.admits kind.program)) = .error e := by
      rw [hadmits]
      rfl
    rw [deploy, Attempt.result_bind_of_error herror]

/-- Seeding changes nothing but the table. -/
theorem seed?_eq_ok {addr : Address} {next : Plane} (h : plane.seed? addr = .ok next) :
    ∃ table, plane.table.seed addr.key = .ok table ∧ next = { plane with table } := by
  unfold seed? at h
  cases hseed : plane.table.seed addr.key with
  | ok table =>
    rw [hseed] at h
    exact ⟨table, rfl, (Except.ok.inj h).symm⟩
  | error full =>
    rw [hseed] at h
    cases h

/-- What seeding a host keeps is kept by seeding all hosts. -/
theorem foldlM_seed_inv {motive : Plane → Prop} {hosts : List Address} {last : Plane}
    (hstep : ∀ p addr next, addr ∈ hosts → motive p → p.seed? addr = .ok next → motive next)
    (hstart : motive plane) (h : Attempt.result (hosts.foldlM seed plane) = .ok last) :
    motive last := by
  induction hosts generalizing plane with
  | nil =>
    obtain rfl : plane = last := Except.ok.inj h
    exact hstart
  | cons addr rest ih =>
    rw [List.foldlM_cons] at h
    cases hseed : plane.seed? addr with
    | error e =>
      rw [Attempt.result_bind_of_error (plane.seed_result addr ▸ hseed)] at h
      cases h
    | ok next =>
      rw [Attempt.result_bind_of_ok (plane.seed_result addr ▸ hseed)] at h
      refine ih (fun p other next' hother => hstep p other next' (List.mem_cons_of_mem _ hother))
        ?_ h
      exact hstep plane addr next List.mem_cons_self hstart hseed

/-- A configuration gives the plane that its hosts are seeded into. -/
theorem foldlM_seed_of_ofConfig {config : Config} (h : (ofConfig config).result = .ok plane) :
    Attempt.result (config.hosts.foldlM seed
      { empty config.policy with license := config.license }) = .ok plane := by
  have hvalid : Attempt.result (liftM (config.validate.mapError Error.config)) = .ok () := by
    rw [validate_of_ofConfig h]
    rfl
  rw [ofConfig, Attempt.result_bind_of_ok hvalid] at h
  cases hseeded : Attempt.result (config.hosts.foldlM seed
      { empty config.policy with license := config.license }) with
  | error e =>
    rw [Attempt.result_bind_of_error hseeded] at h
    cases h
  | ok seeded =>
    rw [Attempt.result_bind_of_ok hseeded,
      Attempt.result_bind_of_ok (Attempt.result_note _ _ _)] at h
    split at h
    · exact h
    · exact h

/-- What holds of planes without keys and is kept by seeding holds of every plane that is made. -/
theorem Made.inv {hosts : List Address} (h : Made hosts plane) {motive : Plane → Prop}
    (hempty : ∀ policy license, motive { Plane.empty policy with license })
    (hseed : ∀ p addr next, addr ∈ hosts → motive p → p.seed? addr = .ok next → motive next) :
    motive plane := by
  cases h with
  | empty policy => exact hempty policy License.gpl
  | ofConfig h => exact foldlM_seed_inv hseed (hempty _ _) (foldlM_seed_of_ofConfig h)

theorem Made.slots_eq {hosts : List Address} (h : Made hosts plane) :
    plane.slots = .zero resultsCapacity := by
  refine h.inv (motive := fun p => p.slots = .zero resultsCapacity) (fun _ _ => rfl) ?_
  intro p addr next _ hp hseed
  obtain ⟨table, _, rfl⟩ := seed?_eq_ok hseed
  exact hp

end Plane

/-! ### Sessions -/

namespace Session

open Plane (Operation Answer)

/-- Everything that one operation can do. -/
inductive Moves (s : Session) : Operation → Answer → Session → Prop where
  | seeded (addr : Address) {table : CountingTable counterCapacity}
      (h : s.plane.table.seed addr.key = .ok table) :
      Moves s (.seed addr) .done { s with plane := { s.plane with table } }
  | full (addr : Address) {full : TableFull} (h : s.plane.table.seed addr.key = .error full) :
      Moves s (.seed addr) (.failed (.tableFull full.capacity addr)) s
  | deployed (handler : HandlerKind) (h : s.plane.admits handler.program = .ok ()) :
      Moves s (.deploy (.handler handler)) .done { s with handlers := handler :: s.handlers }
  | harness : Moves s (.deploy .results) .done s
  | rejected (handler : HandlerKind) {e : Error}
      (h : s.plane.admits handler.program = .error e) :
      Moves s (.deploy (.handler handler)) (.failed e) s
  | observed {handler : HandlerKind} (frame : Frame) (h : handler ∈ s.handlers) :
      Moves s (.observe handler frame) (.observed (s.plane.observe handler frame).1)
        { s with plane := (s.plane.observe handler frame).2 }
  | fired (lhs rhs : UInt64) :
      Moves s (.fire lhs rhs) .done { s with plane := s.plane.fire lhs rhs }
  | snapshot : Moves s .snapshot (.snapshot s.plane.snapshot) s
  | results : Moves s .results (.results s.plane.results) s

variable {s next last : Session} {operation : Operation} {operations : List Operation}
  {answer : Answer}

theorem perform?_moves (h : s.perform? operation = some (answer, next)) :
    Moves s operation answer next := by
  cases operation with
  | seed addr =>
    simp only [perform?, Plane.perform, Plane.seed?] at h
    cases hseed : s.plane.table.seed addr.key with
    | ok table =>
      simp only [hseed, Option.some.injEq, Prod.mk.injEq] at h
      obtain ⟨rfl, rfl⟩ := h
      exact .seeded addr hseed
    | error full =>
      simp only [hseed, Option.some.injEq, Prod.mk.injEq] at h
      obtain ⟨rfl, rfl⟩ := h
      exact .full addr hseed
  | deploy kind =>
    simp only [perform?, Plane.deploy_result_eq] at h
    cases kind with
    | results =>
      simp only [Plane.admits_results, Option.some.injEq, Prod.mk.injEq] at h
      obtain ⟨rfl, rfl⟩ := h
      exact .harness
    | handler handler =>
      cases hadmits : s.plane.admits handler.program with
      | ok =>
        simp only [show (ProgramKind.handler handler).program = handler.program from rfl, hadmits,
          Option.some.injEq, Prod.mk.injEq] at h
        obtain ⟨rfl, rfl⟩ := h
        exact .deployed handler hadmits
      | error e =>
        simp only [show (ProgramKind.handler handler).program = handler.program from rfl, hadmits,
          Option.some.injEq, Prod.mk.injEq] at h
        obtain ⟨rfl, rfl⟩ := h
        exact .rejected handler hadmits
  | observe handler frame =>
    simp only [perform?] at h
    split at h
    · next hhanded =>
      simp only [Option.some.injEq, Prod.mk.injEq] at h
      obtain ⟨rfl, rfl⟩ := h
      exact .observed frame hhanded
    · cases h
  | fire lhs rhs =>
    simp only [perform?, Plane.perform, Plane.admits_results, Option.some.injEq,
      Prod.mk.injEq] at h
    obtain ⟨rfl, rfl⟩ := h
    exact .fired lhs rhs
  | snapshot =>
    simp only [perform?, Plane.perform, Option.some.injEq, Prod.mk.injEq] at h
    obtain ⟨rfl, rfl⟩ := h
    exact .snapshot
  | results =>
    simp only [perform?, Plane.perform, Option.some.injEq, Prod.mk.injEq] at h
    obtain ⟨rfl, rfl⟩ := h
    exact .results

theorem performAll?_cons (h : s.performAll? (operation :: operations) = some last) :
    ∃ answer next, Moves s operation answer next ∧ next.performAll? operations = some last := by
  rw [performAll?] at h
  split at h
  · next answer next hone => exact ⟨answer, next, perform?_moves hone, h⟩
  · cases h

/-- What every operation keeps is kept by a session. -/
theorem performAll?_inv {motive : Session → Prop}
    (hstep : ∀ s operation answer next, operation ∈ operations → motive s →
      Moves s operation answer next → motive next)
    (hstart : motive s) (h : s.performAll? operations = some last) : motive last := by
  induction operations generalizing s with
  | nil =>
    obtain rfl : s = last := Option.some.inj h
    exact hstart
  | cons operation rest ih =>
    obtain ⟨answer, next, hmoves, hrest⟩ := performAll?_cons h
    refine ih (fun s other answer next hother => hstep s other answer next ?_) ?_ hrest
    · exact List.mem_cons_of_mem _ hother
    · exact hstep s operation answer next List.mem_cons_self hstart hmoves

namespace Moves

theorem table_eq (h : Moves s operation answer next) : next.plane.table =
    (s.plane.table.serveAll operation.tableRequest?.toList).2 := by
  cases h with
  | seeded addr h => simp [Operation.tableRequest?, CountingTable.serveAll, CountingTable.serve, h]
  | full addr h => simp [Operation.tableRequest?, CountingTable.serveAll, CountingTable.serve, h]
  | observed frame h =>
    rename_i handler
    by_cases hsource : handler = .source
    · subst hsource
      simp only [Operation.tableRequest?, if_true, Plane.observe_source_table]
      cases frame.source? <;> rfl
    · simp only [Operation.tableRequest?, if_neg hsource,
        s.plane.observe_of_ne_source hsource frame]
      rfl
  | _ => rfl

theorem slots_eq (h : Moves s operation answer next) : next.plane.slots =
    operation.operands?.toList.foldl
      (fun slots fired => (Arithmetic.compute fired.1 fired.2).storeInto slots) s.plane.slots := by
  cases h <;> rfl

theorem license_eq (h : Moves s operation answer next) : next.plane.license = s.plane.license := by
  cases h <;> rfl

theorem policy_eq (h : Moves s operation answer next) :
    next.plane.table.policy = s.plane.table.policy := by
  rw [h.table_eq]
  cases operation.tableRequest? with
  | none => rfl
  | some request => exact s.plane.table.policy_serve request

theorem eq_of_refuses (h : Moves s operation answer next) (hrefuses : answer.Refuses) :
    next = s := by
  cases h with
  | full | rejected => rfl
  | observed frame h =>
    have hshort : (s.plane.observe _ frame).1.outcome = .insufficientData := hrefuses
    rw [Plane.observe_of_short hshort]
  | _ => exact absurd hrefuses id

end Moves

theorem table_performAll? (h : s.performAll? operations = some last) :
    last.plane.table =
      (s.plane.table.serveAll (operations.filterMap Operation.tableRequest?)).2 := by
  induction operations generalizing s with
  | nil =>
    obtain rfl : s = last := Option.some.inj h
    rfl
  | cons operation rest ih =>
    obtain ⟨answer, next, hmoves, hrest⟩ := performAll?_cons h
    rw [ih hrest, hmoves.table_eq]
    cases hrequest : operation.tableRequest? with
    | none => rw [List.filterMap_cons_none hrequest, Option.toList_none, CountingTable.serveAll]
    | some request =>
      rw [List.filterMap_cons_some hrequest]
      rfl

theorem slots_performAll? (h : s.performAll? operations = some last) :
    last.plane.slots = (operations.filterMap Operation.operands?).foldl
      (fun slots fired => (Arithmetic.compute fired.1 fired.2).storeInto slots) s.plane.slots := by
  induction operations generalizing s with
  | nil =>
    obtain rfl : s = last := Option.some.inj h
    rfl
  | cons operation rest ih =>
    obtain ⟨answer, next, hmoves, hrest⟩ := performAll?_cons h
    rw [ih hrest, hmoves.slots_eq]
    cases hoperands : operation.operands? with
    | none => rw [List.filterMap_cons_none hoperands, Option.toList_none, List.foldl_nil]
    | some operands =>
      rw [List.filterMap_cons_some hoperands]
      rfl

/-- The last firing decides about the results, whatever was in the slots. -/
theorem results_performAll? (h : s.performAll? operations = some last)
    (hzero : s.plane.slots = .zero resultsCapacity) :
    last.plane.results = match (operations.filterMap Operation.operands?).getLast? with
      | some (lhs, rhs) => (Arithmetic.compute lhs rhs).entries
      | none => ResultSlot.all.map (⟨·, 0⟩) := by
  have hslots := slots_performAll? h
  rcases List.eq_nil_or_concat (operations.filterMap Operation.operands?) with
    hnone | ⟨before, ⟨lhs, rhs⟩, hfired⟩
  · rw [hnone, List.foldl_nil, hzero] at hslots
    rw [hnone, Plane.results_of_zero hslots]
    rfl
  · rw [hfired, List.concat_eq_append, List.foldl_append, List.foldl_cons,
      List.foldl_nil] at hslots
    rw [hfired, List.concat_eq_append, List.getLast?_concat]
    exact Plane.results_of_storeInto hslots

/-- For every plane as it is made and every session on it: the table at the end is the one that
serves only the seeds and the sources of observed frames of 30 bytes or more, in their order; the
results are those of the last firing; policy, capacity and license are as they were. Whatever is
asked then, an operation that fails or is too short changes nothing, and a handler's verdict on a
frame does not depend on the plane. -/
theorem performAll?_effects {hosts : List Address} {plane : Plane} (hmade : Plane.Made hosts plane)
    (hrun : performAll? { plane } operations = some last) :
    last.plane.table =
        (plane.table.serveAll (operations.filterMap Operation.tableRequest?)).2 ∧
      (∀ frame, (Operation.observe .source frame).tableRequest? = none ↔ frame.length < 30) ∧
      last.plane.results = (match (operations.filterMap Operation.operands?).getLast? with
        | some (lhs, rhs) => (Arithmetic.compute lhs rhs).entries
        | none => ResultSlot.all.map (⟨·, 0⟩)) ∧
      last.plane.table.policy = plane.table.policy ∧
      last.plane.snapshot.capacity = plane.snapshot.capacity ∧
      last.plane.license = plane.license ∧
      (∀ operation answer next, last.perform? operation = some (answer, next) →
        answer.Refuses → next = last) ∧
      (∀ handler frame, (last.plane.observe handler frame).1.outcome = .insufficientData ↔
        frame.length < handler.needs) ∧
      ∀ (handler : HandlerKind) (frame : Frame) (other : Plane),
        (last.plane.observe handler frame).1.verdict =
          (other.observe handler frame).1.verdict := by
  refine ⟨table_performAll? hrun, ?_, results_performAll? hrun hmade.slots_eq, ?_, rfl, ?_, ?_, ?_,
    ?_⟩
  · intro frame
    rw [Operation.tableRequest?, if_pos rfl, Option.map_eq_none_iff, Frame.source?_eq_none_iff]
  · exact performAll?_inv (motive := fun s => s.plane.table.policy = plane.table.policy)
      (fun _ _ _ _ _ hs hmoves => hmoves.policy_eq.trans hs) rfl hrun
  · exact performAll?_inv (motive := fun s => s.plane.license = plane.license)
      (fun _ _ _ _ _ hs hmoves => hmoves.license_eq.trans hs) rfl hrun
  · intro operation answer next hperform
    exact (perform?_moves hperform).eq_of_refuses
  · exact last.plane.observe_outcome_iff
  · intro handler frame other
    exact last.plane.verdict_observe other handler frame

/-- A session with every kind of operation: a source is seen twice, once in a frame that is cut off,
and the harness is fired twice, the second time with nothing to divide by. -/
theorem performAll?_effects_fired_twice :
    let plane := Plane.empty .lookupOrInsert
    let frame : Frame := List.replicate 26 0 ++ [10, 0, 0, 2]
    let operations : List Operation :=
      [.deploy (.handler .source), .deploy (.handler .classifier), .deploy .results,
        .seed ⟨10, 0, 0, 1⟩, .fire 3 10, .observe .source frame, .observe .source (frame.take 29),
        .observe .classifier frame, .snapshot, .fire 0 7, .results]
    Plane.Made [] plane ∧ ∃ last, performAll? { plane } operations = some last ∧
      last.plane.table = (plane.table.serveAll [.seed 0x100000a, .increment 0x200000a]).2 ∧
      last.plane.results =
        [⟨.sum, 7⟩, ⟨.difference, 7⟩, ⟨.product, 0⟩, ⟨.quotient, 0⟩, ⟨.remainder, 7⟩] ∧
      last.plane.license = License.gpl := by
  intro plane frame operations
  have hmade : Plane.Made [] plane := .empty _
  have hsome : (performAll? { plane } operations).isSome := by decide +kernel
  obtain ⟨last, hrun⟩ := Option.isSome_iff_exists.1 hsome
  have hrequests : operations.filterMap Operation.tableRequest? =
      [.seed 0x100000a, .increment 0x200000a] := by decide
  have hfired : (operations.filterMap Operation.operands?).getLast? = some (0, 7) := by decide
  obtain ⟨htable, -, hresults, -, -, hlicense, -⟩ := performAll?_effects hmade hrun
  rw [hrequests] at htable
  rw [hfired] at hresults
  refine ⟨hmade, last, hrun, htable, ?_, hlicense⟩
  rw [hresults]
  decide

end Session

end SourceTally
