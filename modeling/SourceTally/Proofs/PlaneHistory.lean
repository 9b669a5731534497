import SourceTally.Proofs.SnapshotTotals

/-!
# Planes that can be reached

A plane starts empty or from a configuration, and clients perform operations on it. Whatever they
ask, its table stays sound, and its snapshot never sums up to more than the number of invocations.

## Main definitions

* `Plane.Reached`: a plane can be reached with a number of invocations
* `CountingTable.Within`: a table has counted no more than a number of times

## Main statements

* `Plane.Reached.within`: the table of a plane stays sound and within the number of invocations
-/

namespace SourceTally

namespace CountingTable

variable {N : Nat} [HasSlots N] {t t' : CountingTable N} {key : UInt32} {n : Nat}

/-- A sound table that has counted no more than the given number of times. -/
structure Within (t : CountingTable N) (n : Nat) : Prop where
  sound : t.Sound
  total_le : (UInt64.ofNat (entryTotal t.entries)).toNat ≤ n

namespace Within

theorem mono (h : t.Within n) {later : Nat} (hle : n ≤ later) : t.Within later :=
  ⟨h.sound, Nat.le_trans h.total_le hle⟩

theorem seed (h : t.Within n) (hseed : t.seed key = .ok t') : t'.Within n := by
  cases hget : t.get? key with
  | some count =>
    rw [h.sound.seed_of_some hget, Except.ok.injEq] at hseed
    rwa [← hseed]
  | none =>
    rcases Nat.lt_or_eq_of_le h.sound.size_le with hroom | hfull
    · obtain ⟨t'', hseed', hsets⟩ := h.sound.seed_of_room hget hroom
      rw [hseed', Except.ok.injEq] at hseed
      have htotal := hsets.ofNat_total_add h.sound
      rw [hget, Option.getD_none, UInt64.add_zero, UInt64.add_zero] at htotal
      rw [← hseed]
      exact ⟨hsets.sound, htotal ▸ h.total_le⟩
    · rw [h.sound.seed_of_full hget hfull] at hseed
      cases hseed

theorem increment (h : t.Within n) (key : UInt32) : (t.increment key).2.Within (n + 1) := by
  have haccounts := h.sound.increment_accounts key
  have hle := h.total_le
  refine ⟨haccounts.sound, ?_⟩
  rw [haccounts.total_eq]
  split
  · rw [UInt64.add_zero]
    exact Nat.le_succ_of_le hle
  · -- if the total wraps around it gets smaller, so the bound holds all the more
    rw [UInt64.toNat_add]
    exact Nat.le_trans (Nat.mod_le _ _) (Nat.add_le_add_right hle 1)

/-- Known addresses that have not been counted sum up to nothing. -/
theorem of_tallies {addrs : List Address} (h : Tallies t addrs fun _ => 0) : t.Within 0 := by
  have hzero : entryTotal t.entries = 0 := by
    refine entryTotal_eq_zero ?_
    rintro ⟨key, count⟩ hmem
    rw [mem_entries, ← get?_eq_some_iff h.sound.placed, ← Address.key_ofKey key,
      h.get?_eq] at hmem
    split at hmem
    · exact (Option.some.inj hmem).symm
    · cases hmem
  refine ⟨h.sound, ?_⟩
  rw [hzero]
  exact Nat.le_refl 0

end Within

end CountingTable

theorem Attempt.result_bind_of_error {α β : Type} {x : Attempt α} {e : Error}
    (h : x.result = .error e) (f : α → Attempt β) : result (x >>= f) = .error e := by
  have hvalue : x.run.value = .error e := h
  simp only [result, ExceptT.run_bind, Logged.value_bind, hvalue]
  rfl

namespace Plane

/-- A configuration that is not valid is refused for what is wrong with it. -/
theorem ofConfig_result_of_invalid {config : Config} {fault : Config.Fault}
    (h : config.validate = .error fault) : (ofConfig config).result = .error (.config fault) := by
  have herror : Attempt.result (liftM (config.validate.mapError Error.config)) =
      .error (.config fault) := by
    rw [h]
    rfl
  rw [ofConfig, Attempt.result_bind_of_error herror]

/-- Only a valid configuration gives a plane. -/
theorem validate_of_ofConfig {config : Config} {plane : Plane}
    (h : (ofConfig config).result = .ok plane) : config.validate = .ok () := by
  cases hvalid : config.validate with
  | ok => rfl
  | error fault =>
    rw [ofConfig_result_of_invalid hvalid] at h
    cases h

/-- What a plane is like that was set up from a configuration. -/
theorem tallies_of_ofConfig {config : Config} {plane : Plane}
    (h : (ofConfig config).result = .ok plane) :
    plane.license = config.license ∧ plane.table.policy = config.policy ∧
      Tallies plane.table config.hosts.eraseDups fun _ => 0 := by
  obtain ⟨plane', hplane', hrest⟩ := ofConfig_result (validate_of_ofConfig h)
  rw [h, Except.ok.injEq] at hplane'
  rwa [hplane']

/-- Number of invocations in an operation. -/
def Operation.invocations : Operation → Nat
  | .observe _ _ => 1
  | _ => 0

/-- A plane that can be reached with the given number of invocations. -/
inductive Reached : Nat → Plane → Prop where
  | empty (policy : InsertPolicy) : Reached 0 (empty policy)
  | ofConfig {config : Config} {plane : Plane} (h : (ofConfig config).result = .ok plane) :
      Reached 0 plane
  | perform {n : Nat} {plane : Plane} (h : Reached n plane) (operation : Operation) :
      Reached (n + operation.invocations) (plane.perform operation).2

theorem Reached.observe {n : Nat} {plane : Plane} (h : Reached n plane) (handler : HandlerKind)
    (frame : Frame) : Reached (n + 1) (plane.observe handler frame).2 :=
  h.perform (.observe handler frame)

theorem Reached.observeAll {n : Nat} {plane : Plane} (h : Reached n plane)
    (handler : HandlerKind) (frames : List Frame) :
    Reached (n + frames.length) (plane.observeAll handler frames) := by
  induction frames generalizing n plane with
  | nil => exact h
  | cons frame rest ih =>
    rw [List.length_cons, Nat.add_comm rest.length, ← Nat.add_assoc]
    exact ih (h.observe handler frame)

variable {n : Nat} {plane : Plane}

theorem within_observe (h : plane.table.Within n) (handler : HandlerKind) (frame : Frame) :
    (plane.observe handler frame).2.table.Within (n + 1) := by
  have hkeep : plane.table.Within (n + 1) := h.mono (Nat.le_succ n)
  cases handler with
  | source =>
    rw [observe_source_table]
    cases frame.source? with
    | some addr => exact h.increment addr.key
    | none => exact hkeep
  | _ => exact hkeep

theorem within_perform (h : plane.table.Within n) (operation : Operation) :
    (plane.perform operation).2.table.Within (n + operation.invocations) := by
  cases operation with
  | seed addr =>
    rw [perform, seed?]
    cases hseed : plane.table.seed addr.key with
    | ok table => exact h.seed hseed
    | error full => exact h
  | deploy kind =>
    rw [perform]
    split
    · exact h
    · exact h
  | observe handler frame => exact within_observe h handler frame
  | fire lhs rhs =>
    rw [perform]
    split
    · exact h
    · exact h
  | snapshot => exact h
  | results => exact h

/-- Whatever is asked of a plane, its table stays sound and counts no more than there are
invocations. -/
theorem Reached.within (h : Reached n plane) : plane.table.Within n := by
  induction h with
  | empty policy => exact .of_tallies (Tallies.empty policy _)
  | ofConfig h => exact .of_tallies (tallies_of_ofConfig h).2.2
  | perform _ operation ih => exact within_perform ih operation

end Plane

end SourceTally
