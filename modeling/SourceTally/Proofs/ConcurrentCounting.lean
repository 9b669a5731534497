import Mathlib.Data.List.Nodup
import Mathlib.Data.List.Perm.Basic
import SourceTally.Proofs.Interleaving

/-!
# No count is lost

Calls that race for one key, for one slot or for one counter still count right. The values that the
calls on a key have obtained from its counter are one, two, three and so on, each once, and the
counter stands at the last of them. Of the calls that count a key, at most one has claimed its slot.
Both facts hold after every step of every schedule.

## Main definitions

* `obtained`: the values that calls have got from the counter of a key
* `Call.hasClaimed`: a call that counts has put its key into a slot
* `System.Counted`: the invariant of the counters

## Main statements

* `System.Counted.step`, `System.Counted.run`: every step keeps the invariant
* `System.run_counts`: what the answers and the counters say when the calls have returned
-/

namespace SourceTally.Atomic

variable {N : Nat}

/-- The values that calls have got from the counter of a key. -/
def obtained (key : UInt32) (calls : List (Call N)) : List UInt64 :=
  calls.filterMap (Call.obtained? key)

/-- The first `n` values of a counter that starts at zero. -/
def counterValues (n : Nat) : List UInt64 := (List.range n).map fun j => UInt64.ofNat (j + 1)

theorem counterValues_succ (n : Nat) :
    counterValues (n + 1) = counterValues n ++ [UInt64.ofNat (n + 1)] := by
  simp [counterValues, List.range_succ]

theorem nodup_counterValues {n : Nat} (h : n < 2 ^ 64) : (counterValues n).Nodup := by
  refine List.Nodup.map_on ?_ List.nodup_range
  intro a ha b hb hab
  rw [List.mem_range] at ha hb
  -- below `2 ^ 64` two numbers are equal if their words are
  have hnat := congrArg UInt64.toNat hab
  rw [UInt64.toNat_ofNat', UInt64.toNat_ofNat'] at hnat
  omega

/-- Whether a call that counts a key has put it into a slot. -/
def Call.hasClaimed (key : UInt32) (call : Call N) : Bool :=
  call.request = .increment key &&
    match call.phase with
    | .announcing _ => true
    | .adding _ claimed => claimed
    | .returned answer _ => answer = .counted .inserted
    | _ => false

theorem Call.obtained?_of_ne (call : Call N) {key : UInt32} (h : call.request.key ≠ key) :
    call.obtained? key = none := by
  have hne : call.request ≠ .increment key := fun heq => h (by rw [heq]; rfl)
  unfold Call.obtained?
  split
  · exact if_neg hne
  · rfl

theorem Call.hasClaimed_of_hasInserted {call : Call N} {key : UInt32} (h : call.hasInserted key) :
    call.hasClaimed key := by
  obtain ⟨request, phase⟩ := call
  simp only [Call.hasInserted, Bool.and_eq_true, decide_eq_true_eq] at h
  obtain ⟨rfl, hanswer⟩ := h
  cases phase with
  | returned answer obtained =>
    obtain rfl : answer = .counted .inserted := Option.some.inj hanswer
    simp [Call.hasClaimed]
  | _ => exact absurd hanswer (Option.some_ne_none _).symm

theorem Call.hasInserted_of_hasClaimed {call : Call N} {key : UInt32} (h : call.hasClaimed key)
    (hreturned : call.hasReturned) : call.hasInserted key := by
  obtain ⟨request, phase⟩ := call
  cases phase with
  | returned answer obtained => simpa [Call.hasClaimed, Call.hasInserted, Call.answer?] using h
  | _ => exact absurd hreturned Bool.false_ne_true

variable [HasSlots N]

/-- The three kinds of step, as the counters and claims see them: a step that touches neither, one
that puts a key into a slot, and one that adds to a counter. -/
theorem Moves.kinds {table table' : CountingTable N} {request : Request} {phase phase' : Phase N}
    (h : Moves table request phase table' phase') :
    (table'.slots = table.slots ∧
      ∀ key, (Call.mk request phase').obtained? key = (Call.mk request phase).obtained? key ∧
        (Call.mk request phase').hasClaimed key = (Call.mk request phase).hasClaimed key) ∨
    (∃ left i, phase = .claiming left i ∧ phase' = .announcing i ∧ (table.slots.get i).key = none ∧
      table'.slots = table.slots.set i ⟨some request.key, (table.slots.get i).count⟩ i.isLt) ∨
    ∃ i claimed, phase = .adding i claimed ∧ table' = table.bump i ∧
      phase' = .returned
        (.counted (if claimed then .inserted else .updated ((table.slots.get i).count + 1)))
        (some ((table.slots.get i).count + 1)) := by
  cases h with
  | probeEmpty hslot =>
    refine .inl ⟨rfl, fun key => ?_⟩
    cases table.policy <;> simp [Phase.afterMiss, Phase.claim, Call.obtained?, Call.hasClaimed]
  | probeHit hslot => exact .inl ⟨rfl, fun key => ⟨rfl, rfl⟩⟩
  | probeOther hslot hne => exact .inl ⟨rfl, fun key => ⟨rfl, rfl⟩⟩
  | probeLast hslot hne =>
    refine .inl ⟨rfl, fun key => ?_⟩
    cases table.policy <;> simp [Phase.afterMiss, Phase.claim, Call.obtained?, Call.hasClaimed]
  | claimEmpty hslot => exact .inr (.inl ⟨_, _, rfl, rfl, hslot, rfl⟩)
  | claimHit hslot =>
    refine .inl ⟨rfl, fun key => ?_⟩
    cases request <;> simp [Phase.afterClaim, Call.obtained?, Call.hasClaimed]
  | claimOther hslot hne => exact .inl ⟨rfl, fun key => ⟨rfl, rfl⟩⟩
  | claimLast hslot hne =>
    refine .inl ⟨rfl, fun key => ?_⟩
    cases request <;> simp [Phase.afterFull, Call.obtained?, Call.hasClaimed]
  | announce =>
    refine .inl ⟨rfl, fun key => ?_⟩
    cases request <;> simp [Phase.afterClaim, Call.obtained?, Call.hasClaimed]
  | add => exact .inr (.inr ⟨_, _, rfl, rfl, rfl⟩)
  | rest => exact .inl ⟨rfl, fun key => ⟨rfl, rfl⟩⟩

/-- A call that has obtained a value, or has claimed a slot, has its key in the table. -/
theorem Phase.Fits.holds_of_obtained {table : CountingTable N} {call : Call N} {key : UInt32}
    {value : UInt64} (h : call.phase.Fits table call.request)
    (hobtained : call.obtained? key = some value) : Holds table.slots key := by
  obtain ⟨request, phase⟩ := call
  cases phase with
  | returned answer obtained =>
    simp only [Call.obtained?] at hobtained
    split at hobtained
    · next hrequest =>
      subst hrequest hobtained
      cases answer with
      | seeded => exact h.2
      | full => exact absurd h.1 (Option.some_ne_none value)
      | counted result =>
        cases result with
        | updated _ => exact h.2
        | inserted => exact h.2
        | notFound => exact absurd h.1 (Option.some_ne_none value)
    · exact absurd hobtained (Option.some_ne_none value).symm
  | _ => exact absurd hobtained (Option.some_ne_none value).symm

theorem Phase.Fits.holds_of_claimed {table : CountingTable N} {call : Call N} {key : UInt32}
    (h : call.phase.Fits table call.request) (hclaimed : call.hasClaimed key) :
    Holds table.slots key := by
  obtain ⟨request, phase⟩ := call
  simp only [Call.hasClaimed, Bool.and_eq_true, decide_eq_true_eq] at hclaimed
  obtain ⟨rfl, hphase⟩ := hclaimed
  cases phase with
  | announcing i => exact ⟨i, h⟩
  | adding i claimed => exact ⟨i, h.2⟩
  | returned answer obtained =>
    obtain rfl : answer = .counted .inserted := of_decide_eq_true hphase
    exact h.2
  | _ => exact absurd hphase Bool.false_ne_true

/-- A call has counted a key exactly if it has obtained a value from its counter. -/
theorem Phase.Fits.hasCounted_eq {table : CountingTable N} {call : Call N}
    (h : call.phase.Fits table call.request) (key : UInt32) :
    call.hasCounted key = (call.obtained? key).isSome := by
  obtain ⟨request, phase⟩ := call
  by_cases hrequest : request = .increment key
  · subst hrequest
    have hself : decide (Request.increment key = .increment key) = true := decide_eq_true rfl
    cases phase with
    | returned answer obtained =>
      have hobtained : Call.obtained? key
          (⟨.increment key, .returned answer obtained⟩ : Call N) = obtained := if_pos rfl
      rw [hobtained]
      cases answer with
      | seeded =>
        rw [h.1]
        exact Bool.and_false _
      | full =>
        rw [h.1]
        exact Bool.and_false _
      | counted result =>
        cases result with
        | updated value =>
          rw [h.1]
          exact (Bool.and_true _).trans hself
        | inserted =>
          rw [Option.isSome_iff_ne_none.2 h.1]
          exact (Bool.and_true _).trans hself
        | notFound =>
          rw [h.1]
          exact Bool.and_false _
    | _ => exact Bool.and_false _
  · -- a call about another key, or one that seeds, has neither counted nor obtained
    have hobtained : Call.obtained? key (⟨request, phase⟩ : Call N) = none := by
      cases phase with
      | returned answer obtained => exact if_neg hrequest
      | _ => rfl
    rw [hobtained, Call.hasCounted, decide_eq_false hrequest]
    rfl

namespace System

/-- The values obtained from each counter are the first values of a counter, and the counter stands
at the last one. Of the calls that count a key at most one has claimed its slot, and one has if the
key is there and nobody seeds it. -/
structure Counted (s : System N) : Prop where
  values : ∀ key, (obtained key s.calls).Perm (counterValues (obtained key s.calls).length)
  count_eq : ∀ (i : Fin N) (key : UInt32), (s.table.slots.get i).key = some key →
    (s.table.slots.get i).count = UInt64.ofNat (obtained key s.calls).length
  claimed_le : ∀ key, s.calls.countP (Call.hasClaimed key) ≤ 1
  claimed : ∀ key, Holds s.table.slots key → Request.seed key ∉ s.calls.map Call.request →
    s.calls.countP (Call.hasClaimed key) = 1

theorem Sound.obtained_eq_nil {s : System N} (h : s.Sound) {key : UInt32}
    (habsent : ¬ Holds s.table.slots key) : obtained key s.calls = [] := by
  refine List.filterMap_eq_nil_iff.2 fun call hcall => ?_
  cases hobtained : call.obtained? key with
  | none => rfl
  | some value => exact absurd ((h.fits call hcall).holds_of_obtained hobtained) habsent

theorem Sound.countP_hasClaimed {s : System N} (h : s.Sound) {key : UInt32}
    (habsent : ¬ Holds s.table.slots key) : s.calls.countP (Call.hasClaimed key) = 0 :=
  List.countP_eq_zero.2 fun call hcall hclaimed =>
    habsent ((h.fits call hcall).holds_of_claimed hclaimed)

theorem counted_start (policy : InsertPolicy) (requests : List Request) :
    (start N policy requests).Counted := by
  have habsent : ∀ key, ¬ Holds (start N policy requests).table.slots key := not_holds_replicate
  have hsound := sound_start (N := N) policy requests
  refine ⟨fun key => ?_, ?_, fun key => ?_, ?_⟩
  · rw [hsound.obtained_eq_nil (habsent key)]
    rfl
  · intro i key hi
    exact absurd ⟨i, hi⟩ (habsent key)
  · rw [hsound.countP_hasClaimed (habsent key)]
    exact Nat.zero_le 1
  · intro key hkey
    exact absurd hkey (habsent key)

section Step

variable {s : System N} {table' : CountingTable N} {before rest : List (Call N)}
  {request : Request} {phase phase' : Phase N}

omit [HasSlots N] in
/-- A step that neither claims nor adds. -/
theorem Counted.quiet (h : s.Counted) (hcalls : s.calls = before ++ ⟨request, phase⟩ :: rest)
    (hslots : table'.slots = s.table.slots)
    (hcall : ∀ key, (Call.mk request phase').obtained? key = (Call.mk request phase).obtained? key ∧
      (Call.mk request phase').hasClaimed key = (Call.mk request phase).hasClaimed key) :
    Counted (⟨table', before ++ ⟨request, phase'⟩ :: rest⟩ : System N) := by
  have hobtained : ∀ key,
      obtained key (before ++ ⟨request, phase'⟩ :: rest) = obtained key s.calls := by
    intro key
    simp only [obtained, hcalls, List.filterMap_append, List.filterMap_cons, (hcall key).1]
  have hclaimed : ∀ key, (before ++ ⟨request, phase'⟩ :: rest).countP (Call.hasClaimed key) =
      s.calls.countP (Call.hasClaimed key) := by
    intro key
    simp only [hcalls, List.countP_append, List.countP_cons, (hcall key).2]
  refine ⟨fun key => ?_, fun i key hi => ?_, fun key => ?_, fun key hkey hseed => ?_⟩
  · rw [hobtained]
    exact h.values key
  · rw [hobtained, hslots]
    exact h.count_eq i key (hslots ▸ hi)
  · rw [hclaimed]
    exact h.claimed_le key
  · rw [hclaimed]
    exact h.claimed key (hslots ▸ hkey) (by simpa [hcalls] using hseed)

/-- A step that puts a key into a slot: the key was absent, so nobody has counted it yet and nobody
else has claimed a slot for it. -/
theorem Counted.claim {left : Nat} {i : Fin N} (h : s.Counted) (hsound : s.Sound)
    (hcalls : s.calls = before ++ ⟨request, .claiming left i⟩ :: rest)
    (hempty : (s.table.slots.get i).key = none)
    (hslots : table'.slots =
      s.table.slots.set i ⟨some request.key, (s.table.slots.get i).count⟩ i.isLt) :
    Counted (⟨table', before ++ ⟨request, .announcing i⟩ :: rest⟩ : System N) := by
  have hat : AtSlot s.table.slots request.key left i :=
    hsound.fits ⟨request, .claiming left i⟩ (by simp [hcalls])
  have habsent := hat.not_holds hsound.placed hempty
  have hobtained : ∀ key, obtained key (before ++ ⟨request, .announcing i⟩ :: rest) =
      obtained key s.calls := by
    intro key
    simp only [obtained, hcalls, List.filterMap_append, List.filterMap_cons,
      Call.obtained?]
  have hclaimed : ∀ key, (before ++ ⟨request, .announcing i⟩ :: rest).countP (Call.hasClaimed key) =
      s.calls.countP (Call.hasClaimed key) + if request = .increment key then 1 else 0 := by
    intro key
    simp only [hcalls, List.countP_append, List.countP_cons, Call.hasClaimed, Bool.and_true,
      Bool.and_false, decide_eq_true_eq, Bool.false_eq_true, if_false]
    omega
  have hself := hsound.countP_hasClaimed habsent
  refine ⟨fun key => ?_, fun j key hj => ?_, fun key => ?_, fun key hkey hseed => ?_⟩
  · rw [hobtained]
    exact h.values key
  · rw [hobtained]
    simp only [hslots, get_set_slot] at hj ⊢
    by_cases hij : i = j
    · rw [if_pos hij] at hj ⊢
      -- the new key has the count of its empty slot, and nobody has got a value for it
      obtain rfl : request.key = key := Option.some.inj hj
      rw [hsound.obtained_eq_nil habsent]
      exact hsound.placed.zero i hempty
    · rw [if_neg hij] at hj ⊢
      exact h.count_eq j key hj
  · rw [hclaimed]
    by_cases hrequest : request = .increment key
    · subst hrequest
      rw [if_pos rfl]
      exact Nat.le_of_eq (congrArg (· + 1) hself)
    · rw [if_neg hrequest]
      exact h.claimed_le key
  · rw [hclaimed]
    by_cases hrequest : request = .increment key
    · subst hrequest
      rw [if_pos rfl]
      exact congrArg (· + 1) hself
    · rw [if_neg hrequest]
      -- a call that seeds the key is ruled out, so this call is about another key
      have hne : request.key ≠ key := by
        rintro rfl
        cases request with
        | seed key => exact hseed (by simp [Request.key])
        | increment key => exact hrequest rfl
      obtain ⟨j, hj⟩ := hkey
      simp only [hslots, get_set_slot] at hj
      have hij : i ≠ j := by
        rintro rfl
        rw [if_pos rfl] at hj
        exact hne (Option.some.inj hj)
      rw [if_neg hij] at hj
      exact h.claimed key ⟨j, hj⟩ (by simpa [hcalls] using hseed)

/-- A step that adds to a counter: the value obtained is the next one of that counter. -/
theorem Counted.add {i : Fin N} {claimed : Bool} (h : s.Counted) (hsound : s.Sound)
    (hcalls : s.calls = before ++ ⟨request, .adding i claimed⟩ :: rest)
    (hphase : phase' = .returned
      (.counted (if claimed then .inserted else .updated ((s.table.slots.get i).count + 1)))
      (some ((s.table.slots.get i).count + 1))) :
    Counted (⟨s.table.bump i, before ++ ⟨request, phase'⟩ :: rest⟩ : System N) := by
  obtain ⟨hrequest, hslot⟩ : request = .increment request.key ∧
      (s.table.slots.get i).key = some request.key :=
    hsound.fits ⟨request, .adding i claimed⟩ (by simp [hcalls])
  have hvalue : (s.table.slots.get i).count + 1 =
      UInt64.ofNat ((obtained request.key s.calls).length + 1) := by
    rw [h.count_eq i _ hslot, UInt64.ofNat_add]
    rfl
  have hself : (obtained request.key (before ++ ⟨request, phase'⟩ :: rest)).Perm
      (((s.table.slots.get i).count + 1) :: obtained request.key s.calls) := by
    simp only [obtained, hcalls, hphase, List.filterMap_append, List.filterMap_cons,
      Call.obtained?, if_pos hrequest]
    exact List.perm_middle
  have hother : ∀ key, request.key ≠ key →
      obtained key (before ++ ⟨request, phase'⟩ :: rest) = obtained key s.calls := by
    intro key hne
    simp only [obtained, hcalls, List.filterMap_append, List.filterMap_cons,
      Call.obtained?_of_ne ⟨request, _⟩ hne]
  have hclaimed : ∀ key, (before ++ ⟨request, phase'⟩ :: rest).countP (Call.hasClaimed key) =
      s.calls.countP (Call.hasClaimed key) := by
    intro key
    have hcall : (Call.mk request phase').hasClaimed key =
        (Call.mk request (.adding i claimed)).hasClaimed key := by
      cases claimed <;> simp [hphase, Call.hasClaimed]
    simp only [hcalls, List.countP_append, List.countP_cons, hcall]
  have hkeys : ∀ j : Fin N, ((s.table.bump i).slots.get j).key = (s.table.slots.get j).key :=
    fun j => key_set_count s.table.slots i j _
  refine ⟨fun key => ?_, fun j key hj => ?_, fun key => ?_, fun key hkey hseed => ?_⟩
  · by_cases hne : request.key = key
    · subst hne
      rw [hself.length_eq, List.length_cons, counterValues_succ, ← hvalue]
      refine hself.trans (((h.values request.key).cons _).trans ?_)
      exact (List.perm_append_singleton _ _).symm
    · rw [hother key hne]
      exact h.values key
  · rw [hkeys] at hj
    simp only [CountingTable.bump, get_set_slot]
    by_cases hij : i = j
    · subst hij
      obtain rfl : request.key = key := Option.some.inj (hslot.symm.trans hj)
      rw [if_pos rfl, hself.length_eq, List.length_cons, ← hvalue]
    · -- another slot has another key, whose calls have got nothing by this step
      have hne : request.key ≠ key := by
        rintro rfl
        exact hij (hsound.placed.unique i j _ hslot hj)
      rw [if_neg hij, hother key hne]
      exact h.count_eq j key hj
  · rw [hclaimed]
    exact h.claimed_le key
  · rw [hclaimed]
    obtain ⟨j, hj⟩ := hkey
    exact h.claimed key ⟨j, (hkeys j).symm.trans hj⟩ (by simpa [hcalls] using hseed)

end Step

theorem Counted.step {s : System N} (h : s.Counted) (hsound : s.Sound) (turn : Nat) :
    (s.step turn).Counted := by
  rcases s.step_cases turn with ⟨_, hstep⟩ | ⟨before, request, phase, rest, table', phase', _,
    hcalls, hmoves, hstep⟩
  · rwa [hstep]
  · rw [hstep]
    rcases hmoves.kinds with ⟨hslots, hcall⟩ | ⟨left, i, rfl, rfl, hempty, hslots⟩ |
      ⟨i, claimed, rfl, rfl, hphase⟩
    · exact h.quiet hcalls hslots hcall
    · exact h.claim hsound hcalls hempty hslots
    · exact h.add hsound hcalls hphase

theorem Counted.run {s : System N} (h : s.Counted) (hsound : s.Sound) (schedule : List Nat) :
    (s.run schedule).Counted := by
  induction schedule generalizing s with
  | nil => exact h
  | cons turn rest ih => exact ih (h.step hsound turn) (hsound.step turn)

theorem policy_run (s : System N) (schedule : List Nat) :
    (s.run schedule).table.policy = s.table.policy := by
  induction schedule generalizing s with
  | nil => rfl
  | cons turn rest ih =>
    refine (ih (s.step turn)).trans ?_
    rcases s.step_cases turn with ⟨_, hstep⟩ | ⟨_, _, _, _, _, _, _, _, hmoves, hstep⟩
    · rw [hstep]
    · rw [hstep]
      exact hmoves.policy_eq

/-! ### What the answers say -/

theorem Sound.countP_hasCounted {s : System N} (h : s.Sound) (key : UInt32) :
    s.calls.countP (Call.hasCounted key) = (obtained key s.calls).length := by
  rw [obtained, List.length_filterMap_eq_countP]
  refine List.countP_congr fun call hcall => ?_
  rw [(h.fits call hcall).hasCounted_eq key]

theorem Sound.length_obtained_le {s : System N} (h : s.Sound) (key : UInt32) :
    (obtained key s.calls).length ≤ (s.calls.map Call.request).count (.increment key) := by
  rw [← h.countP_hasCounted, List.count, List.countP_map]
  refine List.countP_mono_left fun call _ hcounted => ?_
  rw [Call.hasCounted, Bool.and_eq_true, decide_eq_true_eq] at hcounted
  rw [Function.comp_apply, beq_iff_eq]
  exact hcounted.1

omit [HasSlots N] in
theorem countP_hasInserted_of_isDone {s : System N} (h : s.isDone) (key : UInt32) :
    s.calls.countP (Call.hasInserted key) = s.calls.countP (Call.hasClaimed key) := by
  refine List.countP_congr fun call hcall => ⟨Call.hasClaimed_of_hasInserted, fun hclaimed => ?_⟩
  exact Call.hasInserted_of_hasClaimed hclaimed (List.all_eq_true.1 h call hcall)

/-- An increment that answered with the value of a counter obtained that value. -/
theorem Sound.obtained?_of_updated {s : System N} (h : s.Sound) {call : Call N} {key : UInt32}
    {value : UInt64} (hcall : call ∈ s.calls) (hrequest : call.request = .increment key)
    (hanswer : call.answer? = some (.counted (.updated value))) :
    call.obtained? key = some value := by
  have hfits := h.fits call hcall
  obtain ⟨request, phase⟩ := call
  subst hrequest
  cases phase with
  | returned answer obtained =>
    obtain rfl : answer = .counted (.updated value) := Option.some.inj hanswer
    obtain ⟨rfl, _⟩ := hfits
    simp [Call.obtained?]
  | _ => exact absurd hanswer (Option.some_ne_none _).symm

omit [HasSlots N] in
/-- No two calls on a key obtain the same value, as long as its counter has not gone round. -/
theorem Counted.nodup_obtained {s : System N} (h : s.Counted) {key : UInt32}
    (hfew : (obtained key s.calls).length < 2 ^ 64) : (obtained key s.calls).Nodup :=
  (h.values key).nodup_iff.2 (nodup_counterValues hfew)

omit [HasSlots N] in
theorem ne_of_nodup_obtained {s : System N} {key : UInt32} (h : (obtained key s.calls).Nodup)
    {n m : Nat} {a b : Call N} {v w : UInt64} (hnm : n ≠ m) (ha : s.calls[n]? = some a)
    (hb : s.calls[m]? = some b) (hv : a.obtained? key = some v) (hw : b.obtained? key = some w) :
    v ≠ w := by
  rw [obtained, List.Nodup, List.pairwise_filterMap, List.pairwise_iff_getElem] at h
  obtain ⟨hn, rfl⟩ := List.getElem?_eq_some_iff.1 ha
  obtain ⟨hm, rfl⟩ := List.getElem?_eq_some_iff.1 hb
  rcases Nat.lt_or_gt_of_ne hnm with hlt | hgt
  · exact h n m hn hm hlt v hv w hw
  · exact (h m n hm hn hgt w hw v hv).symm

/-- Whatever the order of the steps: the counter of a key is the number of calls that counted it,
and an absent key was counted by none; at most one call inserted a key, and one did if in the end
the key is there and nobody seeded it; the values that calls on a key obtained from its counter, and
so those they answered with, are all different; and with insertion a call did not find its key only
if all slots were taken by other keys from the moment it answered. -/
theorem run_counts (N : Nat) [HasSlots N] (policy : InsertPolicy) (requests : List Request)
    (schedule : List Nat) :
    let s := (System.start N policy requests).run schedule
    (∀ key : UInt32,
      (∀ i : Fin N, (s.table.slots.get i).key = some key →
        (s.table.slots.get i).count = UInt64.ofNat (s.calls.countP (Call.hasCounted key))) ∧
      (¬ Holds s.table.slots key → s.calls.countP (Call.hasCounted key) = 0) ∧
      s.calls.countP (Call.hasInserted key) ≤ 1 ∧
      (s.isDone → Holds s.table.slots key → .seed key ∉ requests →
        s.calls.countP (Call.hasInserted key) = 1) ∧
      (requests.count (.increment key) < 2 ^ 64 →
        (s.calls.filterMap (Call.obtained? key)).Nodup ∧
        ∀ (n m : Nat) (a b : Call N) (v w : UInt64), n ≠ m →
          s.calls[n]? = some a → s.calls[m]? = some b →
          a.request = .increment key → b.request = .increment key →
          a.answer? = some (.counted (.updated v)) → b.answer? = some (.counted (.updated w)) →
          v ≠ w)) ∧
    (policy = .lookupOrInsert → ∀ before after : List Nat, schedule = before ++ after →
      let now := (System.start N policy requests).run before
      ∀ call ∈ now.calls, call.answer? = some (.counted .notFound) →
        FullOfOthers now.table.slots call.request.key) := by
  intro s
  have hsound : s.Sound := (sound_start policy requests).run schedule
  have hcounted : s.Counted := (counted_start policy requests).run (sound_start policy requests) _
  have hrequests : s.calls.map Call.request = requests :=
    (map_request_run _ schedule).trans (map_request_start policy requests)
  refine ⟨fun key => ⟨?_, ?_, ?_, ?_, ?_⟩, ?_⟩
  · intro i hi
    rw [hsound.countP_hasCounted]
    exact hcounted.count_eq i key hi
  · intro habsent
    rw [hsound.countP_hasCounted, hsound.obtained_eq_nil habsent]
    rfl
  · refine Nat.le_trans (List.countP_mono_left fun _ _ => ?_) (hcounted.claimed_le key)
    exact Call.hasClaimed_of_hasInserted
  · intro hdone hkey hseed
    rw [countP_hasInserted_of_isDone hdone]
    exact hcounted.claimed key hkey (hrequests ▸ hseed)
  · intro hfew
    have hlength := hsound.length_obtained_le key
    rw [hrequests] at hlength
    have hnodup := hcounted.nodup_obtained (Nat.lt_of_le_of_lt hlength hfew)
    refine ⟨hnodup, fun n m a b v w hnm ha hb hra hrb hva hwb => ?_⟩
    exact ne_of_nodup_obtained hnodup hnm ha hb
      (hsound.obtained?_of_updated (List.mem_of_getElem? ha) hra hva)
      (hsound.obtained?_of_updated (List.mem_of_getElem? hb) hrb hwb)
  · intro hpolicy before after _ now call hcall hanswer
    have hfits := ((sound_start policy requests).run before).fits call hcall
    have htable : ((start N policy requests).run before).table.policy = .lookupOrInsert :=
      (policy_run _ before).trans hpolicy
    obtain ⟨request, phase⟩ := call
    cases phase with
    | returned answer obtained =>
      obtain rfl : answer = .counted .notFound := Option.some.inj hanswer
      exact hfits.2 htable
    | _ => exact absurd hanswer (Option.some_ne_none _).symm

/-- Two calls race for key 5: the second adds to the counter before the one that claimed the slot
does. Key 6 takes the other slot, so key 8 is not found. -/
theorem run_counts_overtaken :
    let s := (System.start 2 .lookupOrInsert
      [.increment 5, .increment 5, .increment 6, .seed 7, .increment 8]).run
      [0, 1, 0, 1, 1, 0, 0, 2, 2, 3, 2, 2, 3, 4, 4, 4, 4]
    2 ≠ 0 ∧ s.isDone ∧ (s.table.slots.get (home 2 5)).key = some 5 ∧
      (s.table.slots.get (home 2 5)).count = UInt64.ofNat (s.calls.countP (Call.hasCounted 5)) ∧
      s.calls.countP (Call.hasInserted 5) = 1 ∧
      (s.calls.filterMap (Call.obtained? 5) = [2, 1] ∧
        (s.calls.filterMap (Call.obtained? 5)).Nodup) ∧
      FullOfOthers s.table.slots 8 := by
  intro s
  have h := run_counts 2 .lookupOrInsert
    [.increment 5, .increment 5, .increment 6, .seed 7, .increment 8]
    [0, 1, 0, 1, 1, 0, 0, 2, 2, 3, 2, 2, 3, 4, 4, 4, 4]
  have hslot : (s.table.slots.get (home 2 5)).key = some 5 := by decide +kernel
  have hdone : s.isDone := by decide +kernel
  have hvalues : s.calls.filterMap (Call.obtained? 5) = [2, 1] := by decide +kernel
  have hmissed : ⟨.increment 8, .returned (.counted .notFound) none⟩ ∈ s.calls := by
    decide +kernel
  have hfull := h.2 rfl _ [] (List.append_nil _).symm _ hmissed rfl
  exact ⟨by decide, hdone, hslot, (h.1 5).1 _ hslot,
    (h.1 5).2.2.2.1 hdone ⟨_, hslot⟩ (by decide),
    ⟨hvalues, ((h.1 5).2.2.2.2 (by decide)).1⟩, hfull⟩

end System

end SourceTally.Atomic
