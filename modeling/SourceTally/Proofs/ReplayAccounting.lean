import SourceTally.Proofs.PlaneHistory
import SourceTally.Proofs.ReplayCrew

/-!
# Replay accounting

A tally counts invocations by outcome and by verdict, and a table counts sources. A replay through
the source counter raises both, and they agree on how much: each invocation falls into one bucket,
the bucket of inserted sources is what the snapshot has grown by, and with the bucket of counted
sources it is what the total has grown by.

## Main definitions

* `Bucket`, `Outcome.bucket`: the kinds of outcomes that a tally tells apart
* `Tally.recordAll`: record invocations in order
* `Plane.Accounts`: what observations say about the plane after them
* `Replay.Accounts`: what a replay adds to the tally and to the plane

## Main statements

* `Plane.observeAll_accounts`: observing frames changes the plane as the observations say
* `Replay.Ends.accounts`: a replay adds the same numbers to the tally and to the plane
* `Replay.ends_balanced`: the balance of a replay, and of a tally
-/

namespace SourceTally

theorem toNat_add_ofNat {count : UInt64} {n : Nat} (h : count.toNat + n < 2 ^ 64) :
    (count + .ofNat n).toNat = count.toNat + n := by
  rw [UInt64.toNat_add, UInt64.toNat_ofNat_of_lt' (by simp only [UInt64.size]; omega),
    Nat.mod_eq_of_lt h]

/-- The kinds of outcomes that a tally tells apart. -/
inductive Bucket where
  | short
  | parsed
  | counted
  | inserted
  | missed
  deriving DecidableEq

def Outcome.bucket : Outcome → Bucket
  | .insufficientData => .short
  | .parsed => .parsed
  | .counted (.updated _) => .counted
  | .counted .inserted => .inserted
  | .counted .notFound => .missed

namespace Bucket

/-- How many outcomes are of one kind. -/
def count (b : Bucket) (outcomes : List Outcome) : Nat :=
  outcomes.countP fun outcome => outcome.bucket = b

theorem count_cons (b : Bucket) (outcome : Outcome) (rest : List Outcome) :
    b.count (outcome :: rest) = b.count rest + if outcome.bucket = b then 1 else 0 := by
  simp [count, List.countP_cons]

theorem count_append (b : Bucket) (outcomes rest : List Outcome) :
    b.count (outcomes ++ rest) = b.count outcomes + b.count rest :=
  List.countP_append

theorem count_le_length (b : Bucket) (outcomes : List Outcome) :
    b.count outcomes ≤ outcomes.length :=
  List.countP_le_length

/-- Each outcome falls into one bucket. -/
theorem length_eq_count (outcomes : List Outcome) :
    outcomes.length = short.count outcomes + parsed.count outcomes + counted.count outcomes +
      inserted.count outcomes + missed.count outcomes := by
  induction outcomes with
  | nil => rfl
  | cons outcome rest ih =>
    simp only [List.length_cons, count_cons, ih]
    cases outcome.bucket <;> simp <;> omega

end Bucket

/-! ### Recording -/

namespace Tally

/-- The count of one kind of outcomes. -/
def inBucket (tally : Tally) : Bucket → UInt64
  | .short => tally.shortFrames
  | .parsed => tally.parsed
  | .counted => tally.counted
  | .inserted => tally.inserted
  | .missed => tally.missed

theorem inBucket_record (tally : Tally) (verdict : String) (outcome : Outcome) (b : Bucket) :
    (tally.record verdict outcome).inBucket b =
      tally.inBucket b + if outcome.bucket = b then 1 else 0 := by
  rcases outcome with _ | _ | (_ | _ | _) <;> cases b <;>
    simp [record, addVerdict, addOutcome, inBucket, Outcome.bucket]

theorem invocations_record (tally : Tally) (verdict : String) (outcome : Outcome) :
    (tally.record verdict outcome).invocations = tally.invocations + 1 := by
  rcases outcome with _ | _ | (_ | _ | _) <;> rfl

theorem verdicts_record (tally : Tally) (verdict : String) (outcome : Outcome) :
    (tally.record verdict outcome).verdicts =
      tally.verdicts.put verdict ((tally.verdicts.get? verdict).getD 0 + 1) := by
  rcases outcome with _ | _ | (_ | _ | _) <;> rfl

/-- Record invocations, given by verdict and outcome, in order. -/
def recordAll (tally : Tally) (records : List (String × Outcome)) : Tally :=
  records.foldl (fun tally record => tally.record record.1 record.2) tally

theorem recordAll_append (tally : Tally) (records rest : List (String × Outcome)) :
    tally.recordAll (records ++ rest) = (tally.recordAll records).recordAll rest :=
  List.foldl_append

theorem observeAll_eq (tally : Tally) (observations : List Observation) :
    tally.observeAll observations =
      tally.recordAll (observations.map fun o => (o.verdict.name, o.outcome)) := by
  rw [recordAll, List.foldl_map]
  rfl

theorem inBucket_recordAll (tally : Tally) (records : List (String × Outcome)) (b : Bucket) :
    (tally.recordAll records).inBucket b =
      tally.inBucket b + .ofNat (b.count (records.map Prod.snd)) := by
  induction records generalizing tally with
  | nil => exact (UInt64.add_zero _).symm
  | cons record rest ih =>
    refine (ih (tally.record record.1 record.2)).trans ?_
    rw [inBucket_record, List.map_cons, Bucket.count_cons, Nat.add_comm, UInt64.ofNat_add,
      UInt64.add_assoc]
    split
    · rfl
    · rfl

theorem invocations_recordAll (tally : Tally) (records : List (String × Outcome)) :
    (tally.recordAll records).invocations = tally.invocations + .ofNat records.length := by
  induction records generalizing tally with
  | nil => exact (UInt64.add_zero _).symm
  | cons record rest ih =>
    refine (ih (tally.record record.1 record.2)).trans ?_
    rw [invocations_record, List.length_cons, Nat.add_comm, UInt64.ofNat_add, UInt64.add_assoc]
    rfl

/-- Records that all have one verdict touch its entry alone. -/
theorem verdicts_recordAll {verdict : String} {records : List (String × Outcome)}
    (h : ∀ record ∈ records, record.1 = verdict) (tally : Tally) :
    (tally.recordAll records).verdicts =
      if records = [] then tally.verdicts
      else tally.verdicts.put verdict
        ((tally.verdicts.get? verdict).getD 0 + .ofNat records.length) := by
  induction records generalizing tally with
  | nil => rfl
  | cons record rest ih =>
    obtain ⟨hrecord, hrest⟩ := List.forall_mem_cons.1 h
    refine (ih hrest (tally.record record.1 record.2)).trans ?_
    rw [verdicts_record, hrecord, if_neg (List.cons_ne_nil _ _)]
    split
    · next hnil =>
      rw [hnil]
      rfl
    · rw [Ledger.get?_put_self, Ledger.put_put, Option.getD_some, List.length_cons, Nat.add_comm,
        UInt64.ofNat_add, UInt64.add_assoc]
      rfl

/-- The entries of the verdicts sum up to the number of records, as far as words can tell. -/
theorem total_verdicts_recordAll (records : List (String × Outcome)) :
    let verdicts := (({} : Tally).recordAll records).verdicts
    verdicts.total ≤ records.length ∧
      UInt64.ofNat verdicts.total = .ofNat records.length := by
  induction records using List.reverseRecOn with
  | nil => exact ⟨Nat.le_refl 0, rfl⟩
  | append_singleton records record ih =>
    obtain ⟨hle, hwords⟩ := ih
    obtain ⟨hstep, hstepWords⟩ :=
      (({} : Tally).recordAll records).verdicts.total_put_add_one record.1
    have hrecord : (({} : Tally).recordAll (records ++ [record])).verdicts = _ :=
      (congrArg verdicts (recordAll_append _ _ _)).trans
        (verdicts_record _ record.1 record.2)
    rw [List.length_append, List.length_singleton, hrecord]
    refine ⟨Nat.le_trans hstep (Nat.add_le_add_right hle 1), ?_⟩
    rw [hstepWords, hwords, UInt64.ofNat_add]
    rfl

theorem inBucket_recordAll_empty (records : List (String × Outcome)) (b : Bucket) :
    (({} : Tally).recordAll records).inBucket b = .ofNat (b.count (records.map Prod.snd)) := by
  rw [inBucket_recordAll]
  cases b <;> exact UInt64.zero_add _

theorem invocations_recordAll_empty (records : List (String × Outcome)) :
    (({} : Tally).recordAll records).invocations = .ofNat records.length :=
  (invocations_recordAll _ _).trans (UInt64.zero_add _)

/-- No count of a tally exceeds the number of records. -/
theorem toNat_recordAll_le (records : List (String × Outcome)) :
    let tally := ({} : Tally).recordAll records
    tally.invocations.toNat ≤ records.length ∧
      (∀ b, (tally.inBucket b).toNat ≤ records.length) ∧
      ∀ verdict, ((tally.verdicts.get? verdict).getD 0).toNat ≤ records.length := by
  have hofNat : ∀ n, (UInt64.ofNat n).toNat ≤ n := fun n => by
    rw [UInt64.toNat_ofNat']
    exact Nat.mod_le _ _
  refine ⟨?_, fun b => ?_, fun verdict => ?_⟩
  · rw [invocations_recordAll_empty]
    exact hofNat _
  · rw [inBucket_recordAll_empty]
    refine Nat.le_trans (hofNat _) ?_
    rw [← List.length_map (f := Prod.snd)]
    exact b.count_le_length _
  · exact Nat.le_trans (Ledger.get?_le_total _ _) (total_verdicts_recordAll records).1

/-- The buckets of a tally sum up to its invocations, and so do its verdicts. With fewer than
`2 ^ 64` records no sum wraps around. -/
theorem recordAll_balanced (records : List (String × Outcome)) :
    let tally := ({} : Tally).recordAll records
    tally.invocations = tally.shortFrames + tally.parsed + tally.counted + tally.inserted +
        tally.missed ∧
      tally.invocations = .ofNat tally.verdicts.total ∧
      (records.length < 2 ^ 64 →
        tally.invocations.toNat = tally.shortFrames.toNat + tally.parsed.toNat +
          tally.counted.toNat + tally.inserted.toNat + tally.missed.toNat ∧
        tally.invocations.toNat = tally.verdicts.total) := by
  intro tally
  have hshort : tally.shortFrames = _ := inBucket_recordAll_empty records .short
  have hparsed : tally.parsed = _ := inBucket_recordAll_empty records .parsed
  have hcounted : tally.counted = _ := inBucket_recordAll_empty records .counted
  have hinserted : tally.inserted = _ := inBucket_recordAll_empty records .inserted
  have hmissed : tally.missed = _ := inBucket_recordAll_empty records .missed
  have hinvocations : tally.invocations = _ := invocations_recordAll_empty records
  obtain ⟨hle, hwords⟩ := total_verdicts_recordAll records
  have hsum := Bucket.length_eq_count (records.map Prod.snd)
  rw [List.length_map] at hsum
  rw [hshort, hparsed, hcounted, hinserted, hmissed, hinvocations]
  refine ⟨by simp only [hsum, UInt64.ofNat_add], hwords.symm, fun hfew => ?_⟩
  have hexact : ∀ n ≤ records.length, (UInt64.ofNat n).toNat = n := fun n hn =>
    UInt64.toNat_ofNat_of_lt' (Nat.lt_of_le_of_lt hn hfew)
  rw [hexact _ (by omega), hexact _ (by omega), hexact _ (by omega), hexact _ (by omega),
    hexact _ (by omega), hexact _ (by omega)]
  refine ⟨hsum, ?_⟩
  rw [← hexact _ (Nat.le_refl records.length), ← hwords, hexact _ hle]

end Tally

/-! ### Observing -/

namespace Plane

/-- What the observations of frames say about the plane after them. -/
structure Accounts (plane plane' : Plane) (frames : List Frame)
    (observations : List Observation) : Prop where
  sound : plane'.table.Sound
  policy : plane'.table.policy = plane.table.policy
  size_eq : plane'.snapshot.size =
    plane.snapshot.size + Bucket.inserted.count (observations.map Observation.outcome)
  total_eq : plane'.snapshot.total = plane.snapshot.total +
    .ofNat (Bucket.counted.count (observations.map Observation.outcome) +
      Bucket.inserted.count (observations.map Observation.outcome))
  short_eq : Bucket.short.count (observations.map Observation.outcome) =
    frames.countP fun frame => frame.length < 30
  parsed_eq : Bucket.parsed.count (observations.map Observation.outcome) = 0
  inserted_eq : plane.table.policy = .lookupOnly →
    Bucket.inserted.count (observations.map Observation.outcome) = 0
  verdict_eq : ∀ o ∈ observations, o.verdict.name = "XDP_PASS"

theorem Accounts.nil {plane : Plane} (h : plane.table.Sound) : Accounts plane plane [] [] where
  sound := h
  policy := rfl
  size_eq := rfl
  total_eq := (UInt64.add_zero _).symm
  short_eq := rfl
  parsed_eq := rfl
  inserted_eq _ := rfl
  verdict_eq := by simp

theorem Accounts.append {plane middle plane' : Plane} {frames rest : List Frame}
    {observations later : List Observation} (h : Accounts plane middle frames observations)
    (h' : Accounts middle plane' rest later) :
    Accounts plane plane' (frames ++ rest) (observations ++ later) where
  sound := h'.sound
  policy := h'.policy.trans h.policy
  size_eq := by
    rw [h'.size_eq, h.size_eq, List.map_append, Bucket.count_append, Nat.add_assoc]
  total_eq := by
    rw [h'.total_eq, h.total_eq, List.map_append, Bucket.count_append, Bucket.count_append,
      UInt64.add_assoc, ← UInt64.ofNat_add, Nat.add_add_add_comm]
  short_eq := by
    rw [List.map_append, Bucket.count_append, List.countP_append, h.short_eq, h'.short_eq]
  parsed_eq := by rw [List.map_append, Bucket.count_append, h.parsed_eq, h'.parsed_eq]
  inserted_eq hpolicy := by
    rw [List.map_append, Bucket.count_append, h.inserted_eq hpolicy,
      h'.inserted_eq (h.policy.trans hpolicy)]
  verdict_eq := List.forall_mem_append.2 ⟨h.verdict_eq, h'.verdict_eq⟩

/-- A frame that is long enough is accounted for by the answer of the table. -/
theorem Accounts.of_table {plane : Plane} (h : plane.table.Sound) {frame : Frame}
    (hlong : ¬ frame.length < 30) {table : CountingTable counterCapacity} {answer : Increment}
    (htable : plane.table.Accounts table answer) :
    Accounts plane { plane with table } [frame] [⟨.xdp .pass, .counted answer⟩] where
  sound := htable.sound
  policy := htable.policy
  size_eq := by
    rw [size_snapshot htable.sound, size_snapshot h, htable.size_eq]
    cases answer <;> rfl
  total_eq := by
    rw [total_snapshot, total_snapshot, htable.total_eq]
    cases answer <;> rfl
  short_eq := by cases answer <;> simp [Bucket.count, Outcome.bucket, hlong]
  parsed_eq := by cases answer <;> rfl
  inserted_eq hpolicy := by
    cases answer with
    | inserted =>
      have hinsert := htable.policy_of_inserted rfl
      rw [hpolicy] at hinsert
      cases hinsert
    | updated count => rfl
    | notFound => rfl
  verdict_eq := by simp [AnyVerdict.name, Verdict.name]

theorem observe_accounts {plane : Plane} (h : plane.table.Sound) (frame : Frame) :
    Accounts plane (plane.observe .source frame).2 [frame]
      [(plane.observe .source frame).1] := by
  cases hsource : frame.source? with
  | none =>
    have hshort := Frame.source?_eq_none_iff.1 hsource
    rw [plane.observe_source_of_none hsource]
    exact ⟨h, rfl, rfl, (UInt64.add_zero _).symm, by simp [Bucket.count, Outcome.bucket, hshort],
      rfl, fun _ => rfl, by simp [AnyVerdict.name, Verdict.name]⟩
  | some addr =>
    have hlong : ¬ frame.length < 30 := by
      rw [← Frame.source?_eq_none_iff, hsource]
      exact Option.some_ne_none addr
    rw [plane.observe_source_of_some hsource]
    exact .of_table h hlong (h.increment_accounts addr.key)

/-- Observing frames changes the plane as the observations say. -/
theorem observeAll_accounts {plane : Plane} (h : plane.table.Sound) (frames : List Frame) :
    Accounts plane (plane.observeAll .source frames) frames
      (plane.observations .source frames) := by
  induction frames generalizing plane with
  | nil => exact .nil h
  | cons frame rest ih =>
    have hone := observe_accounts h frame
    exact hone.append (ih hone.sound)

end Plane

namespace Replay

/-- What a replay through the source counter adds to the tally and to the plane, given how many
sources were counted again, inserted and missed. -/
structure Accounts (frames : List Frame) (tally : Tally) (plane : Plane) (tally' : Tally)
    (plane' : Plane) (counted inserted missed : Nat) : Prop where
  length_eq : frames.length =
    (frames.countP fun frame => frame.length < 30) + counted + inserted + missed
  invocations_eq : tally'.invocations = tally.invocations + .ofNat frames.length
  short_eq : tally'.shortFrames =
    tally.shortFrames + .ofNat (frames.countP fun frame => frame.length < 30)
  parsed_eq : tally'.parsed = tally.parsed
  counted_eq : tally'.counted = tally.counted + .ofNat counted
  inserted_eq : tally'.inserted = tally.inserted + .ofNat inserted
  missed_eq : tally'.missed = tally.missed + .ofNat missed
  verdicts_eq : tally'.verdicts =
    if frames = [] then tally.verdicts
    else tally.verdicts.put "XDP_PASS"
      ((tally.verdicts.get? "XDP_PASS").getD 0 + .ofNat frames.length)
  size_eq : plane'.snapshot.size = plane.snapshot.size + inserted
  total_eq : plane'.snapshot.total = plane.snapshot.total + .ofNat (counted + inserted)
  inserted_eq_zero : plane.table.policy = .lookupOnly → inserted = 0

variable {tally tally' : Tally} {plane plane' : Plane} {frames : List Frame}

/-- A replay adds the same numbers to the tally and to the plane. -/
theorem Ends.accounts (h : Ends .source frames tally plane tally' plane')
    (hsound : plane.table.Sound) :
    ∃ counted inserted missed,
      Accounts frames tally plane tally' plane' counted inserted missed := by
  obtain ⟨order, recorded, horder, hrecorded, rfl, rfl⟩ := h.exists_order
  have haccounts := Plane.observeAll_accounts hsound order
  -- what was recorded is what was observed, up to order
  have hcount : ∀ b : Bucket, b.count (recorded.map Observation.outcome) =
      b.count ((plane.observations .source order).map Observation.outcome) :=
    fun b => (hrecorded.map _).countP_eq _
  have hlength : recorded.length = frames.length := by
    rw [hrecorded.length_eq, Plane.length_observations, horder.length_eq]
  have hbuckets : ∀ b, (tally.observeAll recorded).inBucket b =
      tally.inBucket b + .ofNat (b.count (recorded.map Observation.outcome)) := fun b => by
    rw [Tally.observeAll_eq, Tally.inBucket_recordAll, List.map_map]
    rfl
  have hshort := haccounts.short_eq
  rw [horder.countP_eq, ← hcount] at hshort
  have hparsed := haccounts.parsed_eq
  rw [← hcount] at hparsed
  refine ⟨Bucket.counted.count (recorded.map Observation.outcome),
    Bucket.inserted.count (recorded.map Observation.outcome),
    Bucket.missed.count (recorded.map Observation.outcome), ?_, ?_, ?_, ?_, hbuckets .counted,
    hbuckets .inserted, hbuckets .missed, ?_, ?_, ?_, ?_⟩
  · have hsum := Bucket.length_eq_count (recorded.map Observation.outcome)
    rw [List.length_map] at hsum
    omega
  · rw [Tally.observeAll_eq, Tally.invocations_recordAll, List.length_map, hlength]
  · rw [← hshort]
    exact hbuckets .short
  · have hbucket := hbuckets .parsed
    rw [hparsed] at hbucket
    exact hbucket.trans (UInt64.add_zero _)
  · have hpass : ∀ record ∈ recorded.map fun o => (o.verdict.name, o.outcome),
        record.1 = "XDP_PASS" :=
      List.forall_mem_map.2 fun o ho => haccounts.verdict_eq o (hrecorded.mem_iff.1 ho)
    rw [Tally.observeAll_eq, Tally.verdicts_recordAll hpass, List.length_map, hlength]
    simp only [← List.length_eq_zero_iff, List.length_map, hlength]
  · rw [haccounts.size_eq, hcount]
  · rw [haccounts.total_eq, hcount, hcount]
  · rw [hcount]
    exact haccounts.inserted_eq

/-- A replay makes as many records as there are frames. -/
theorem Ends.exists_records {handler : HandlerKind}
    (h : Ends handler frames tally plane tally' plane') :
    ∃ records, records.length = frames.length ∧ tally' = tally.recordAll records := by
  obtain ⟨order, recorded, horder, hrecorded, rfl, rfl⟩ := h.exists_order
  refine ⟨_, ?_, Tally.observeAll_eq tally recorded⟩
  rw [List.length_map, hrecorded.length_eq, Plane.length_observations, horder.length_eq]

theorem Ends.reached {handler : HandlerKind} {n : Nat}
    (h : Ends handler frames tally plane tally' plane') (hplane : Plane.Reached n plane) :
    Plane.Reached (n + frames.length) plane' := by
  obtain ⟨order, recorded, horder, hrecorded, rfl, rfl⟩ := h.exists_order
  rw [← horder.length_eq]
  exact hplane.observeAll handler order

/-- A replay through the source counter, on any number of workers and in any order, raises the tally
and the table by the same numbers, as long as there are fewer than `2 ^ 64` invocations in all. And
whatever is recorded in a tally, its buckets and its verdicts sum up to its invocations. -/
theorem ends_balanced :
    (∀ (n : Nat) (plane : Plane) (records : List (String × Outcome)) (frames : List Frame),
      Plane.Reached n plane → n + frames.length < 2 ^ 64 →
      records.length + frames.length < 2 ^ 64 →
      let tally := ({} : Tally).recordAll records
      (License.isCompatible plane.license → ∀ workers, ∃ tally' plane',
        (runHandler plane .source workers frames tally).result = .ok (tally', plane') ∧
        Ends .source frames tally plane tally' plane') ∧
      ∀ tally' plane', Ends .source frames tally plane tally' plane' →
        Plane.Reached (n + frames.length) plane' ∧
        (∃ later, later.length = frames.length ∧
          tally' = ({} : Tally).recordAll (records ++ later)) ∧
        tally'.invocations.toNat = tally.invocations.toNat + frames.length ∧
        tally'.shortFrames.toNat =
          tally.shortFrames.toNat + (frames.countP fun frame => frame.length < 30) ∧
        tally'.parsed = tally.parsed ∧
        (∃ counted inserted,
          tally'.counted.toNat = tally.counted.toNat + counted ∧
          tally'.inserted.toNat = tally.inserted.toNat + inserted ∧
          plane'.snapshot.size = plane.snapshot.size + inserted ∧
          plane'.snapshot.total.toNat = plane.snapshot.total.toNat + (counted + inserted) ∧
          (plane.table.policy = .lookupOnly → inserted = 0)) ∧
        ((tally'.verdicts.get? "XDP_PASS").getD 0).toNat =
          ((tally.verdicts.get? "XDP_PASS").getD 0).toNat + frames.length ∧
        ∀ verdict, verdict ≠ "XDP_PASS" →
          tally'.verdicts.get? verdict = tally.verdicts.get? verdict) ∧
    ∀ records : List (String × Outcome),
      let tally := ({} : Tally).recordAll records
      tally.invocations = tally.shortFrames + tally.parsed + tally.counted + tally.inserted +
        tally.missed ∧
      tally.invocations = .ofNat tally.verdicts.total ∧
      (records.length < 2 ^ 64 →
        tally.invocations.toNat = tally.shortFrames.toNat + tally.parsed.toNat +
          tally.counted.toNat + tally.inserted.toNat + tally.missed.toNat ∧
        tally.invocations.toNat = tally.verdicts.total) := by
  refine ⟨?_, Tally.recordAll_balanced⟩
  intro n plane records frames hplane hinvocations hrecords tally
  refine ⟨fun hlicense workers => runHandler_ends hlicense .source workers frames tally, ?_⟩
  intro tally' plane' hends
  obtain ⟨counted, inserted, missed, haccounts⟩ := hends.accounts hplane.within.sound
  obtain ⟨later, hlater, htally'⟩ := hends.exists_records
  -- no count that the replay adds to exceeds the number of records, and so none wraps around
  obtain ⟨hinvocationsLe, hbucketLe, hverdictLe⟩ : tally.invocations.toNat ≤ records.length ∧
      (∀ b, (tally.inBucket b).toNat ≤ records.length) ∧
      ∀ verdict, ((tally.verdicts.get? verdict).getD 0).toNat ≤ records.length :=
    Tally.toNat_recordAll_le records
  have hlength := haccounts.length_eq
  have htotal := hplane.within.total_le
  rw [← plane.total_snapshot] at htotal
  have hbucket : ∀ b, ∀ more ≤ frames.length,
      (tally.inBucket b + .ofNat more).toNat = (tally.inBucket b).toNat + more := by
    intro b more hmore
    have hle := hbucketLe b
    exact toNat_add_ofNat (by omega)
  refine ⟨hends.reached hplane, ⟨later, hlater, ?_⟩, ?_, ?_, haccounts.parsed_eq,
    ⟨counted, inserted, ?_, ?_, haccounts.size_eq, ?_, haccounts.inserted_eq_zero⟩, ?_, ?_⟩
  · rw [htally', Tally.recordAll_append]
  · rw [haccounts.invocations_eq]
    exact toNat_add_ofNat (by omega)
  · rw [haccounts.short_eq]
    exact hbucket .short _ (by omega)
  · rw [haccounts.counted_eq]
    exact hbucket .counted _ (by omega)
  · rw [haccounts.inserted_eq]
    exact hbucket .inserted _ (by omega)
  · rw [haccounts.total_eq]
    exact toNat_add_ofNat (by omega)
  · rw [haccounts.verdicts_eq]
    have hpassLe := hverdictLe "XDP_PASS"
    split
    · next hnil => rw [hnil]; rfl
    · rw [Ledger.get?_put_self]
      exact toNat_add_ofNat (by omega)
  · intro verdict hverdict
    rw [haccounts.verdicts_eq]
    split
    · rfl
    · exact Ledger.get?_put_of_ne _ _ hverdict.symm

/-- Three workers replay a frame of a known host, one that is cut off and two of a new source, into
a tally that is not empty. -/
theorem ends_balanced_shared :
    let config : Config := { policy := .lookupOrInsert, hosts := [⟨10, 0, 0, 1⟩] }
    let known : Frame := List.replicate 26 0 ++ [10, 0, 0, 1]
    let other : Frame := List.replicate 26 0 ++ [10, 0, 0, 2]
    let tally := ({} : Tally).recordAll [("TC_ACT_OK", .parsed)]
    ∃ plane tally' plane', (Plane.ofConfig config).result = .ok plane ∧
      (runHandler plane .source 3 [known, known.take 29, other, other] tally).result =
        .ok (tally', plane') ∧
      tally'.invocations.toNat = 5 ∧ tally'.shortFrames.toNat = 1 ∧ tally'.parsed = 1 ∧
      plane'.snapshot.size = 1 + tally'.inserted.toNat ∧
      plane'.snapshot.total.toNat = tally'.counted.toNat + tally'.inserted.toNat ∧
      ((tally'.verdicts.get? "XDP_PASS").getD 0).toNat = 4 ∧
      tally'.verdicts.get? "TC_ACT_OK" = some 1 := by
  intro config known other tally
  obtain ⟨plane, hplane, hlicense, _, htallies⟩ :=
    Plane.ofConfig_result (by decide : config.validate = .ok ())
  have hreached : Plane.Reached 0 plane := .ofConfig hplane
  have hsize : plane.snapshot.size = 1 :=
    (Plane.size_snapshot htallies.sound).trans htallies.size_eq
  have htotal := hreached.within.total_le
  rw [← plane.total_snapshot] at htotal
  have hcompatible : License.isCompatible plane.license := by
    rw [hlicense]
    decide
  obtain ⟨hruns, hbalanced⟩ := ends_balanced.1 0 plane [("TC_ACT_OK", .parsed)]
    [known, known.take 29, other, other] hreached (by decide) (by decide)
  obtain ⟨tally', plane', hrun, hends⟩ := hruns hcompatible 3
  obtain ⟨_, _, hinvocations, hshort, hparsed, ⟨counted, inserted, hcounted, hinserted, hsize',
    htotal', _⟩, hpass, hothers⟩ := hbalanced tally' plane' hends
  replace hcounted : tally'.counted.toNat = 0 + counted := hcounted
  replace hinserted : tally'.inserted.toNat = 0 + inserted := hinserted
  refine ⟨plane, tally', plane', hplane, hrun, hinvocations, hshort, hparsed, ?_, ?_, hpass,
    hothers "TC_ACT_OK" (by decide)⟩
  · omega
  · omega

end Replay

end SourceTally
