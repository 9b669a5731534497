import SourceTally.Proofs.Gauges
import SourceTally.Proofs.Interleaving
import SourceTally.Proofs.PlaneSession
import SourceTally.Proofs.SnapshotOrder

/-!
# Recording again and again

An exporter never removes a gauge. It is given snapshots, results and tallies while the plane and
the tally go on changing, and still it shows nothing that is out of date: a key that is in a table
stays there, a verdict that has been counted stays in the tally, and the named results are always
the same five. So each recording sets every gauge of its kind that has been set before.

## Main definitions

* `Watch`, `Watch.Event`: a plane, a tally and an exporter, and what may happen to them
* `Watch.Latest`: what was recorded last of each kind
* `Watch.Current`: the exporter shows what was recorded last, and all of it is still there

## Main statements

* `Plane.labels_subset`, `Tally.verdicts_subset`: addresses and verdicts stay
* `Watch.Current.step`: every event keeps an exporter current
* `Watch.render_latest`: an exporter writes what a fresh one would write
-/

namespace SourceTally

open Atomic (Keeps)

/-! ### Keys stay in a table -/

namespace CountingTable

variable {N : Nat} [HasSlots N] {t t' : CountingTable N} {key : UInt32} {i : Fin N}

omit [HasSlots N] in
theorem keeps_put (h : (t.slots.get i).key = none) (key : UInt32) (count : UInt64) :
    Keeps t.slots (t.put i key count).slots := by
  intro j other hj
  have hij : i ≠ j := by
    rintro rfl
    exact Option.some_ne_none other (hj.symm.trans h)
  rw [put, get_set_slot, if_neg hij]
  exact hj

omit [HasSlots N] in
theorem keeps_bump (t : CountingTable N) (i : Fin N) : Keeps t.slots (t.bump i).slots :=
  fun j _ hj => (key_set_count t.slots i j _).trans hj

theorem empty_of_vacant (h : t.probe key = .vacant i) : (t.slots.get i).key = none := by
  have hshows := t.probe_shows key
  rw [h] at hshows
  obtain ⟨_, _, _, _, hempty⟩ := hshows
  exact hempty

theorem keeps_seed (h : t.seed key = .ok t') : Keeps t.slots t'.slots := by
  rw [seed] at h
  cases hprobe : t.probe key with
  | found i =>
    rw [hprobe] at h
    obtain rfl := Except.ok.inj h
    exact fun _ _ hj => hj
  | vacant i =>
    rw [hprobe] at h
    obtain rfl := Except.ok.inj h
    exact keeps_put (empty_of_vacant hprobe) key 0
  | exhausted =>
    rw [hprobe] at h
    cases h

theorem keeps_increment (t : CountingTable N) (key : UInt32) :
    Keeps t.slots (t.increment key).2.slots := by
  rw [increment]
  cases hprobe : t.probe key with
  | found i => exact t.keeps_bump i
  | vacant i =>
    cases t.policy with
    | lookupOnly => exact fun _ _ hj => hj
    | lookupOrInsert => exact keeps_put (empty_of_vacant hprobe) key 1
  | exhausted => exact fun _ _ hj => hj

end CountingTable

theorem Atomic.System.keeps_step {N : Nat} [HasSlots N] (s : System N) (turn : Nat) :
    Keeps s.table.slots (s.step turn).table.slots :=
  s.keeps_run [turn]

/-- The labels of a snapshot's gauges. -/
def Snapshot.labels (s : Snapshot) : List String := s.entries.map (·.addr.text)

namespace Plane

theorem keeps_observe (plane : Plane) (handler : HandlerKind) (frame : Frame) :
    Keeps plane.table.slots (plane.observe handler frame).2.table.slots := by
  by_cases hhandler : handler = .source
  · subst hhandler
    rw [observe_source_table]
    cases frame.source? with
    | some addr => exact plane.table.keeps_increment addr.key
    | none => exact fun _ _ hj => hj
  · rw [plane.observe_of_ne_source hhandler frame]
    exact fun _ _ hj => hj

theorem keeps_perform (plane : Plane) (operation : Operation) :
    Keeps plane.table.slots (plane.perform operation).2.table.slots := by
  cases operation with
  | seed addr =>
    rw [perform]
    cases hseed : plane.seed? addr with
    | ok next =>
      obtain ⟨table, htable, rfl⟩ := seed?_eq_ok hseed
      exact CountingTable.keeps_seed htable
    | error e => exact fun _ _ hj => hj
  | observe handler frame => exact plane.keeps_observe handler frame
  | deploy kind =>
    rw [perform]
    split <;> exact fun _ _ hj => hj
  | fire lhs rhs =>
    rw [perform]
    split <;> exact fun _ _ hj => hj
  | snapshot => exact fun _ _ hj => hj
  | results => exact fun _ _ hj => hj

/-- Addresses stay in the snapshots of a plane. -/
theorem labels_subset {plane plane' : Plane} (h : Keeps plane.table.slots plane'.table.slots) :
    plane.snapshot.labels ⊆ plane'.snapshot.labels := by
  intro label hlabel
  obtain ⟨entry, hentry, rfl⟩ := List.mem_map.1 hlabel
  obtain ⟨⟨key, count⟩, hmem, rfl⟩ := CounterEntry.mem_sorted.1 hentry
  obtain ⟨i, hkey, -⟩ := CountingTable.mem_entries.1 hmem
  have hkept : (key, (plane'.table.slots.get i).count) ∈ plane'.table.entries :=
    CountingTable.mem_entries.2 ⟨i, h i key hkey, rfl⟩
  exact List.mem_map.2 ⟨_, CounterEntry.mem_sorted.2 ⟨_, hkept, rfl⟩, rfl⟩

/-- The results of a plane have the same names, whatever is in the slots. -/
theorem names_results (plane : Plane) :
    plane.results.map (·.slot.name) = ResultSlot.all.map ResultSlot.name := by
  have hload : ∀ slot : ResultSlot, ∃ value, plane.slots.load? slot.index = some value :=
    fun slot => ⟨_, Vector.getElem?_eq_getElem slot.index_lt⟩
  have hentry : ∀ slot : ResultSlot,
      ((plane.slots.load? slot.index).map (ResultEntry.mk slot)).map (·.slot.name) =
        some slot.name := by
    intro slot
    obtain ⟨value, hvalue⟩ := hload slot
    rw [hvalue]
    rfl
  rw [results, List.map_filterMap]
  simp only [hentry, List.filterMap_eq_map']

end Plane

/-- Verdicts stay in a tally. -/
theorem Tally.verdicts_subset (tally : Tally) (verdict : String) (outcome : Outcome) :
    tally.verdicts.keys ⊆ (tally.record verdict outcome).verdicts.keys := by
  have hverdicts : (tally.record verdict outcome).verdicts =
      tally.verdicts.put verdict ((tally.verdicts.get? verdict).getD 0 + 1) := by
    cases outcome with
    | counted result => cases result <;> rfl
    | _ => rfl
  intro label hlabel
  rw [hverdicts]
  exact Ledger.mem_keys_put.2 (.inr hlabel)

/-! ### Recording twice -/

namespace Exporter

open Metrics

variable {exporter : Exporter}

theorem putAll_again {old new : List (String × UInt64)}
    (h : old.map Prod.fst ⊆ new.map Prod.fst) : putAll (putAll [] old) new = putAll [] new := by
  refine putAll_eq_of_subset fun label hlabel => ?_
  exact h ((mem_keys_putAll.1 hlabel).resolve_right List.not_mem_nil)

theorem recordTable_again {old new : Snapshot} (hfresh : exporter.sources = [])
    (h : old.labels ⊆ new.labels) :
    (exporter.recordTable old).recordTable new = exporter.recordTable new := by
  have hlabels : (old.entries.map fun e => (e.addr.text, e.count)).map Prod.fst ⊆
      (new.entries.map fun e => (e.addr.text, e.count)).map Prod.fst := by
    simpa [Snapshot.labels, Function.comp_def] using h
  simp only [recordTable, recordCounts, hfresh, putAll_again hlabels]

theorem recordResults_again {old new : List ResultEntry} (hfresh : exporter.results = [])
    (h : old.map (·.slot.name) = new.map (·.slot.name)) :
    (exporter.recordResults old).recordResults new = exporter.recordResults new := by
  have hlabels : (old.map fun e => (e.slot.name, e.value)).map Prod.fst ⊆
      (new.map fun e => (e.slot.name, e.value)).map Prod.fst := by
    simp only [List.map_map, Function.comp_def]
    exact fun _ hname => h ▸ hname
  simp only [recordResults, recordNamed, hfresh, putAll_again hlabels]

theorem recordTally_again {old new : Tally} (hinvocations : exporter.invocations = [])
    (hverdicts : exporter.verdicts = [])
    (h : old.verdicts.keys ⊆ new.verdicts.keys) :
    (exporter.recordTally old).recordTally new = exporter.recordTally new := by
  -- the outcomes of any two tallies have the same labels
  simp only [recordTally, hinvocations, hverdicts, putAll_again h]
  rw [putAll_again (by simp)]

end Exporter

/-! ### Runs -/

/-- A plane and a tally that change, and an exporter that is given what they show. -/
structure Watch where
  plane : Plane
  /-- Calls on the plane's table that run at the same time. -/
  calls : List (Atomic.Call counterCapacity) := []
  tally : Tally := {}
  exporter : Exporter := {}

namespace Watch

/-- What may happen next. -/
inductive Event where
  /-- Something is asked of the plane. -/
  | perform (operation : Plane.Operation)
  /-- A call on the table starts. -/
  | call (request : Atomic.Request)
  /-- A call makes one of its steps. -/
  | turn (call : Nat)
  /-- An invocation is counted in the tally. -/
  | invoke (verdict : String) (outcome : Outcome)
  /-- The exporter is given a snapshot of the table as it is now. -/
  | recordTable
  /-- The exporter is given the results as they are now. -/
  | recordResults
  /-- The exporter is given the tally as it is now. -/
  | recordTally
  deriving DecidableEq, Repr

def step (watch : Watch) : Event → Watch
  | .perform operation => { watch with plane := (watch.plane.perform operation).2 }
  | .call request => { watch with calls := watch.calls ++ [.start counterCapacity request] }
  | .turn call =>
    let system := Atomic.System.step ⟨watch.plane.table, watch.calls⟩ call
    { watch with plane := { watch.plane with table := system.table }, calls := system.calls }
  | .invoke verdict outcome => { watch with tally := watch.tally.record verdict outcome }
  | .recordTable => { watch with exporter := watch.exporter.recordTable watch.plane.snapshot }
  | .recordResults => { watch with exporter := watch.exporter.recordResults watch.plane.results }
  | .recordTally => { watch with exporter := watch.exporter.recordTally watch.tally }

def run (watch : Watch) (events : List Event) : Watch := events.foldl step watch

/-- What was recorded last, of the kinds that were recorded. -/
structure Latest where
  snapshot : Option Snapshot := none
  results : Option (List ResultEntry) := none
  tally : Option Tally := none

/-- What is the latest after an event that happens to a plane and a tally. -/
def Latest.step (latest : Latest) (watch : Watch) : Event → Latest
  | .recordTable => { latest with snapshot := some watch.plane.snapshot }
  | .recordResults => { latest with results := some watch.plane.results }
  | .recordTally => { latest with tally := some watch.tally }
  | .perform _ | .call _ | .turn _ | .invoke _ _ => latest

/-- What is the latest at the end of a run. -/
def latestFrom (watch : Watch) (latest : Latest) : List Event → Latest
  | [] => latest
  | event :: rest => (watch.step event).latestFrom (latest.step watch event) rest

/-- A fresh exporter that is given only what was recorded last. -/
def Latest.exporter (latest : Latest) : Exporter :=
  let fresh : Exporter := {}
  let fresh := latest.snapshot.elim fresh fresh.recordTable
  let fresh := latest.results.elim fresh fresh.recordResults
  latest.tally.elim fresh fresh.recordTally

/-- The exporter shows what was recorded last, and everything that was recorded last is still there
to be recorded again. -/
structure Current (watch : Watch) (latest : Latest) : Prop where
  exporter_eq : watch.exporter = latest.exporter
  labels_subset : ∀ old, latest.snapshot = some old → old.labels ⊆ watch.plane.snapshot.labels
  names_eq : ∀ old, latest.results = some old →
    old.map (·.slot.name) = ResultSlot.all.map ResultSlot.name
  verdicts_subset : ∀ old, latest.tally = some old →
    old.verdicts.keys ⊆ watch.tally.verdicts.keys

namespace Current

variable {watch : Watch} {latest : Latest}

/-- A plane that keeps its keys can be recorded again. -/
theorem of_keeps (h : Current watch latest) {plane : Plane}
    (hkeeps : Keeps watch.plane.table.slots plane.table.slots)
    (calls : List (Atomic.Call counterCapacity)) :
    Current { watch with plane, calls } latest where
  exporter_eq := h.exporter_eq
  labels_subset old hold :=
    List.Subset.trans (h.labels_subset old hold) (Plane.labels_subset hkeeps)
  names_eq := h.names_eq
  verdicts_subset := h.verdicts_subset

theorem invoke (h : Current watch latest) (verdict : String) (outcome : Outcome) :
    Current (watch.step (.invoke verdict outcome)) latest where
  exporter_eq := h.exporter_eq
  labels_subset := h.labels_subset
  names_eq := h.names_eq
  verdicts_subset old hold :=
    List.Subset.trans (h.verdicts_subset old hold) (watch.tally.verdicts_subset verdict outcome)

theorem recordTable (h : Current watch latest) :
    Current (watch.step .recordTable) (latest.step watch .recordTable) where
  exporter_eq := by
    -- the gauges of the table are apart from the others, so the order of recording does not count
    have hagain : (latest.snapshot.elim ({} : Exporter) ({} : Exporter).recordTable).recordTable
        watch.plane.snapshot = ({} : Exporter).recordTable watch.plane.snapshot := by
      cases hold : latest.snapshot with
      | none => rfl
      | some old => exact Exporter.recordTable_again rfl (h.labels_subset old hold)
    show watch.exporter.recordTable watch.plane.snapshot = _
    rw [h.exporter_eq]
    simp only [Latest.exporter, Latest.step, Option.elim_some]
    rw [← hagain]
    cases latest.results <;> cases latest.tally <;> rfl
  labels_subset old hold := by
    obtain rfl := Option.some.inj hold
    exact List.Subset.refl _
  names_eq := h.names_eq
  verdicts_subset := h.verdicts_subset

theorem recordResults (h : Current watch latest) :
    Current (watch.step .recordResults) (latest.step watch .recordResults) where
  exporter_eq := by
    let table := latest.snapshot.elim ({} : Exporter) ({} : Exporter).recordTable
    have hfresh : table.results = [] := by
      simp only [table]
      cases latest.snapshot <;> rfl
    have hagain : (latest.results.elim table table.recordResults).recordResults
        watch.plane.results = table.recordResults watch.plane.results := by
      cases hold : latest.results with
      | none => rfl
      | some old =>
        have hnames := (h.names_eq old hold).trans watch.plane.names_results.symm
        exact Exporter.recordResults_again hfresh hnames
    show watch.exporter.recordResults watch.plane.results =
      latest.tally.elim (table.recordResults watch.plane.results)
        (table.recordResults watch.plane.results).recordTally
    rw [h.exporter_eq, ← hagain, Latest.exporter]
    cases latest.tally <;> rfl
  labels_subset := h.labels_subset
  names_eq old hold := by
    obtain rfl := Option.some.inj hold
    exact watch.plane.names_results
  verdicts_subset := h.verdicts_subset

theorem recordTally (h : Current watch latest) :
    Current (watch.step .recordTally) (latest.step watch .recordTally) where
  exporter_eq := by
    have hagain : ∀ others : Exporter, others.invocations = [] → others.verdicts = [] →
        (latest.tally.elim others others.recordTally).recordTally watch.tally =
          others.recordTally watch.tally := by
      intro others hinvocations hverdicts
      cases hold : latest.tally with
      | none => rfl
      | some old =>
        exact Exporter.recordTally_again hinvocations hverdicts (h.verdicts_subset old hold)
    show watch.exporter.recordTally watch.tally = _
    rw [h.exporter_eq]
    simp only [Latest.exporter, Latest.step, Option.elim_some]
    refine hagain _ ?_ ?_
    · cases latest.snapshot <;> cases latest.results <;> rfl
    · cases latest.snapshot <;> cases latest.results <;> rfl
  labels_subset := h.labels_subset
  names_eq := h.names_eq
  verdicts_subset old hold := by
    obtain rfl := Option.some.inj hold
    exact List.Subset.refl _

theorem start (plane : Plane) (tally : Tally) : Current { plane, tally } {} where
  exporter_eq := rfl
  labels_subset := nofun
  names_eq := nofun
  verdicts_subset := nofun

theorem step (h : Current watch latest) (event : Event) :
    Current (watch.step event) (latest.step watch event) := by
  cases event with
  | perform operation => exact h.of_keeps (watch.plane.keeps_perform operation) watch.calls
  | call request => exact h.of_keeps (fun _ _ hj => hj) _
  | turn call =>
    let system : Atomic.System counterCapacity := ⟨watch.plane.table, watch.calls⟩
    have hkeeps : Keeps watch.plane.table.slots (system.step call).table.slots :=
      system.keeps_step call
    exact h.of_keeps hkeeps (system.step call).calls
  | invoke verdict outcome => exact h.invoke verdict outcome
  | recordTable => exact h.recordTable
  | recordResults => exact h.recordResults
  | recordTally => exact h.recordTally

theorem run (h : Current watch latest) (events : List Event) :
    Current (watch.run events) (watch.latestFrom latest events) := by
  induction events generalizing watch latest with
  | nil => exact h
  | cons event rest ih => exact ih (h.step event)

end Current

/-- Whatever happens to a plane and a tally, and whenever and however often an exporter is given
their snapshot, results and tally on the way, it writes what a fresh exporter writes that was given
only the latest of each kind. -/
theorem render_latest (plane : Plane) (tally : Tally) (events : List Event) :
    let start : Watch := { plane, tally }
    (start.run events).exporter.render = (start.latestFrom {} events).exporter.render := by
  intro start
  rw [((Current.start plane tally).run events).exporter_eq]

end Watch

end SourceTally
