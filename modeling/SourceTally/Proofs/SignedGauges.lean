import SourceTally.Proofs.Exposition
import SourceTally.Proofs.PlaneSession
import SourceTally.Report

/-!
# Gauges are signed

Counters and results are unsigned words, but a gauge holds the signed word of the same bits, and
shows it as a double does. So an exposition shows a word as it is only if it lies in the lower half
of the range and has as many digits as a double keeps. A word of the upper half is shown as a
negative number, while the table of results shows it as it is.

## Main statements

* `Metrics.text_signed_eq_iff`: the words that a gauge shows as they are
* `Exporter.shows_of_putAll`: what is shown for a label that was set
* `Exporter.render_shows_signed`: what an exposition shows of results and of a snapshot
-/

namespace SourceTally

/-! ### Words as gauges show them -/

namespace Shortest

theorem digits_round_of_lt {n : Nat} (h : n < 2 ^ 53) : digits (round n) = n := by
  rw [round, if_pos (show n < Nat.pow 2 53 from h)]
  rfl

theorem text_natCast (n : Nat) : text n = toString (digits (round n)) := by
  rw [text, if_neg (by omega), Int.natAbs_natCast]

theorem text_of_neg {n : Int} (h : n < 0) : text n = "-" ++ toString (digits (round n.natAbs)) := by
  rw [text, if_pos h]

end Shortest

namespace Metrics

variable {value : UInt64}

theorem signed_of_lt (h : value.toNat < 2 ^ 63) : signed value = value.toNat := by
  show value.toBitVec.toInt = value.toBitVec.toNat
  have hlt : value.toBitVec.toNat < 2 ^ 63 := h
  rw [BitVec.toInt_eq_toNat_of_lt (by omega)]

theorem signed_of_le (h : 2 ^ 63 ≤ value.toNat) : signed value = value.toNat - 2 ^ 64 := by
  show value.toBitVec.toInt = value.toBitVec.toNat - 2 ^ 64
  have hle : 2 ^ 63 ≤ value.toBitVec.toNat := h
  rw [BitVec.toInt_eq_toNat_cond, if_neg (by omega)]
  rfl

theorem text_signed_of_lt (h : value.toNat < 2 ^ 63) :
    Shortest.text (signed value) = toString (Shortest.digits (Shortest.round value.toNat)) := by
  rw [signed_of_lt h, Shortest.text_natCast]

/-- A word of the upper half is shown by what is missing to the whole range. -/
theorem text_signed_of_le (h : 2 ^ 63 ≤ value.toNat) : Shortest.text (signed value) =
    "-" ++ toString (Shortest.digits (Shortest.round (2 ^ 64 - value.toNat))) := by
  have hlt : value.toNat < 2 ^ 64 := value.toNat_lt
  have habs : ((value.toNat : Int) - 2 ^ 64).natAbs = 2 ^ 64 - value.toNat := by omega
  rw [signed_of_le h, Shortest.text_of_neg (by omega), habs]

/-- The words that a gauge shows as they are. -/
theorem text_signed_eq_iff : Shortest.text (signed value) = toString value.toNat ↔
    value.toNat < 2 ^ 63 ∧ Shortest.digits (Shortest.round value.toNat) = value.toNat := by
  by_cases hlt : value.toNat < 2 ^ 63
  · rw [text_signed_of_lt hlt, Text.toString_inj]
    exact (and_iff_right hlt).symm
  · rw [text_signed_of_le (Nat.not_lt.1 hlt)]
    refine iff_of_false (fun heq => ?_) (fun h => hlt h.1)
    have hsign : '-' ∈ (toString value.toNat).toList := by
      rw [← heq]
      simp
    exact absurd (Text.isDigit_of_mem_toString hsign) (by decide)

end Metrics

/-! ### Results after a run of the harness -/

namespace Plane

variable (plane : Plane) (lhs rhs : UInt64)

theorem results_fire : (plane.fire lhs rhs).results = (Arithmetic.compute lhs rhs).entries :=
  results_of_storeInto rfl

theorem mem_results_fire (slot : ResultSlot) :
    ⟨slot, (Arithmetic.compute lhs rhs).value slot⟩ ∈ (plane.fire lhs rhs).results := by
  rw [results_fire]
  refine List.mem_map.2 ⟨slot, ?_, rfl⟩
  cases slot <;> decide

theorem nodup_results_fire : ((plane.fire lhs rhs).results.map (·.slot)).Nodup := by
  have hslots : (plane.fire lhs rhs).results.map (·.slot) = ResultSlot.all := by
    rw [results_fire]
    rfl
  rw [hslots]
  decide

end Plane

namespace Results

variable {results : List ResultEntry} {entry : ResultEntry}

theorem row_mem_table (h : entry ∈ results) :
    row (toString entry.slot.index) entry.slot.name (toString entry.value.toNat) ∈
      table results :=
  List.mem_cons_of_mem _ (List.mem_map.2 ⟨entry, h, rfl⟩)

theorem record_mem_value (h : entry ∈ results) :
    ∃ items, value results = .list items ∧
      .record [("slot", .ofNat entry.slot.index), ("name", .text entry.slot.name),
        ("value", .ofNat entry.value.toNat)] ∈ items :=
  ⟨_, rfl, List.mem_map.2 ⟨entry, h, rfl⟩⟩

end Results

/-! ### Labels of gauges -/

theorem ResultSlot.name_injective : Function.Injective ResultSlot.name := by
  intro a b
  cases a <;> cases b <;> decide

theorem Address.toList_text (addr : Address) : addr.text.toList =
    (toString addr.first.toNat).toList ++ '.' :: ((toString addr.second.toNat).toList ++ '.' ::
      ((toString addr.third.toNat).toList ++ '.' :: (toString addr.fourth.toNat).toList)) := by
  simp [text]

theorem Address.text_injective : Function.Injective Address.text := by
  have hdot (n : UInt8) : '.' ∉ (toString n.toNat).toList := fun hmem =>
    absurd (Text.isDigit_of_mem_toString hmem) (by decide)
  have hoctet {m n : UInt8} (h : (toString m.toNat).toList = (toString n.toNat).toList) :
      m = n := by
    rw [String.toList_inj, Text.toString_inj] at h
    exact UInt8.toNat_inj.1 h
  rintro ⟨a, b, c, d⟩ ⟨a', b', c', d'⟩ h
  have hlist := congrArg String.toList h
  rw [toList_text, toList_text] at hlist
  obtain ⟨ha, hlist⟩ := Text.append_cons_inj (hdot a) (hdot a') hlist
  obtain ⟨hb, hlist⟩ := Text.append_cons_inj (hdot b) (hdot b') hlist
  obtain ⟨hc, hd⟩ := Text.append_cons_inj (hdot c) (hdot c') hlist
  rw [Address.mk.injEq]
  exact ⟨hoctet ha, hoctet hb, hoctet hc, hoctet hd⟩

open Metrics

namespace Exporter

variable {exporter : Exporter} {family : Family} {values : Ledger String UInt64}
  {entries : List (String × UInt64)} {label : String} {value : UInt64}

/-- A label that was set once shows the signed word and nothing else. -/
theorem shows_of_putAll (h : (family, putAll values entries) ∈ exporter.gauges)
    (hnodup : (entries.map Prod.fst).Nodup) (hmem : (label, value) ∈ entries) (shown : String) :
    Shows exporter.render.value family label shown ↔ shown = Shortest.text (signed value) := by
  rw [shows_render_iff h, get?_putAll_of_nodup hnodup hmem, Option.map_some,
    Option.some_inj, eq_comm]

theorem shows_recordResults (exporter : Exporter) {results : List ResultEntry}
    (hnodup : (results.map (·.slot)).Nodup) {entry : ResultEntry} (hmem : entry ∈ results)
    (shown : String) :
    Shows (exporter.recordResults results).render.value Metrics.results entry.slot.name shown ↔
      shown = Shortest.text (signed entry.value) := by
  have hlabels := hnodup.map ResultSlot.name_injective
  rw [List.map_map] at hlabels
  have hgauge : (Metrics.results, putAll exporter.results
      (results.map fun e => (e.slot.name, e.value))) ∈ (exporter.recordResults results).gauges :=
    List.mem_cons_of_mem _ List.mem_cons_self
  apply shows_of_putAll hgauge
  · rwa [List.map_map]
  · exact List.mem_map.2 ⟨entry, hmem, rfl⟩

theorem shows_recordTable (exporter : Exporter) {snapshot : Snapshot}
    (hnodup : (snapshot.entries.map (·.addr)).Nodup) {entry : CounterEntry}
    (hmem : entry ∈ snapshot.entries) (shown : String) :
    Shows (exporter.recordTable snapshot).render.value Metrics.sources entry.addr.text shown ↔
      shown = Shortest.text (signed entry.count) := by
  have hlabels := hnodup.map Address.text_injective
  rw [List.map_map] at hlabels
  have hgauge : (Metrics.sources, putAll exporter.sources
      (snapshot.entries.map fun e => (e.addr.text, e.count))) ∈
      (exporter.recordTable snapshot).gauges :=
    List.mem_cons_of_mem _ (List.mem_cons_of_mem _ List.mem_cons_self)
  apply shows_of_putAll hgauge
  · rwa [List.map_map]
  · exact List.mem_map.2 ⟨entry, hmem, rfl⟩

/-- After the results are computed, all forms of output but one show them as they are. An exposition
shows for each slot the signed word of the same bits as a double shows it, and nothing else; and the
same holds for the counts of a snapshot, as long as no address comes twice. This is the word itself
exactly if the word lies in the lower half of the range and a double shows all its digits, as it
does below `2 ^ 53`. In the upper half it is a negative number. -/
theorem render_shows_signed (exporter : Exporter) (plane : Plane) (lhs rhs : UInt64)
    {snapshot : Snapshot} (hnodup : (snapshot.entries.map (·.addr)).Nodup) :
    let results := (plane.fire lhs rhs).results
    let ofResults := (exporter.recordResults results).render.value
    let ofTable := (exporter.recordTable snapshot).render.value
    (∀ slot : ResultSlot, let value := (Arithmetic.compute lhs rhs).value slot
      ⟨slot, value⟩ ∈ results ∧
      Results.row (toString slot.index) slot.name (toString value.toNat) ∈
        Results.table results ∧
      (∃ items, Results.value results = .list items ∧
        .record [("slot", .ofNat slot.index), ("name", .text slot.name),
          ("value", .ofNat value.toNat)] ∈ items) ∧
      ∀ shown, Shows ofResults Metrics.results slot.name shown ↔
        shown = Shortest.text (signed value)) ∧
    (∀ entry ∈ snapshot.entries, ∀ shown, Shows ofTable Metrics.sources entry.addr.text shown ↔
      shown = Shortest.text (signed entry.count)) ∧
    ∀ value : UInt64,
      (Shortest.text (signed value) = toString value.toNat ↔
        value.toNat < 2 ^ 63 ∧ Shortest.digits (Shortest.round value.toNat) = value.toNat) ∧
      (value.toNat < 2 ^ 53 → Shortest.text (signed value) = toString value.toNat) ∧
      (2 ^ 63 ≤ value.toNat → signed value = value.toNat - 2 ^ 64 ∧ Shortest.text (signed value) =
        "-" ++ toString (Shortest.digits (Shortest.round (2 ^ 64 - value.toNat)))) := by
  intro results ofResults ofTable
  have hslots := plane.nodup_results_fire lhs rhs
  refine ⟨?_, ?_, ?_⟩
  · intro slot value
    have hslot : ⟨slot, value⟩ ∈ results := plane.mem_results_fire lhs rhs slot
    have hrow := Results.row_mem_table hslot
    have hrecord := Results.record_mem_value hslot
    have hshows := exporter.shows_recordResults hslots hslot
    exact ⟨hslot, hrow, hrecord, hshows⟩
  · intro entry hentry
    exact exporter.shows_recordTable hnodup hentry
  · intro value
    refine ⟨text_signed_eq_iff, fun hlt => ?_, fun hle => ?_⟩
    · have hhalf : value.toNat < 2 ^ 63 := by omega
      exact text_signed_eq_iff.2 ⟨hhalf, Shortest.digits_round_of_lt hlt⟩
    · exact ⟨signed_of_le hle, text_signed_of_le hle⟩

/-- A sum and a count of ten to the nineteenth. -/
theorem render_shows_signed_upper_half :
    let high : UInt64 := 10000000000000000000
    let snapshot : Snapshot := ⟨.lookupOnly, 4, [⟨⟨10, 0, 0, 1⟩, 16777226, high⟩]⟩
    let results := ((Plane.empty .lookupOnly).fire 0 high).results
    (snapshot.entries.map (·.addr)).Nodup ∧
    (∀ shown, Shows (({} : Exporter).recordResults results).render.value Metrics.results "sum"
      shown ↔ shown = "-8446744073709552000") ∧
    ∀ shown, Shows (({} : Exporter).recordTable snapshot).render.value Metrics.sources
      (Address.text ⟨10, 0, 0, 1⟩) shown ↔ shown = "-8446744073709552000" := by
  intro high snapshot results
  have hnodup : (snapshot.entries.map (·.addr)).Nodup := List.nodup_singleton _
  have hcount : Shortest.text (signed high) = "-8446744073709552000" := by decide +kernel
  have hsum : Shortest.text (signed ((Arithmetic.compute 0 high).value .sum)) =
      "-8446744073709552000" := by
    decide +kernel
  have h := render_shows_signed {} (Plane.empty .lookupOnly) 0 high hnodup
  refine ⟨hnodup, fun shown => ?_, fun shown => ?_⟩
  · rw [← hsum]
    exact (h.1 .sum).2.2.2 shown
  · rw [← hcount]
    exact h.2.1 _ List.mem_cons_self shown

/-- The sum of nothing and ten to the nineteenth is a whole double, so that no digit is lost. Still
the exposition does not show it, since it lies in the upper half. -/
theorem sum_not_shown :
    let rhs : UInt64 := 10000000000000000000
    let results := ((Plane.empty .lookupOnly).fire 0 rhs).results
    ⟨.sum, rhs⟩ ∈ results ∧ Shortest.digits (Shortest.round rhs.toNat) = rhs.toNat ∧
    ¬ Shows (({} : Exporter).recordResults results).render.value Metrics.results "sum"
      (toString rhs.toNat) := by
  intro rhs results
  have hsum : (Arithmetic.compute 0 rhs).value .sum = rhs := UInt64.zero_add rhs
  have hmem : ⟨.sum, rhs⟩ ∈ results := by
    rw [← hsum]
    exact Plane.mem_results_fire _ 0 rhs .sum
  refine ⟨hmem, by decide +kernel, ?_⟩
  intro hshows
  have hnodup := Plane.nodup_results_fire (Plane.empty .lookupOnly) 0 rhs
  have hshown := ((shows_recordResults {} hnodup hmem _).1 hshows).symm
  exact absurd (text_signed_eq_iff.1 hshown).1 (by decide)

end Exporter

end SourceTally
