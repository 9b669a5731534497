import Mathlib.Data.List.Induction
import Mathlib.Data.List.Nodup
import SourceTally.Metrics

/-!
# Families of gauges as ledgers

A family keeps the last value of each label, in the order of the labels. So setting several values
of a family leaves nothing of what was there before, as far as labels are set again; and if all of
them are, the family might as well have been empty.

## Main statements

* `Metrics.get?_putAll_of_nodup`, `Metrics.get?_putAll_of_not_mem`: the values after setting some
* `Metrics.putAll_eq_of_subset`: labels that are all set again leave nothing behind
-/

namespace SourceTally

namespace Metrics

variable {values other : Ledger String UInt64} {entries : List (String × UInt64)} {label : String}
  {value : UInt64}

theorem putAll_concat (values : Ledger String UInt64) (entries : List (String × UInt64))
    (entry : String × UInt64) :
    putAll values (entries ++ [entry]) = (putAll values entries).put entry.1 entry.2 := by
  rw [putAll, List.foldl_append]
  rfl

theorem mem_keys_putAll : label ∈ (putAll values entries).keys ↔
    label ∈ entries.map Prod.fst ∨ label ∈ values.keys := by
  induction entries using List.reverseRecOn with
  | nil => simp [putAll]
  | append_singleton entries entry ih =>
    rw [putAll_concat, Ledger.mem_keys_put, ih, List.map_append, List.mem_append]
    simp only [List.map_cons, List.map_nil, List.mem_singleton]
    tauto

theorem get?_putAll_of_not_mem (h : label ∉ entries.map Prod.fst) :
    (putAll values entries).get? label = values.get? label := by
  induction entries using List.reverseRecOn with
  | nil => rfl
  | append_singleton entries entry ih =>
    rw [List.map_append, List.mem_append, not_or] at h
    have hentry : entry.1 ≠ label := fun heq => h.2 (by simp [heq])
    rw [putAll_concat, Ledger.get?_put_of_ne _ _ hentry, ih h.1]

/-- The value of a label that is set once. -/
theorem get?_putAll_of_nodup (hnodup : (entries.map Prod.fst).Nodup)
    (hmem : (label, value) ∈ entries) : (putAll values entries).get? label = some value := by
  induction entries generalizing values with
  | nil => cases hmem
  | cons entry rest ih =>
    obtain ⟨hnew, hrest⟩ := List.nodup_cons.1 hnodup
    show (putAll (values.put entry.1 entry.2) rest).get? label = some value
    rcases List.mem_cons.1 hmem with rfl | hlater
    · rw [get?_putAll_of_not_mem hnew, Ledger.get?_put_self]
    · exact ih hrest hlater

/-- The value of a label that is set does not depend on what was there before. -/
theorem get?_putAll_congr (h : label ∈ entries.map Prod.fst) :
    (putAll values entries).get? label = (putAll other entries).get? label := by
  induction entries using List.reverseRecOn with
  | nil => cases h
  | append_singleton entries entry ih =>
    rw [putAll_concat, putAll_concat]
    by_cases hentry : entry.1 = label
    · rw [hentry, Ledger.get?_put_self, Ledger.get?_put_self]
    · have hbefore : label ∈ entries.map Prod.fst := by
        rw [List.map_append, List.mem_append] at h
        exact h.resolve_right fun hlast => hentry (by simpa [eq_comm] using hlast)
      rw [Ledger.get?_put_of_ne _ _ hentry, Ledger.get?_put_of_ne _ _ hentry, ih hbefore]

/-- Setting all labels again gives what setting them for the first time gives. -/
theorem putAll_eq_of_subset (h : values.keys ⊆ entries.map Prod.fst) :
    putAll values entries = putAll [] entries := by
  refine Ledger.ext_get? fun label => ?_
  by_cases hlabel : label ∈ entries.map Prod.fst
  · exact get?_putAll_congr hlabel
  · rw [get?_putAll_of_not_mem hlabel, get?_putAll_of_not_mem hlabel,
      Ledger.get?_eq_none_iff.2 fun hold => hlabel (h hold)]
    rfl

end Metrics

end SourceTally
