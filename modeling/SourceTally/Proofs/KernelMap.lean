import SourceTally.Kernel.Maps

/-!
# The bounded map of the kernel

Which of its operations a bounded map refuses depends on whether the key is present and whether
there is room. Those that it does not refuse set the count of one key.

## Main statements

* `BoundedMap.get?_put`: the counts after one has been set
* `BoundedMap.insertNew?_of_room`, `BoundedMap.set?_of_room`: what is not refused
-/

namespace SourceTally.Kernel.BoundedMap

variable {limit : Nat} {m : BoundedMap limit} {key : UInt32} {old count : UInt64}

/-! ### What is taken -/

theorem contains_of_some (h : m.get? key = some old) : m.counts.contains key = true := by
  rw [Ledger.contains, show m.counts.get? key = some old from h]
  rfl

theorem not_contains_of_none (h : m.get? key = none) : ¬ m.counts.contains key = true := by
  rw [Ledger.contains, show m.counts.get? key = none from h]
  exact Bool.false_ne_true

theorem takes_of_some (h : m.get? key = some old) : m.takes key := by
  rw [takes, contains_of_some h, Bool.true_or]

theorem takes_of_room (hroom : m.size < limit) (key : UInt32) : m.takes key := by
  rw [takes, decide_eq_true hroom, Bool.or_true]

theorem counts_put (h : m.takes key) (count : UInt64) :
    (m.put key count).counts = m.counts.put key count := by
  rw [put, dif_pos h]

theorem get?_put (h : m.takes key) (count : UInt64) (k : UInt32) :
    (m.put key count).get? k = if k = key then some count else m.get? k := by
  rw [get?, counts_put h, Ledger.get?_put]
  simp only [eq_comm, get?]

theorem get?_put_self (h : m.takes key) (count : UInt64) :
    (m.put key count).get? key = some count := by
  rw [get?_put h, if_pos rfl]

/-- Other keys keep their counts, whether the key is taken or not. -/
theorem get?_put_of_ne {k : UInt32} (hne : k ≠ key) (count : UInt64) :
    (m.put key count).get? k = m.get? k := by
  by_cases h : m.takes key
  · rw [get?_put h, if_neg hne]
  · rw [put, dif_neg h]

theorem size_put_of_none (h : m.get? key = none) (hroom : m.size < limit) (count : UInt64) :
    (m.put key count).size = m.size + 1 := by
  rw [size, counts_put (takes_of_room hroom key), Ledger.size_put_of_none h]
  rfl

theorem size_put_of_some (h : m.get? key = some old) (count : UInt64) :
    (m.put key count).size = m.size := by
  rw [size, counts_put (takes_of_some h), Ledger.size_put_of_some h]
  rfl

/-! ### What is refused -/

theorem insertNew?_of_some (h : m.get? key = some old) (count : UInt64) :
    m.insertNew? key count = none := by
  rw [insertNew?, if_pos (contains_of_some h)]

theorem insertNew?_of_room (h : m.get? key = none) (hroom : m.size < limit) (count : UInt64) :
    m.insertNew? key count = some (m.put key count) := by
  rw [insertNew?, if_neg (not_contains_of_none h), if_pos hroom]

theorem insertNew?_of_full (h : m.get? key = none) (hfull : ¬ m.size < limit) (count : UInt64) :
    m.insertNew? key count = none := by
  rw [insertNew?, if_neg (not_contains_of_none h), if_neg hfull]

/-- A key may be set while there is room, even for a new one. -/
theorem set?_of_room (hroom : m.size < limit) (key : UInt32) (count : UInt64) :
    m.set? key count = some (m.put key count) := by
  rw [set?, if_pos (takes_of_room hroom key)]

theorem eq_put_of_set? {m' : BoundedMap limit} (h : m.set? key count = some m') :
    m' = m.put key count := by
  rw [set?] at h
  split at h
  · exact (Option.some.inj h).symm
  · cases h

theorem bump_eq (m : BoundedMap limit) (key : UInt32) (count : UInt64) :
    m.bump key count = (.updated (count + 1), m.put key (count + 1)) := rfl

end SourceTally.Kernel.BoundedMap
