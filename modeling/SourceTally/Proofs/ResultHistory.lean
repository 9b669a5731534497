import Mathlib.Data.Int.ModEq
import SourceTally.ResultSlots

/-!
# What a row of result slots holds

A row is written in two ways: a value is stored in one cell, or the five results for two operands
are left in the named ones. Either way it comes down to a list of stores, and of all stores to a
cell the last one decides. Stores past the end of the row are refused, so that a row may be shorter
than the list of results.

## Main definitions

* `ResultSlots.Write`, `ResultSlots.performAll`: the ways to write to a row, and a history of writes
* `ResultSlots.lastWritten?`: the value that a history writes last to a cell
* `Arithmetic.IsFor`: what the results for two operands have to be, in integers

## Main statements

* `ResultSlots.load?_performAll`: a cell holds what was written last, if anything was
* `Arithmetic.isFor_compute`, `Arithmetic.IsFor.unique`: the computed results are the right ones,
  and there are no others
* `ResultSlots.performAll_lastWritten`: rows and results after every history
-/

namespace SourceTally

namespace Arithmetic

/-- The cells that results are left in, with the results, in the order of the stores. -/
def stores (a : Arithmetic) : List (Nat × UInt64) :=
  [(0, a.sum), (1, a.difference), (2, a.product), (3, a.quotient), (4, a.remainder)]

/-- No cell gets two results, so it does not matter from which side one looks. -/
theorem lookup_reverse_stores (a : Arithmetic) (i : Nat) :
    a.stores.reverse.lookup i = a.stores.lookup i := by
  match i with
  | 0 | 1 | 2 | 3 | 4 => rfl
  | n + 5 => simp [stores, List.lookup_cons]

end Arithmetic

namespace ResultSlots

variable {N : Nat}

/-- A way to write to a row. -/
inductive Write where
  | store (index : Nat) (value : UInt64)
  | compute (lhs rhs : UInt64)
  deriving DecidableEq, Repr

/-- The stores that a write asks for, whether or not the row has the cells. -/
def Write.stores : Write → List (Nat × UInt64)
  | .store index value => [(index, value)]
  | .compute lhs rhs => (Arithmetic.compute lhs rhs).stores

def perform (s : ResultSlots N) : Write → ResultSlots N
  | .store index value => s.store index value
  | .compute lhs rhs => (Arithmetic.compute lhs rhs).storeInto s

/-- A row after a history of writes. -/
def performAll (s : ResultSlots N) (history : List Write) : ResultSlots N :=
  history.foldl perform s

/-- The value that a history writes last to a cell. -/
def lastWritten? (history : List Write) (i : Nat) : Option UInt64 :=
  (history.flatMap Write.stores).reverse.lookup i

/-- Store one value after the other. -/
def storeAll (s : ResultSlots N) (stores : List (Nat × UInt64)) : ResultSlots N :=
  stores.foldl (fun s write => s.store write.1 write.2) s

/-! ### Single cells -/

theorem load?_of_le (s : ResultSlots N) {i : Nat} (hi : N ≤ i) : s.load? i = none :=
  Vector.getElem?_eq_none hi

theorem load?_eq_ite (s : ResultSlots N) {i : Nat} {held : Option UInt64}
    (h : i < N → s.load? i = held) : s.load? i = if i < N then held else none := by
  by_cases hi : i < N
  · rw [if_pos hi, h hi]
  · rw [if_neg hi, s.load?_of_le (Nat.le_of_not_lt hi)]

theorem load?_zero {j : Nat} (hj : j < N) : (zero N).load? j = some 0 := by
  simp [zero, load?, hj]

theorem store?_of_lt (s : ResultSlots N) {i : Nat} (hi : i < N) (value : UInt64) :
    s.store? i value = some (s.store i value) := by
  simp [store, store?, hi]

theorem store?_eq_none_iff (s : ResultSlots N) (i : Nat) (value : UInt64) :
    s.store? i value = none ↔ N ≤ i := by
  simp [store?]

theorem store_of_le (s : ResultSlots N) {i : Nat} (hi : N ≤ i) (value : UInt64) :
    s.store i value = s := by
  rw [store, (s.store?_eq_none_iff i value).2 hi, Option.getD_none]

theorem load?_store (s : ResultSlots N) (i j : Nat) (value : UInt64) :
    (s.store i value).load? j = if i = j ∧ j < N then some value else s.load? j := by
  unfold store store? load?
  by_cases hi : i < N
  · rw [dif_pos hi, Option.getD_some, Vector.getElem?_set]
    by_cases hij : i = j
    · subst hij
      simp [hi]
    · simp [hij]
  · rw [dif_neg hi, Option.getD_none, if_neg]
    rintro ⟨rfl, hj⟩
    exact hi hj

/-! ### Histories -/

/-- Of all stores to a cell the last one decides. -/
theorem load?_storeAll (s : ResultSlots N) (stores : List (Nat × UInt64)) {i : Nat} (hi : i < N) :
    (s.storeAll stores).load? i = (stores.reverse.lookup i).or (s.load? i) := by
  induction stores generalizing s with
  | nil => rfl
  | cons write rest ih =>
    obtain ⟨j, value⟩ := write
    have hstep : (s.store j value).load? i = (List.lookup i [(j, value)]).or (s.load? i) := by
      rw [load?_store]
      by_cases hcell : j = i
      · simp [hcell, hi]
      · have hbeq : (i == j) = false := beq_eq_false_iff_ne.2 (Ne.symm hcell)
        simp [List.lookup_cons, hcell, hbeq]
    calc (s.storeAll ((j, value) :: rest)).load? i
        = ((s.store j value).storeAll rest).load? i := rfl
      _ = (rest.reverse.lookup i).or ((List.lookup i [(j, value)]).or (s.load? i)) := by
        rw [ih, hstep]
      _ = (((j, value) :: rest).reverse.lookup i).or (s.load? i) := by
        rw [List.reverse_cons, List.lookup_append, Option.or_assoc]

theorem perform_eq_storeAll (s : ResultSlots N) (write : Write) :
    s.perform write = s.storeAll write.stores := by
  cases write <;> rfl

theorem performAll_eq_storeAll (s : ResultSlots N) (history : List Write) :
    s.performAll history = s.storeAll (history.flatMap Write.stores) := by
  induction history generalizing s with
  | nil => rfl
  | cons write rest ih =>
    rw [List.flatMap_cons, storeAll, List.foldl_append]
    change (s.perform write).performAll rest = (s.storeAll write.stores).storeAll _
    rw [ih, perform_eq_storeAll]

/-- A cell holds what was written to it last, if anything was. -/
theorem load?_performAll (s : ResultSlots N) (history : List Write) {i : Nat} (hi : i < N) :
    (s.performAll history).load? i = (lastWritten? history i).or (s.load? i) := by
  rw [performAll_eq_storeAll, load?_storeAll s _ hi, lastWritten?]

end ResultSlots

namespace Arithmetic

variable {N : Nat} {a b : Arithmetic} {lhs rhs : UInt64}

theorem storeInto_eq_storeAll (a : Arithmetic) (s : ResultSlots N) :
    a.storeInto s = s.storeAll a.stores := rfl

/-- Results overwrite their cells and leave the others alone. -/
theorem load?_storeInto_of_lt (a : Arithmetic) (s : ResultSlots N) {i : Nat} (hi : i < N) :
    (a.storeInto s).load? i = (a.stores.lookup i).or (s.load? i) := by
  rw [storeInto_eq_storeAll, ResultSlots.load?_storeAll s _ hi, lookup_reverse_stores]

/-! ### Results in integers -/

/-- What the results for two operands have to be. The second operand is the one that is subtracted
from and divided. -/
structure IsFor (a : Arithmetic) (lhs rhs : UInt64) : Prop where
  sum : (a.sum.toNat : ℤ) ≡ lhs.toNat + rhs.toNat [ZMOD 2 ^ 64]
  difference : (a.difference.toNat : ℤ) ≡ rhs.toNat - lhs.toNat [ZMOD 2 ^ 64]
  product : (a.product.toNat : ℤ) ≡ lhs.toNat * rhs.toNat [ZMOD 2 ^ 64]
  division : a.quotient.toNat * lhs.toNat + a.remainder.toNat = rhs.toNat
  remainder_lt : 0 < lhs → a.remainder < lhs
  quotient_zero : lhs = 0 → a.quotient = 0

theorem eq_of_modEq {x y : UInt64} {z : ℤ} (hx : (x.toNat : ℤ) ≡ z [ZMOD 2 ^ 64])
    (hy : (y.toNat : ℤ) ≡ z [ZMOD 2 ^ 64]) : x = y := by
  have hmod : (x.toNat : ℤ) % 2 ^ 64 = y.toNat % 2 ^ 64 := hx.trans hy.symm
  have hxlt := x.toNat_lt
  have hylt := y.toNat_lt
  apply UInt64.toNat_inj.1
  omega

theorem isFor_compute (lhs rhs : UInt64) : (compute lhs rhs).IsFor lhs rhs where
  sum := by
    rw [compute, UInt64.toNat_add]
    exact_mod_cast Nat.mod_modEq (lhs.toNat + rhs.toNat) (2 ^ 64)
  difference := by
    have hlt := lhs.toNat_lt
    rw [compute, UInt64.toNat_sub, Int.natCast_mod]
    -- before it is reduced, the word is the exact difference and one turn more
    exact (Int.mod_modEq _ _).trans (Int.modEq_iff_dvd.2 ⟨-1, by omega⟩)
  product := by
    rw [compute, UInt64.toNat_mul]
    exact_mod_cast Nat.mod_modEq (lhs.toNat * rhs.toNat) (2 ^ 64)
  division := by
    by_cases hzero : lhs = 0
    · simp [compute, hzero]
    · simp only [compute, hzero, if_false, UInt64.toNat_div, UInt64.toNat_mod]
      exact Nat.div_add_mod' rhs.toNat lhs.toNat
  remainder_lt := by
    intro hpos
    have hne : lhs ≠ 0 := by
      rintro rfl
      exact absurd hpos (by decide)
    simp only [compute, hne, if_false]
    exact UInt64.mod_lt rhs hpos
  quotient_zero := by
    rintro rfl
    rfl

namespace IsFor

/-- Multiplying back and adding the remainder stays within a word at every step. -/
theorem division_within (h : a.IsFor lhs rhs) :
    (a.quotient * lhs).toNat = a.quotient.toNat * lhs.toNat ∧
      a.quotient * lhs + a.remainder = rhs := by
  have hlt := rhs.toNat_lt
  have hdivision := h.division
  have hmul : (a.quotient * lhs).toNat = a.quotient.toNat * lhs.toNat := by
    rw [UInt64.toNat_mul]
    exact Nat.mod_eq_of_lt (by omega)
  refine ⟨hmul, UInt64.toNat_inj.1 ?_⟩
  rw [UInt64.toNat_add, hmul, hdivision]
  exact Nat.mod_eq_of_lt hlt

/-- Unless it is by zero, the division is the one of natural numbers. -/
theorem division_exact (h : a.IsFor lhs rhs) (hpos : 0 < lhs) :
    rhs.toNat / lhs.toNat = a.quotient.toNat ∧ rhs.toNat % lhs.toNat = a.remainder.toNat := by
  refine (Nat.div_mod_unique (UInt64.lt_iff_toNat_lt.1 hpos)).2 ⟨?_, ?_⟩
  · rw [Nat.add_comm, Nat.mul_comm]
    exact h.division
  · exact UInt64.lt_iff_toNat_lt.1 (h.remainder_lt hpos)

theorem division_unique (ha : a.IsFor lhs rhs) (hb : b.IsFor lhs rhs) :
    a.quotient = b.quotient ∧ a.remainder = b.remainder := by
  by_cases hzero : lhs = 0
  · -- by zero the whole dividend remains
    have hremainder : a.remainder.toNat = b.remainder.toNat := by
      have hdivision := ha.division.trans hb.division.symm
      rw [hzero, UInt64.toNat_zero] at hdivision
      omega
    exact ⟨(ha.quotient_zero hzero).trans (hb.quotient_zero hzero).symm,
      UInt64.toNat_inj.1 hremainder⟩
  · have hpos : 0 < lhs := UInt64.pos_iff_ne_zero.2 hzero
    obtain ⟨hqa, hra⟩ := ha.division_exact hpos
    obtain ⟨hqb, hrb⟩ := hb.division_exact hpos
    exact ⟨UInt64.toNat_inj.1 (hqa.symm.trans hqb), UInt64.toNat_inj.1 (hra.symm.trans hrb)⟩

theorem unique (ha : a.IsFor lhs rhs) (hb : b.IsFor lhs rhs) : a = b := by
  obtain ⟨hquotient, hremainder⟩ := ha.division_unique hb
  have hsum := eq_of_modEq ha.sum hb.sum
  have hdifference := eq_of_modEq ha.difference hb.difference
  have hproduct := eq_of_modEq ha.product hb.product
  cases a
  cases b
  rw [mk.injEq]
  exact ⟨hsum, hdifference, hproduct, hquotient, hremainder⟩

end IsFor

end Arithmetic

namespace ResultSlots

/-- After every history of writes to a row of any length, each cell holds the value that was written
to it last, or zero, and past the end there is nothing. A store is refused exactly past the end, and
then nothing changes. A computation stores its results one after the other, which changes the first
five cells, as far as the row has them, and no others. For any operands, zero included, the results
are right, no others are, and the division can be undone without leaving the range of a word. -/
theorem performAll_lastWritten (N : Nat) (history : List Write) :
    let s := (zero N).performAll history
    (∀ i, s.load? i = if i < N then some ((lastWritten? history i).getD 0) else none) ∧
    (∀ i value, (s.store? i value = none ↔ N ≤ i) ∧ (N ≤ i → s.store i value = s) ∧
      (i < N → s.store? i value = some (s.store i value))) ∧
    (∀ a : Arithmetic, a.storeInto s = s.storeAll a.stores ∧
      ∀ i, (a.storeInto s).load? i =
        if i < N then (a.stores.lookup i).or (s.load? i) else none) ∧
    ∀ lhs rhs : UInt64, let a := Arithmetic.compute lhs rhs
      a.IsFor lhs rhs ∧ (∀ b : Arithmetic, b.IsFor lhs rhs → b = a) ∧
      (a.quotient * lhs).toNat = a.quotient.toNat * lhs.toNat ∧
      a.quotient * lhs + a.remainder = rhs := by
  intro s
  refine ⟨?_, ?_, ?_, ?_⟩
  · intro i
    refine s.load?_eq_ite fun hi => ?_
    rw [load?_performAll _ history hi, load?_zero hi]
    cases lastWritten? history i <;> rfl
  · intro i value
    exact ⟨s.store?_eq_none_iff i value, fun hi => s.store_of_le hi value,
      fun hi => s.store?_of_lt hi value⟩
  · intro a
    refine ⟨a.storeInto_eq_storeAll s, fun i => ?_⟩
    exact (a.storeInto s).load?_eq_ite fun hi => a.load?_storeInto_of_lt s hi
  · intro lhs rhs a
    have ha : a.IsFor lhs rhs := Arithmetic.isFor_compute lhs rhs
    exact ⟨ha, fun b hb => hb.unique ha, ha.division_within⟩

/-- In a row of three cells, with one store past its end, a quotient by zero and a difference below
zero. -/
theorem performAll_lastWritten_three_cells :
    let s := (zero 3).performAll [.store 0 7, .compute 0 20, .store 3 9, .compute 20 10, .store 2 5]
    s.load? 0 = some 30 ∧ s.load? 1 = some (UInt64.ofNat (2 ^ 64 - 10)) ∧ s.load? 2 = some 5 ∧
      s.load? 3 = none ∧ s.store? 3 1 = none ∧ s.store 3 1 = s ∧
      ((Arithmetic.compute 1 2).storeInto s).load? 2 = some 2 ∧
      (Arithmetic.compute 20 10).remainder < 20 ∧ (Arithmetic.compute 0 20).quotient = 0 := by
  intro s
  obtain ⟨hload, hstore, hinto, hresults⟩ := performAll_lastWritten 3
    [.store 0 7, .compute 0 20, .store 3 9, .compute 20 10, .store 2 5]
  refine ⟨(hload 0).trans (by decide), (hload 1).trans (by decide), (hload 2).trans (by decide),
    (hload 3).trans (by decide), (hstore 3 1).1.2 (by decide), (hstore 3 1).2.1 (by decide),
    ((hinto (Arithmetic.compute 1 2)).2 2).trans (by decide),
    (hresults 20 10).1.remainder_lt (by decide), (hresults 0 20).1.quotient_zero rfl⟩

end ResultSlots

end SourceTally
