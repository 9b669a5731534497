import Mathlib.Data.List.Basic
import SourceTally.Turns

/-!
# Following one of several parts

In a turn one part acts, and the others stay what they are. A system whose parts take turns is seen
through a view of what its parts share and of the parts; whatever a schedule does, what is known of
one part changes by its own turns only, as far as the turns of the others keep it.

## Main statements

* `takeTurn_cases`: what one turn does
* `getElem?_takeTurn`, `map_takeTurn`: what it does to each part, and what it keeps of all of them
* `exists_part_run`: what is known of a part at the end of a schedule
-/

namespace SourceTally

/-- Of parts that take turns, the one whose turn it is stands between others, and changes alone. -/
theorem split_turn {α : Type} {parts : List α} {turn : Nat} {part : α}
    (h : parts[turn]? = some part) :
    ∃ before rest, before.length = turn ∧ parts = before ++ part :: rest ∧
      ∀ next, parts.set turn next = before ++ next :: rest := by
  obtain ⟨hlt, hget⟩ := List.getElem?_eq_some_iff.1 h
  have hlength : (parts.take turn).length = turn := List.length_take_of_le (Nat.le_of_lt hlt)
  refine ⟨parts.take turn, parts.drop (turn + 1), hlength, ?_, fun next => ?_⟩
  · rw [← hget, List.getElem_cons_drop, List.take_append_drop]
  · rw [List.set_eq_take_append_cons_drop, if_pos hlt]

section Turn

variable {σ α β : Type} {act : σ → α → σ × α} {state : σ × List α} {turn : Nat}

theorem takeTurn_of_none (h : state.2[turn]? = none) : takeTurn act state turn = state := by
  rw [takeTurn, h]

theorem takeTurn_of_some {part : α} (h : state.2[turn]? = some part) :
    takeTurn act state turn = ((act state.1 part).1, state.2.set turn (act state.1 part).2) := by
  rw [takeTurn, h]

/-- One turn: nothing, or one of the parts acts and the others stay. -/
theorem takeTurn_cases (act : σ → α → σ × α) (state : σ × List α) (turn : Nat) :
    (state.2[turn]? = none ∧ takeTurn act state turn = state) ∨
    ∃ before part rest, before.length = turn ∧ state.2 = before ++ part :: rest ∧
      takeTurn act state turn =
        ((act state.1 part).1, before ++ (act state.1 part).2 :: rest) := by
  cases hpart : state.2[turn]? with
  | none => exact .inl ⟨rfl, takeTurn_of_none hpart⟩
  | some part =>
    obtain ⟨before, rest, hturn, hparts, hset⟩ := split_turn hpart
    refine .inr ⟨before, part, rest, hturn, hparts, ?_⟩
    rw [takeTurn_of_some hpart, hset]

/-- The part whose turn it is has acted, and every other one is as it was. -/
theorem getElem?_takeTurn (act : σ → α → σ × α) (state : σ × List α) (turn n : Nat) :
    (takeTurn act state turn).2[n]? =
      if turn = n then state.2[n]?.map fun part => (act state.1 part).2 else state.2[n]? := by
  cases hpart : state.2[turn]? with
  | none =>
    rw [takeTurn_of_none hpart]
    split
    · next h =>
      subst h
      rw [hpart]
      rfl
    · rfl
  | some part =>
    rw [takeTurn_of_some hpart]
    split
    · next h =>
      subst h
      rw [hpart]
      exact List.getElem?_set_self (List.getElem?_eq_some_iff.1 hpart).1
    · next h => exact List.getElem?_set_ne h

/-- What acting keeps of a part, a turn keeps of all parts. -/
theorem map_takeTurn (act : σ → α → σ × α) {f : α → β}
    (hkeeps : ∀ shared part, f (act shared part).2 = f part) (state : σ × List α) (turn : Nat) :
    (takeTurn act state turn).2.map f = state.2.map f := by
  rcases takeTurn_cases act state turn with ⟨_, hstep⟩ | ⟨before, part, rest, _, hparts, hstep⟩
  · rw [hstep]
  · rw [hstep, hparts]
    simp [hkeeps]

theorem length_takeTurn (act : σ → α → σ × α) (state : σ × List α) (turn : Nat) :
    (takeTurn act state turn).2.length = state.2.length := by
  have hmap := map_takeTurn act (f := fun _ => ()) (fun _ _ => rfl) state turn
  simpa using congrArg List.length hmap

end Turn

section Run

variable {S σ α : Type} (act : σ → α → σ × α) (step : S → Nat → S) (view : S → σ × List α)

/-- Follow a part through a schedule. If its own turn leads from what is known of it after some of
its turns to what is known after one more, and the turns of others keep what is known, then this is
known at the end, after as many turns as the schedule has for it. -/
theorem exists_part_run (hview : ∀ s turn, view (step s turn) = takeTurn act (view s) turn)
    (Known : Nat → S → α → Prop) {n : Nat}
    (hown : ∀ s part taken, (view s).2[n]? = some part → Known taken s part →
      Known (taken + 1) (step s n) (act (view s).1 part).2)
    (hother : ∀ s turn part taken, turn ≠ n → Known taken s part → Known taken (step s turn) part)
    {s : S} {part : α} {taken : Nat} (hpart : (view s).2[n]? = some part)
    (hknown : Known taken s part) (schedule : List Nat) :
    ∃ part', (view (schedule.foldl step s)).2[n]? = some part' ∧
      Known (taken + schedule.count n) (schedule.foldl step s) part' := by
  induction schedule generalizing s part taken with
  | nil => exact ⟨part, hpart, hknown⟩
  | cons turn rest ih =>
    have hturn := getElem?_takeTurn act (view s) turn n
    rw [← hview, hpart] at hturn
    by_cases h : turn = n
    · subst h
      rw [if_pos rfl] at hturn
      have hend := ih hturn (hown s part taken hpart hknown)
      rwa [Nat.add_right_comm, Nat.add_assoc, ← List.count_cons_self] at hend
    · rw [if_neg h] at hturn
      have hend := ih hturn (hother s turn part taken h hknown)
      rwa [← List.count_cons_of_ne h] at hend

end Run

end SourceTally
