/-!
# Parts that take turns

Several parts work on something that they share, one turn at a time. A schedule tells which part
takes the next turn; what a part does in its turn is given as a function.

## Main definitions

* `takeTurn`: one turn of one part
-/

namespace SourceTally

/-- One turn of the part with the given number, which acts on what the parts share. Nothing happens
if there is none. -/
def takeTurn {σ α : Type} (act : σ → α → σ × α) (state : σ × List α) (turn : Nat) : σ × List α :=
  match state.2[turn]? with
  | none => state
  | some part =>
    let (shared, part) := act state.1 part
    (shared, state.2.set turn part)

end SourceTally
