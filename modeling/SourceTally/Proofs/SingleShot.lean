import SourceTally.Verdict

/-!
# An invocation decides once

An invocation can be run again and again, each time with another way to read and to count. Only
the first time matters: what it reads and counts then is all that is ever done, and every later run
answers the same verdict. This holds for effects of any kind, so it is stated for any monad, in
which each call notes when its read and its count are asked for.

## Main definitions

* `Invocation.Call`: a way to read and to count
* `Invocation.runAll`: run an invocation once for each call
* `Invocation.Event`, `Invocation.noted`: what is asked of calls, and calls that note it
* `Invocation.Call.counting`: a call that counts in a state

## Main statements

* `Invocation.runAll_done`: an invocation that is done does nothing more
* `Invocation.runAll_cons`: an invocation does what its first call does
* `Invocation.runAll_single_shot`: what is asked of calls, answered to them, and counted
-/

namespace SourceTally.Invocation

variable {V : Type} {m : Type → Type}

/-- A way to read a field and to count it. -/
structure Call (m : Type → Type) where
  Field : Type
  read : m (Except Shortage Field)
  count : Field → m (Option Increment)

/-- Run an invocation once for each call. The answers are its verdicts, each with the stage that the
invocation is in afterwards. -/
def runAll [Monad m] [Verdict V] (inv : Invocation V) : List (Call m) → m (List (V × Stage V))
  | [] => pure []
  | call :: rest => do
    let (verdict, inv) ← inv.run call.read call.count
    let more ← inv.runAll rest
    return (verdict, inv.stage) :: more

/-- What is asked of calls, by the position of the call. -/
inductive Event (calls : Nat → Call m) where
  | read (i : Nat)
  | count (i : Nat) (field : (calls i).Field)

/-- The call at a position. It does what it would do anyway, and notes it first. -/
def noting [Monad m] (calls : Nat → Call m) (i : Nat) : Call (StateT (List (Event calls)) m) where
  Field := (calls i).Field
  read := do
    modify (· ++ [.read i])
    (calls i).read
  count field := do
    modify (· ++ [.count i field])
    (calls i).count field

/-- The first `n` calls, each of them noting what is asked of it. -/
def noted [Monad m] (calls : Nat → Call m) (n : Nat) :
    List (Call (StateT (List (Event calls)) m)) :=
  (List.range n).map (noting calls)

/-- A call that has a given thing to read and counts in a state. -/
def Call.counting {σ : Type} (read : Except Shortage UInt32)
    (count : UInt32 → σ → Increment × σ) : Call (StateM σ) where
  Field := UInt32
  read := pure read
  count key := do
    let (result, state) := count key (← get)
    set state
    return some result

section Runs

variable [Monad m] [Verdict V]

theorem run_done (verdict : V) (call : Call m) :
    (⟨.done verdict⟩ : Invocation V).run call.read call.count =
      pure (verdict, ⟨.done verdict⟩) := rfl

variable [LawfulMonad m]

/-- Counting never decides, so its answer is dropped. -/
theorem run_parsing (call : Call m) : ({} : Invocation V).run call.read call.count = do
    match ← call.read with
    | .error _ => return (Verdict.passThrough, ⟨.done Verdict.passThrough⟩)
    | .ok field =>
      let _ ← call.count field
      return (Verdict.proceed, ⟨.done Verdict.proceed⟩) := by
  simp only [run]
  congr 1
  funext read
  cases read with
  | error short => simp [dispatch]
  | ok field => simp [dispatch]

/-- An invocation that is done answers every call alike and does nothing. -/
theorem runAll_done (verdict : V) (calls : List (Call m)) :
    (⟨.done verdict⟩ : Invocation V).runAll calls =
      pure (List.replicate calls.length (verdict, .done verdict)) := by
  induction calls with
  | nil => rfl
  | cons call rest ih => simp [runAll, run_done, ih, List.replicate_succ]

/-- An invocation does what its first call does, and nothing else. -/
theorem runAll_cons (first : Call m) (rest : List (Call m)) :
    ({} : Invocation V).runAll (first :: rest) = do
      match ← first.read with
      | .error _ =>
        return List.replicate (rest.length + 1)
          (Verdict.passThrough, .done Verdict.passThrough)
      | .ok field =>
        let _ ← first.count field
        return List.replicate (rest.length + 1) (Verdict.proceed, .done Verdict.proceed) := by
  rw [runAll, run_parsing, bind_assoc]
  congr 1
  funext read
  cases read with
  | error short => simp [runAll_done, List.replicate_succ]
  | ok field => simp [runAll_done, List.replicate_succ]

end Runs

/-- An invocation that has not been run is parsing. For calls with any effects, in whatever number,
the first one is asked to read; if that succeeds it is asked to count just what was read, and
nothing else is asked of it or of the others. Each call is answered the same verdict, which is the
one the invocation then stays with: that for short frames if the first read failed, and the other
one otherwise, whatever was counted. So of calls that count in a state at most the first one
counts. -/
theorem runAll_single_shot [Monad m] [LawfulMonad m] [Verdict V] :
    ({} : Invocation V).stage = .parsing ∧
    (∀ (calls : Nat → Call m) (n : Nat),
      (({} : Invocation V).runAll (noted calls (n + 1))).run [] = do
        match ← (calls 0).read with
        | .error _ =>
          return (List.replicate (n + 1) (Verdict.passThrough, .done Verdict.passThrough),
            [.read 0])
        | .ok field =>
          let _ ← (calls 0).count field
          return (List.replicate (n + 1) (Verdict.proceed, .done Verdict.proceed),
            [.read 0, .count 0 field])) ∧
    ∀ (σ : Type) (state : σ) (read : Except Shortage UInt32)
      (count : UInt32 → σ → Increment × σ) (rest : List (Call (StateM σ))),
      ((({} : Invocation V).runAll (.counting read count :: rest)).run state).2 =
        match read with
        | .error _ => state
        | .ok key => (count key state).2 := by
  refine ⟨rfl, ?_, ?_⟩
  · intro calls n
    rw [noted, List.range_succ_eq_map, List.map_cons, runAll_cons]
    simp only [noting, bind_assoc, StateT.run_bind, StateT.run_modify, StateT.run_monadLift,
      pure_bind, List.nil_append, List.length_map, List.length_range]
    refine bind_congr fun read => ?_
    cases read with
    | error short => simp
    | ok field => simp
  · intro σ state read count rest
    rw [runAll_cons]
    cases read with
    | error short => rfl
    | ok key => rfl

/-- In a context that drops short frames, with a frame that is short at the second of three calls
only. Run from the first call the invocation counts once, and from the second one not at all. -/
theorem runAll_single_shot_changing_frame :
    let _ : Verdict SkAction := { (inferInstance : Verdict SkAction) with passThrough := .drop }
    let reads : Nat → Except Shortage UInt32 := fun i => if i = 1 then .error ⟨30, 12⟩ else .ok 7
    let calls : Nat → Nat → Call (StateM (List UInt32)) := fun start i =>
      .counting (reads (start + i)) fun key keys => (.inserted, key :: keys)
    LawfulMonad (StateM (List UInt32)) ∧
      ((({} : Invocation SkAction).runAll (noted (calls 0) 3)).run []).run [] =
        (([(.pass, .done .pass), (.pass, .done .pass), (.pass, .done .pass)],
          [.read 0, .count 0 (7 : UInt32)]), [7]) ∧
      ((({} : Invocation SkAction).runAll (noted (calls 1) 2)).run []).run [] =
        (([(.drop, .done .drop), (.drop, .done .drop)], [.read 0]), []) := by
  intro _ reads calls
  have hruns := (runAll_single_shot (V := SkAction) (m := StateM (List UInt32))).2.1
  refine ⟨inferInstance, ?_, ?_⟩
  · rw [hruns]
    rfl
  · rw [hruns]
    rfl

end SourceTally.Invocation
