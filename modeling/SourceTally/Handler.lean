import SourceTally.Program
import SourceTally.Verdict

/-!
# Handlers

Each handler runs one invocation per frame: read what it needs, count if it counts, and decide.
Only the source counter touches the counting table.

## Main definitions

* `Outcome`, `Observation`: what happened inside an invocation
* `AnyVerdict`: a verdict of any context
* `HandlerKind.observe`: one invocation of a handler
-/

namespace SourceTally

/-- What happened inside an invocation, besides the verdict. -/
inductive Outcome where
  /-- The frame was too short, and nothing was counted. -/
  | insufficientData
  /-- The frame was parsed by a handler that does not count. -/
  | parsed
  /-- The frame was parsed and its source was looked up. -/
  | counted (result : Increment)
  deriving DecidableEq, Repr

inductive AnyVerdict where
  | xdp (verdict : XdpAction)
  | tc (verdict : TcAction)
  | sk (verdict : SkAction)
  | sockAddr (verdict : SockAddrAction)
  deriving DecidableEq, Repr

namespace AnyVerdict

def name : AnyVerdict → String
  | xdp v => Verdict.name v
  | tc v => Verdict.name v
  | sk v => Verdict.name v
  | sockAddr v => Verdict.name v

/-- The verdict's code. -/
def raw : AnyVerdict → Int
  | xdp v => Verdict.raw v
  | tc v => Verdict.raw v
  | sk v => Verdict.raw v
  | sockAddr v => Verdict.raw v

/-- The verdict as a printed stage shows it. -/
def label : AnyVerdict → String
  | xdp v => Verdict.label v
  | tc v => Verdict.label v
  | sk v => Verdict.label v
  | sockAddr v => Verdict.label v

end AnyVerdict

/-- The verdict and outcome of one invocation. -/
structure Observation where
  verdict : AnyVerdict
  outcome : Outcome
  deriving DecidableEq, Repr

/-- One invocation of a handler that counts: the key that was read is counted in the state. -/
def countingInvocation {V σ : Type} [Verdict V] (read : Except Shortage UInt32)
    (count : UInt32 → σ → Increment × σ) (state : σ) : (V × Outcome) × σ :=
  let readM : StateM (Outcome × σ) (Except Shortage UInt32) := pure read
  let countM := fun (key : UInt32) => do
    let (_, state) ← get
    let (result, state) := count key state
    set (Outcome.counted result, state)
    return some result
  let ((verdict, _), outcome, state) :=
    (Invocation.run ({} : Invocation V) readM countM).run (Outcome.insufficientData, state)
  ((verdict, outcome), state)

/-- One invocation of a handler that only checks the frame. -/
def checkingInvocation {V : Type} [Verdict V] (read : Except Shortage Unit) : V × Outcome :=
  let countM := fun (_ : Unit) => do
    set Outcome.parsed
    return (none : Option Increment)
  let ((verdict, _), outcome) :=
    (Invocation.run ({} : Invocation V) (pure read : StateM Outcome _) countM).run
      Outcome.insufficientData
  (verdict, outcome)

section Equations

variable {V σ : Type} [Verdict V]

@[simp]
theorem countingInvocation_error (short : Shortage) (count : UInt32 → σ → Increment × σ)
    (state : σ) :
    countingInvocation (V := V) (.error short) count state =
      ((Verdict.passThrough, .insufficientData), state) := rfl

@[simp]
theorem countingInvocation_ok (key : UInt32) (count : UInt32 → σ → Increment × σ) (state : σ) :
    countingInvocation (V := V) (.ok key) count state =
      ((Verdict.proceed, .counted (count key state).1), (count key state).2) := rfl

@[simp]
theorem checkingInvocation_error (short : Shortage) :
    checkingInvocation (V := V) (.error short) =
      (Verdict.passThrough, .insufficientData) := rfl

@[simp]
theorem checkingInvocation_ok :
    checkingInvocation (V := V) (.ok ()) = (Verdict.proceed, .parsed) := rfl

end Equations

namespace HandlerKind

variable {N : Nat} [HasSlots N]

def observe (kind : HandlerKind) (frame : Frame) (table : CountingTable N) :
    Observation × CountingTable N :=
  match kind with
  | source =>
    let ((verdict, outcome), table) :=
      countingInvocation (V := XdpAction) frame.sourceKey (fun key t => t.increment key) table
    (⟨.xdp verdict, outcome⟩, table)
  | classifier =>
    let (verdict, outcome) := checkingInvocation (frame.require Field.ethernetHeader.toUInt64)
    (⟨.tc verdict, outcome⟩, table)
  | socket =>
    let (verdict, outcome) := checkingInvocation (frame.require 1)
    (⟨.sk verdict, outcome⟩, table)
  | message =>
    let (verdict, outcome) := checkingInvocation (.ok ())
    (⟨.sk verdict, outcome⟩, table)
  | sockAddr =>
    let (verdict, outcome) := checkingInvocation (.ok ())
    (⟨.sockAddr verdict, outcome⟩, table)

end HandlerKind

end SourceTally
