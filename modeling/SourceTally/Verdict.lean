import SourceTally.Frame.Field
import SourceTally.Table.Basic

/-!
# Verdicts and invocations

Each attachment context has verdicts of its own, so a handler cannot answer with a code that means
nothing where it runs. A frame too short to parse passes through; a parsed frame continues,
whatever the counting table said. An invocation decides once and keeps its verdict.

## Main definitions

* `Verdict`: what the contexts have in common
* `XdpAction`, `TcAction`, `SkAction`, `SockAddrAction`: the verdicts of the four contexts
* `dispatch`: verdict by parse and count
* `Invocation.run`: read, count, decide, at most once
-/

namespace SourceTally

/-- A set of verdicts understood by one attachment context. -/
class Verdict (V : Type) where
  /-- The verdict for a frame too short to parse. -/
  passThrough : V
  /-- The verdict for a parsed frame. -/
  proceed : V
  /-- The code returned to the caller. -/
  raw : V → Int
  /-- The code's name. -/
  name : V → String
  /-- The verdict as a printed stage shows it. -/
  label : V → String
  /-- Every verdict, in order. -/
  all : List V

/-- Verdicts of the ingress filter. -/
inductive XdpAction where
  | aborted
  | drop
  | pass
  | tx
  | redirect
  deriving DecidableEq, Repr

instance : Verdict XdpAction where
  passThrough := .pass
  proceed := .pass
  raw
    | .aborted => 0
    | .drop => 1
    | .pass => 2
    | .tx => 3
    | .redirect => 4
  name
    | .aborted => "XDP_ABORTED"
    | .drop => "XDP_DROP"
    | .pass => "XDP_PASS"
    | .tx => "XDP_TX"
    | .redirect => "XDP_REDIRECT"
  label
    | .aborted => "Aborted"
    | .drop => "Drop"
    | .pass => "Pass"
    | .tx => "Tx"
    | .redirect => "Redirect"
  all := [.aborted, .drop, .pass, .tx, .redirect]

/-- Verdicts of the egress classifier. -/
inductive TcAction where
  | unspec
  | ok
  | shot
  deriving DecidableEq, Repr

instance : Verdict TcAction where
  passThrough := .ok
  proceed := .ok
  raw
    | .unspec => -1
    | .ok => 0
    | .shot => 2
  name
    | .unspec => "TC_ACT_UNSPEC"
    | .ok => "TC_ACT_OK"
    | .shot => "TC_ACT_SHOT"
  label
    | .unspec => "Unspec"
    | .ok => "Ok"
    | .shot => "Shot"
  all := [.unspec, .ok, .shot]

/-- Verdicts of the socket and message gates. -/
inductive SkAction where
  | drop
  | pass
  deriving DecidableEq, Repr

instance : Verdict SkAction where
  passThrough := .pass
  proceed := .pass
  raw
    | .drop => 0
    | .pass => 1
  name
    | .drop => "SK_DROP"
    | .pass => "SK_PASS"
  label
    | .drop => "Drop"
    | .pass => "Pass"
  all := [.drop, .pass]

/-- Verdicts of the connection gate. -/
inductive SockAddrAction where
  | reject
  | allow
  deriving DecidableEq, Repr

instance : Verdict SockAddrAction where
  passThrough := .allow
  proceed := .allow
  raw
    | .reject => 0
    | .allow => 1
  name
    | .reject => "SOCK_ADDR_REJECT"
    | .allow => "SOCK_ADDR_ALLOW"
  label
    | .reject => "Reject"
    | .allow => "Allow"
  all := [.reject, .allow]

/-- The verdict after a parse and, for handlers that count, a count. Counting never decides. -/
def dispatch {V : Type} [Verdict V] (read : Except Shortage Unit) (_lookup : Option Increment) :
    V :=
  match read with
  | .error _ => Verdict.passThrough
  | .ok () => Verdict.proceed

/-- How far an invocation is. -/
inductive Stage (V : Type) where
  | parsing
  | done (verdict : V)
  deriving DecidableEq, Repr

/-- One invocation: it parses until it is first run, and then it is done. -/
structure Invocation (V : Type) where
  stage : Stage V := .parsing
  deriving DecidableEq, Repr

namespace Invocation

variable {V α : Type} {m : Type → Type}

def isDone (inv : Invocation V) : Bool :=
  match inv.stage with
  | .parsing => false
  | .done _ => true

/-- Read, count what was read, and decide. A short read counts nothing; an invocation that is done
answers its verdict again and does nothing else. -/
def run [Monad m] [Verdict V] (inv : Invocation V) (read : m (Except Shortage α))
    (count : α → m (Option Increment)) : m (V × Invocation V) := do
  match inv.stage with
  | .done verdict => return (verdict, inv)
  | .parsing =>
    let verdict : V ← do
      match ← read with
      | .error short => pure (dispatch (.error short) none)
      | .ok field => do
        let lookup ← count field
        pure (dispatch (.ok ()) lookup)
    return (verdict, ⟨.done verdict⟩)

end Invocation

def Stage.description {V : Type} [Verdict V] : Stage V → String
  | .parsing => "Parsing"
  | .done verdict => "Done(" ++ Verdict.label verdict ++ ")"

def Invocation.description {V : Type} [Verdict V] (inv : Invocation V) : String :=
  "Invocation \x7b stage: " ++ inv.stage.description ++ " \x7d"

end SourceTally
