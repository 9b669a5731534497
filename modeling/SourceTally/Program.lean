import SourceTally.License

/-!
# Programs

The six programs that can be deployed: five handlers of frames and the results harness.

## Main definitions

* `HandlerKind`, `ProgramKind`: which programs there are
* `Program`: what a program declares to the loader
* `ProgramKind.program`: the declarations
-/

namespace SourceTally

inductive HandlerKind where
  /-- Counts frames by source address at ingress. -/
  | source
  /-- Classifies frames at egress. -/
  | classifier
  /-- Admits stream data. -/
  | socket
  | message
  /-- Admits connections. -/
  | sockAddr
  deriving DecidableEq, Repr

/-- The programs that can be deployed. -/
inductive ProgramKind where
  | handler (kind : HandlerKind)
  /-- The harness that fills the result slots. -/
  | results
  deriving DecidableEq, Repr

/-- Where a program is attached. -/
inductive Context where
  | ingressFilter
  | egressClassifier
  | socketGate
  | messageGate
  | sockAddr
  | tracepoint
  deriving DecidableEq, Repr

def Context.name : Context → String
  | ingressFilter => "ingress-filter"
  | egressClassifier => "egress-classifier"
  | socketGate => "socket-gate"
  | messageGate => "message-gate"
  | sockAddr => "sock-addr"
  | tracepoint => "tracepoint"

structure Program where
  name : String
  /-- The section of the object file that names the hook. -/
  hook : String
  requires : Capabilities
  context : Context
  license : String := License.gpl
  deriving DecidableEq, Repr

namespace ProgramKind

def program : ProgramKind → Program
  | handler .source =>
    ⟨"filter_packets", "xdp", .sharedTableAtomics, .ingressFilter, License.gpl⟩
  | handler .classifier =>
    ⟨"classify_frames", "classifier", .none, .egressClassifier, License.gpl⟩
  | handler .socket => ⟨"sk_gate", "sk_skb/stream_verdict", .none, .socketGate, License.gpl⟩
  | handler .message => ⟨"msg_gate", "sk_msg", .none, .messageGate, License.gpl⟩
  | handler .sockAddr => ⟨"sock_addr_gate", "cgroup/connect4", .none, .sockAddr, License.gpl⟩
  | results =>
    ⟨"tp_execve_vars", "tracepoint/syscalls/sys_enter_execve", .resultSlots, .tracepoint,
      License.gpl⟩

/-- All programs, in the order in which they are checked. -/
def all : List ProgramKind :=
  [handler .source, handler .classifier, handler .socket, handler .message, handler .sockAddr,
    results]

end ProgramKind

def HandlerKind.program (kind : HandlerKind) : Program := (ProgramKind.handler kind).program

def Program.check (program : Program) (license : String) : Except CapabilityError Unit :=
  checkLicense program.name license program.requires

end SourceTally
