import SourceTally.Agent.KernelVersion
import SourceTally.Error
import SourceTally.Kernel.Host
import SourceTally.Text.Column
import SourceTally.Text.Utf8

/-!
# Errors of the agent

An error of the agent says what it was about to do and, where that is known, why it could not.

## Main definitions

* `Agent.Activity`: what the agent was about to do
* `Agent.Error`: what can go wrong
* `Agent.Error.chain`: its texts, from the outermost to the innermost
-/

namespace SourceTally.Agent

/-- What the agent was about to do when a call to the kernel failed. -/
inductive Activity where
  | loadCounter
  | loadHarness
  | writePolicy
  | seed (addr : Address)
  | attachCounter (iface : String)
  | attachHarness
  deriving DecidableEq, Repr

def Activity.message : Activity → String
  | loadCounter => "Failed to load source counter"
  | loadHarness => "Failed to load results harness"
  | writePolicy => "Failed to write insert policy"
  | seed addr => "Failed to seed " ++ addr.text
  | attachCounter iface => "Failed to attach to " ++ iface
  | attachHarness => "Failed to attach to " ++ Kernel.tracepoint

inductive Error where
  /-- The configuration cannot be read or is not valid. -/
  | plane (error : SourceTally.Error)
  /-- The kernel version cannot be asked for. -/
  | noVersion (fault : FileFault)
  /-- The kernel version is no text. -/
  | versionBytes (fault : Utf8.Fault)
  | version (fault : KernelVersion.Fault)
  | tooOld (release : String)
  | capability (cause : CapabilityError)
  | noMap (name : Kernel.MapName)
  /-- A map is missing, but there are others. -/
  | noMapAmong (name : Kernel.MapName) (available : List Kernel.MapName)
  | noProgram (program : ProgramKind)
  | kernel (fault : Kernel.Fault)
  | during (activity : Activity) (fault : Kernel.Fault)
  deriving DecidableEq, Repr

namespace Error

/-- The texts of an error of the plane, from the outermost to the innermost. -/
def planeChain (e : SourceTally.Error) : List String :=
  match e with
  | .file fault => [e.message, fault.message]
  | .yaml fault => [e.message, fault.message]
  | .capability cause => [e.message, cause.message]
  | _ => [e.message]

/-- The texts of an error, from the outermost to the innermost. -/
def chain : Error → List String
  | plane e => planeChain e
  | noVersion fault => ["Failed to get kernel version", fault.message]
  | versionBytes fault => [fault.message]
  | version (.noDot text) => ["Could not parse kernel version: " ++ text]
  | version (.major cause) => ["Invalid kernel major version", cause.message]
  | version (.minor cause) => ["Invalid kernel minor version", cause.message]
  | tooOld release => ["Kernel " ++ release ++ " is too old. hostcount requires kernel 5.8+"]
  | capability cause => [cause.message]
  | noMap name => [name.text ++ " map not found in eBPF object"]
  | noMapAmong name available =>
    [name.text ++ " map not found in eBPF object. Available maps: " ++
      Text.quoteList (available.map (·.text))]
  | noProgram program => [program.program.name ++ " not found in eBPF object"]
  | kernel fault => [fault.message]
  | during activity fault => [activity.message, fault.message]

def outermost (e : Error) : String := e.chain.headD ""

/-- All texts in one line. -/
def message (e : Error) : String := ": ".intercalate e.chain

/-- All texts as the report of a process that ends with the error. -/
def report (e : Error) : List String :=
  match e.chain with
  | [] => []
  | outer :: causes =>
    ("Error: " ++ outer) ::
      (if causes.isEmpty then []
      else ["", "Caused by:"] ++ causes.map fun cause => "    " ++ Text.indented cause)

end Error

end SourceTally.Agent
