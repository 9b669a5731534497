import SourceTally.Kernel.Programs
import SourceTally.Program

/-!
# The kernel as seen by a loader

A loader loads object files, looks up their maps and programs, writes maps and attaches programs.
Any of these calls may fail: which ones do, and with what text, is up to a script. Frames and system
calls that the script holds arrive as soon as a program is attached that handles them.

## Main definitions

* `Kernel.Call`, `Kernel.Fault`: calls to the kernel and how they fail
* `Kernel.Script`: what the kernel will do
* `Kernel.Host`: the kernel with its maps and attachments
* `Kernel.ObjectFile`: the two object files
-/

namespace SourceTally.Kernel

/-- Calls that a script can make fail. -/
inductive Call where
  | loadCounter
  | loadHarness
  | loadProgram
  | attachNative
  | attachSkb
  | attachTracepoint
  | insertKey
  | setWord
  | getWord
  | readEntry
  deriving DecidableEq, Repr

/-- Why a call failed. -/
inductive Fault where
  | scripted (text : String)
  | wrongType
  | alreadyLoaded
  | mapFull
  | noSuchSlot
  deriving DecidableEq, Repr

def Fault.message : Fault → String
  | scripted text => text
  | wrongType => "unexpected program type"
  | alreadyLoaded => "the program is already loaded"
  | mapFull => "the map is full"
  | noSuchSlot => "the index is out of bounds"

inductive ObjectFile where
  | counter
  | harness
  deriving DecidableEq, Repr

/-- The maps of an object file, in their order there. -/
def ObjectFile.maps : ObjectFile → List MapName
  | counter => [.counters, .control]
  | harness => [.results]

def ObjectFile.program : ObjectFile → ProgramKind
  | counter => .handler .source
  | harness => .results

/-- What the kernel will do. -/
structure Script where
  /-- Calls that fail, with the text of the failure. -/
  faults : List (Call × String) := []
  /-- Names of maps and programs that are missing from the object files. -/
  hidden : List String := []
  /-- Whether every program turns out to be of another type. -/
  wrongType : Bool := false
  /-- Frames that arrive when the source counter is attached. -/
  packets : List Frame := []
  /-- Number of system calls made when the results harness is attached. -/
  execves : Nat := 0
  deriving DecidableEq, Repr

namespace Script

/-- Let a call fail if the script says so. -/
def permit (script : Script) (call : Call) : Except Fault Unit :=
  match script.faults.find? (·.1 = call) with
  | some (_, text) => .error (.scripted text)
  | none => .ok ()

/-- Whether a name is to be found in the object files. -/
def shows (script : Script) (name : String) : Bool := !script.hidden.contains name

def mapsOf (script : Script) (file : ObjectFile) : List MapName :=
  file.maps.filter fun map => script.shows map.text

end Script

/-- How a counter is attached to an interface. -/
inductive Mode where
  /-- By the driver of the interface. -/
  | native
  /-- On packets that the kernel has already received. -/
  | skb
  deriving DecidableEq, Repr

inductive Attachment where
  | counter (iface : String) (mode : Mode)
  | harness
  deriving DecidableEq, Repr

/-- The attachment point of the results harness. -/
def tracepoint : String := "syscalls/sys_enter_execve"

def Attachment.text : Attachment → String
  | counter iface .native => "xdp " ++ iface ++ " native"
  | counter iface .skb => "xdp " ++ iface ++ " skb"
  | harness => "tracepoint " ++ tracepoint

/-- What has been done to the kernel. An attached counter is noted with the maps it found. -/
inductive Event where
  | wroteWord (slot : Nat) (word : UInt32)
  | insertedKey (key : UInt32)
  | attachedCounter (mode : Mode) (maps : Maps)
  | attachedHarness
  deriving DecidableEq, Repr

/-- The kernel. -/
structure Host where
  script : Script := {}
  maps : Maps := {}
  /-- Whether the program of the source counter is loaded. -/
  counterLoaded : Bool := false
  attachments : List Attachment := []
  /-- Writes and attachments so far, in order. -/
  events : List Event := []
  deriving DecidableEq, Repr

namespace Host

/-- Whether the source counter is attached. -/
def countsPackets (host : Host) : Bool :=
  host.attachments.any fun attachment =>
    match attachment with
    | .counter _ _ => true
    | .harness => false

def tracesCalls (host : Host) : Bool := host.attachments.contains .harness

def runEntry (host : Host) (entry : Entry) (frame : Frame) : Int × Host :=
  let (code, maps) := entry.run {} (.ofFrame frame) host.maps
  (code, { host with maps })

/-- Let a frame arrive, and answer the code of the source counter. -/
def receive (host : Host) (frame : Frame) : Option Int × Host :=
  if host.countsPackets then
    let (code, host) := host.runEntry .filterPackets frame
    (some code, host)
  else
    (none, host)

/-- Let a system call be made, and answer the code of the results harness. -/
def execute (host : Host) : Option Int × Host :=
  if host.tracesCalls then
    let (code, host) := host.runEntry .tpExecveVars []
    (some code, host)
  else
    (none, host)

/-- Let several frames arrive. -/
def receiveAll (host : Host) (frames : List Frame) : Host :=
  frames.foldl (fun host frame => (host.receive frame).2) host

/-- Let several system calls be made. -/
def executeAll (host : Host) : Nat → Host
  | 0 => host
  | n + 1 => executeAll host.execute.2 n

/-- Load an object file. The counter brings its maps empty and its program not loaded. -/
def load (host : Host) : ObjectFile → Except Fault Host
  | .counter => do
    host.script.permit .loadCounter
    return { host with maps := { results := host.maps.results }, counterLoaded := false }
  | .harness => do
    host.script.permit .loadHarness
    return host

/-- Write a control word. -/
def setWord (host : Host) (slot : Nat) (word : UInt32) : Except Fault Host := do
  host.script.permit .setWord
  match host.maps.setControl? slot word with
  | some maps => return { host with maps, events := host.events ++ [.wroteWord slot word] }
  | none => throw .noSuchSlot

/-- Insert a key with count zero, or set its count back to zero. -/
def insertKey (host : Host) (key : UInt32) : Except Fault Host := do
  host.script.permit .insertKey
  match host.maps.counters.set? key 0 with
  | some counters =>
    return { host with
      maps := { host.maps with counters }
      events := host.events ++ [.insertedKey key] }
  | none => throw .mapFull

/-- Load the program of an object file. That of the counter can be loaded once; a harness comes from
an object file of its own each time. -/
def loadProgram (host : Host) : ObjectFile → Except Fault Host
  | .counter => do
    if host.counterLoaded then throw .alreadyLoaded
    host.script.permit .loadProgram
    return { host with counterLoaded := true }
  | .harness => do
    host.script.permit .loadProgram
    return host

/-- Attach the source counter; the frames of the script arrive at once. -/
def attachCounter (host : Host) (iface : String) (mode : Mode) : Except Fault Host := do
  host.script.permit (match mode with
    | .native => .attachNative
    | .skb => .attachSkb)
  let attached : Host := { host with
    attachments := host.attachments ++ [.counter iface mode]
    events := host.events ++ [.attachedCounter mode host.maps] }
  return attached.receiveAll host.script.packets

/-- Attach the results harness with zero results; the system calls of the script are made at once.
It takes the place of a harness that was attached before. -/
def attachHarness (host : Host) : Except Fault Host := do
  host.script.permit .attachTracepoint
  let attached : Host := { host with
    maps := { host.maps with results := .zero resultsCapacity }
    attachments := host.attachments.filter (· ≠ .harness) ++ [.harness]
    events := host.events ++ [.attachedHarness] }
  return attached.executeAll host.script.execves

/-- Read all counters; reading any entry may fail. -/
def readCounters (host : Host) : Except Fault (List (UInt32 × UInt64)) := do
  if !host.maps.counters.entries.isEmpty then host.script.permit .readEntry
  return host.maps.counters.entries

def readResult (host : Host) (slot : ResultSlot) : Except Fault UInt64 := do
  host.script.permit .getWord
  match host.maps.results.load? slot.index with
  | some value => return value
  | none => throw .noSuchSlot

/-- Drop all object files, which detaches their programs. -/
def unload (host : Host) : Host := { host with attachments := [] }

end Host

end SourceTally.Kernel
