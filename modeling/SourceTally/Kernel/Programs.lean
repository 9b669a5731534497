import SourceTally.Handler
import SourceTally.Kernel.Maps

/-!
# Kernel programs

The programs that the kernel runs per packet, socket event or system call. They compare addresses
where the handlers compare lengths, and count in a kernel map where the handlers use the counting
table.

## Main definitions

* `Kernel.Packet`: the bytes of a packet and the address of the first one
* `Kernel.Conditions`: what may happen to a program while it runs
* `Kernel.countSource`: counting one key
* `Kernel.Entry`, `Kernel.Entry.run`: the programs
-/

namespace SourceTally.Kernel

structure Packet where
  /-- Address of the first byte. -/
  data : UInt64
  bytes : Frame
  deriving DecidableEq, Repr

namespace Packet

/-- A frame placed where the kernel puts frames that it is given. -/
def ofFrame (frame : Frame) : Packet := ⟨0x1000, frame⟩

/-- Address behind the last byte. -/
def dataEnd (packet : Packet) : UInt64 := packet.data + packet.bytes.length.toUInt64

/-- Number of bytes between the two addresses. -/
def available (packet : Packet) : Nat := packet.dataEnd.toNat - packet.data.toNat

/-- The key of the packet's source, if the packet reaches that far. -/
def sourceKey (packet : Packet) : Except Shortage UInt32 :=
  let field := Field.source
  if Span.packetFits packet.data packet.dataEnd field.offset field.width.bytes.toUInt64 then
    .ok (littleEndian ((packet.bytes.drop field.offset.toNat).take field.width.bytes)).toUInt32
  else
    .error ⟨field.needed, packet.available⟩

/-- Check that there is an Ethernet header. -/
def ethernetHeader (packet : Packet) : Except Shortage Unit :=
  if Span.packetFits packet.data packet.dataEnd 0 Field.ethernetHeader.toUInt64 then .ok ()
  else .error ⟨Field.ethernetHeader, packet.bytes.length⟩

end Packet

/-- What may happen to a program while it runs. A program checks every lookup and every insertion,
and these are the two cases that it meets only if something else went on: the branches that handle
them are run under these conditions. By default neither occurs. Runs that share the map in any order
are those of `Kernel.Atomic`. -/
structure Conditions where
  /-- Just before a program inserts a key, another processor inserts the same key with count one. It
  stands for the smallest race: one insertion between a program's lookup and its own. -/
  race : Bool := false
  /-- No array can be looked up. It stands for a lookup that finds nothing, which a program has to
  expect of any array, and after which it goes on with the cautious policy or stores no results. -/
  noArrays : Bool := false
  deriving DecidableEq, Repr

def insertPolicy (conditions : Conditions) (maps : Maps) : InsertPolicy :=
  if conditions.noArrays then .lookupOnly
  else
    match maps.control[policySlot]? with
    | some word => InsertPolicy.ofRaw word
    | none => .lookupOnly

/-- The counters as another processor may leave them just before an insertion. -/
def disturbed (conditions : Conditions) (key : UInt32) (counters : BoundedMap counterCapacity) :
    BoundedMap counterCapacity :=
  if conditions.race then (counters.insertNew? key 1).getD counters else counters

/-- Count a key that is present, or report that it is not. -/
def countPresent (key : UInt32) (maps : Maps) : Increment × Maps :=
  match maps.counters.get? key with
  | some count =>
    let (result, counters) := maps.counters.bump key count
    (result, { maps with counters })
  | none => (.notFound, maps)

/-- Count a key. A key that is absent is inserted if the policy says so; when the insertion is
refused, the key may have come in between, and is then counted. -/
def countSource (conditions : Conditions) (key : UInt32) (maps : Maps) : Increment × Maps :=
  match maps.counters.get? key with
  | some _ => countPresent key maps
  | none =>
    match insertPolicy conditions maps with
    | .lookupOnly => (.notFound, maps)
    | .lookupOrInsert =>
      let counters := disturbed conditions key maps.counters
      match counters.insertNew? key 1 with
      | some counters => (.inserted, { maps with counters })
      | none => countPresent key { maps with counters }

def harnessOperands : UInt64 × UInt64 := (10, 20)

/-- Compute the results and store them. -/
def storeResults (conditions : Conditions) (maps : Maps) : Maps :=
  if conditions.noArrays then maps
  else
    { maps with
      results :=
        (Arithmetic.compute harnessOperands.1 harnessOperands.2).storeInto maps.results }

/-- The programs, by their entry points. -/
inductive Entry where
  | filterPackets
  | classifyFrames
  | skGate
  | cgroupGate
  | msgGate
  | sockAddrGate
  | tpExecveVars
  deriving DecidableEq, Repr

/-- The license texts in the four object files, each ended by a zero byte. They are data for the
kernel, which reads them when it loads a file; no program reads them. -/
def licenseTexts : List String := List.replicate 4 (License.gpl ++ "\x00")

/-- The code of a verdict and what the invocation counted. -/
def filterPackets (conditions : Conditions) (packet : Packet) (maps : Maps) :
    (XdpAction × Outcome) × Maps :=
  countingInvocation (V := XdpAction) packet.sourceKey (countSource conditions) maps

/-- Run a program and answer its code. -/
def Entry.run (conditions : Conditions) (packet : Packet) (maps : Maps) : Entry → Int × Maps
  | .filterPackets =>
    let ((verdict, _), maps) := Kernel.filterPackets conditions packet maps
    (Verdict.raw verdict, maps)
  | .classifyFrames =>
    (Verdict.raw (checkingInvocation (V := TcAction) packet.ethernetHeader).1, maps)
  | .skGate | .cgroupGate =>
    (Verdict.raw (checkingInvocation (V := SkAction) (packet.bytes.require 1)).1, maps)
  | .msgGate => (Verdict.raw (checkingInvocation (V := SkAction) (.ok ())).1, maps)
  | .sockAddrGate => (Verdict.raw (checkingInvocation (V := SockAddrAction) (.ok ())).1, maps)
  | .tpExecveVars => (0, storeResults conditions maps)

end SourceTally.Kernel
