import SourceTally.Frame.Bounds

/-!
# Reading fields of a frame

A frame is the bytes of one packet. A field is a number of one, two, four or eight bytes at a
fixed offset, least significant byte first. A field is read only if all of it lies inside the
frame; otherwise the answer says how long the frame would have to be.

## Main definitions

* `Width`, `Field`: what can be read
* `Shortage`: the frame is too short
* `Frame.read`, `Frame.require`: the two checked accesses
* `Field.source`: the source address of an IPv4 packet in an Ethernet frame
-/

namespace SourceTally

/-- The bytes of one packet. -/
abbrev Frame := List UInt8

/-- How many bytes a field takes. -/
inductive Width where
  | one
  | two
  | four
  | eight
  deriving DecidableEq, Repr

namespace Width

def bytes : Width → Nat
  | one => 1
  | two => 2
  | four => 4
  | eight => 8

end Width

/-- A number at a fixed place of a frame. -/
structure Field where
  /-- Distance of the first byte from the start of the frame. -/
  offset : UInt64
  /-- Number of bytes. -/
  width : Width
  deriving DecidableEq, Repr

/-- A frame that ends before the bytes that were asked for. -/
structure Shortage where
  /-- Length the frame would need. -/
  needed : Nat
  /-- Length the frame has. -/
  available : Nat
  deriving DecidableEq, Repr

/-- The largest address, at which lengths stop growing. -/
def lastAddress : Nat := UInt64.size - 1

namespace Field

/-- The shortest length of a frame that holds the field, at most the last address. -/
def needed (field : Field) : Nat :=
  min (field.offset.toNat + field.width.bytes) lastAddress

def ethernetHeader : Nat := 14

/-- Offset of the source address: the Ethernet header and twelve bytes of the IPv4 header. -/
def sourceOffset : Nat := ethernetHeader + 12

/-- The IPv4 source address as a word. -/
def source : Field := ⟨sourceOffset.toUInt64, .four⟩

/-- The shortest frame whose source can be counted. -/
def minSourceFrame : Nat := source.needed

end Field

/-- The number whose bytes are given, least significant first. -/
def littleEndian : List UInt8 → Nat
  | [] => 0
  | b :: rest => b.toNat + 256 * littleEndian rest

namespace Frame

/-- Length of a frame as an address; no byte past the last address can be read. -/
def extent (frame : Frame) : UInt64 :=
  UInt64.ofNatClamp frame.length

/-- Read a field, or report that the frame is too short for it. -/
def read (frame : Frame) (field : Field) : Except Shortage Nat :=
  if Span.fits 0 frame.extent field.offset field.width.bytes.toUInt64 then
    .ok (littleEndian ((frame.drop field.offset.toNat).take field.width.bytes))
  else
    .error ⟨field.needed, frame.length⟩

/-- Check that the first `len` bytes are present without reading them. -/
def require (frame : Frame) (len : UInt64) : Except Shortage Unit :=
  if Span.fits 0 frame.extent 0 len then .ok () else .error ⟨len.toNat, frame.length⟩

/-- The key of the frame's source: its address as a word. -/
def sourceKey (frame : Frame) : Except Shortage UInt32 :=
  (frame.read Field.source).map Nat.toUInt32

end Frame

end SourceTally
