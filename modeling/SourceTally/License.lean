/-!
# Licenses and capabilities

A program declares what it needs from the kernel. Some of it is granted only to programs under a
license that the kernel takes for compatible with its own. The check is made once, before a program
is deployed, and compares license texts exactly.

## Main definitions

* `Capabilities`: a set of capabilities, as bits
* `License.compatible`: the texts that open the restricted capabilities
* `checkLicense`: the check
-/

namespace SourceTally

/-- A set of capabilities, one per bit. -/
structure Capabilities where
  bits : UInt32
  deriving DecidableEq, Repr

namespace Capabilities

def none : Capabilities := ⟨0⟩

def sharedTableAtomics : Capabilities := ⟨1⟩

/-- Writes to the shared result slots. -/
def resultSlots : Capabilities := ⟨2⟩

/-- What only programs under a compatible license get. -/
def restricted : Capabilities := ⟨1⟩

/-- Whether every capability of the second set is in the first. -/
def contains (a b : Capabilities) : Bool := a.bits &&& b.bits = b.bits

/-- Whether the two sets share a capability. -/
def intersects (a b : Capabilities) : Bool := a.bits &&& b.bits ≠ 0

/-- What the two sets share. -/
def inter (a b : Capabilities) : Capabilities := ⟨a.bits &&& b.bits⟩

end Capabilities

namespace License

/-- The license the programs are written under. -/
def gpl : String := "GPL"

/-- The license texts that open the restricted capabilities. -/
def compatible : List String :=
  ["GPL", "GPL v2", "GPL and additional rights", "Dual BSD/GPL", "Dual MIT/GPL", "Dual MPL/GPL"]

/-- Whether a license text is one of the compatible ones. -/
def isCompatible (text : String) : Bool := compatible.contains text

end License

/-- A program refused because of its license. -/
structure CapabilityError where
  program : String
  /-- The restricted capabilities it asked for. -/
  missing : Capabilities
  deriving DecidableEq, Repr

def CapabilityError.message (e : CapabilityError) : String :=
  "program " ++ e.program ++ " requires restricted capabilities 0x" ++
    String.ofList (Nat.toDigits 16 e.missing.bits.toNat) ++
    " but its license is not GPL-compatible"

/-- Refuse a program that needs restricted capabilities under a license that does not open them. -/
def checkLicense (program license : String) (requires : Capabilities) :
    Except CapabilityError Unit :=
  if requires.intersects .restricted && !License.isCompatible license then
    .error ⟨program, requires.inter .restricted⟩
  else
    .ok ()

end SourceTally
