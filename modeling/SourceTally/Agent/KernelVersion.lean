import SourceTally.Text.Blank
import SourceTally.Text.Decimal
import SourceTally.Text.Pieces

/-!
# Kernel versions

A version text is cut at its dots. The first part is the major version; the second one, cut at its
first hyphen, is the minor version. Blanks around the two numbers do not count, and what follows
them does not either.

## Main definitions

* `KernelVersion`: major and minor version, ordered lexicographically
* `KernelVersion.parse`: read a version text
* `KernelVersion.isSupported`: whether the version is recent enough
-/

namespace SourceTally

structure KernelVersion where
  major : Nat
  minor : Nat
  deriving DecidableEq, Repr

namespace KernelVersion

/-- Why a text is no version. -/
inductive Fault where
  | noDot (text : String)
  | major (cause : Decimal.ReadError)
  | minor (cause : Decimal.ReadError)
  deriving DecidableEq, Repr

/-- Largest number that a part may be. -/
def limit : Nat := UInt32.size - 1

def part (text : List Char) : Except Decimal.ReadError Nat := Decimal.read limit (Text.trim text)

def parse (text : String) : Except Fault KernelVersion :=
  match Text.pieces '.' text.toList with
  | first :: second :: _ =>
    match part first with
    | .error cause => .error (.major cause)
    | .ok major =>
      match part (second.takeWhile (· ≠ '-')) with
      | .error cause => .error (.minor cause)
      | .ok minor => .ok ⟨major, minor⟩
  | _ => .error (.noDot text)

/-- Whether the version is 5.8 or later. -/
def isSupported (version : KernelVersion) : Bool :=
  !(version.major < 5 || (version.major == 5 && version.minor < 8))

end KernelVersion

end SourceTally
