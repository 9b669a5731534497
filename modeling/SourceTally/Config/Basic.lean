import SourceTally.Address
import SourceTally.License
import SourceTally.Table.Basic
import SourceTally.Text.Blank
import SourceTally.Text.Quoted

/-!
# Configuration

What the control plane starts from: an insert policy, a license, and the hosts to count.

## Main definitions

* `Config`: the configuration
* `Config.Fault`: what can be wrong with a configuration that was read
* `Config.validate`: the check before use
-/

namespace SourceTally

/-- A configuration. Absent fields take these defaults. -/
structure Config where
  policy : InsertPolicy := .lookupOnly
  license : String := License.gpl
  hosts : List Address := []
  deriving DecidableEq, Repr, Inhabited

namespace Config

/-- What is wrong with a configuration. -/
inductive Fault where
  /-- More hosts than the counting table has slots. -/
  | tooManyHosts (count : Nat)
  /-- A license of nothing but blanks. -/
  | blankLicense
  /-- Some programs may not be loaded under the license. -/
  | programsRejected (rejected total : Nat) (license : String)
  | other (reason : String)
  deriving DecidableEq, Repr

def Fault.message : Fault → String
  | tooManyHosts count =>
    toString count ++ " known hosts exceed the counting table capacity of " ++
      toString counterCapacity
  | blankLicense => "license must not be empty"
  | programsRejected rejected total license =>
    toString rejected ++ " of " ++ toString total ++ " programs cannot load under license " ++
      Text.quote license
  | other reason => reason

/-- Check that the hosts fit into the counting table, and then that there is a license. -/
def validate (config : Config) : Except Fault Unit :=
  if config.hosts.length > counterCapacity then .error (.tooManyHosts config.hosts.length)
  else if (Text.trim config.license.toList).isEmpty then .error .blankLicense
  else .ok ()

end Config

end SourceTally
