import SourceTally.Config.Decode
import SourceTally.Frame.Document
import SourceTally.Log

/-!
# Errors

Everything that can go wrong in the control plane and on the command line, with its wording.

## Main definitions

* `FileFault`: why a file cannot be read
* `Error`, `Error.message`: the causes and their texts
* `Attempt`, `Attempt.result`: an operation that logs and may fail, and what it answers
-/

namespace SourceTally

/-- Why a file cannot be read as text. -/
inductive FileFault where
  | notFound
  | isDirectory
  | notDirectory
  | nameTooLong
  | notText
  | badName
  | other (reason : String)
  deriving DecidableEq, Repr

def FileFault.message : FileFault → String
  | notFound => "No such file or directory (os error 2)"
  | isDirectory => "Is a directory (os error 21)"
  | notDirectory => "Not a directory (os error 20)"
  | nameTooLong => "File name too long (os error 36)"
  | notText => "stream did not contain valid UTF-8"
  | badName => "file name contained an unexpected NUL byte"
  | other reason => reason

inductive Error where
  | config (fault : Config.Fault)
  | file (fault : FileFault)
  | yaml (fault : Config.DecodeFault)
  | json (reason : String)
  | invalidFrame (line : Nat) (fault : Frame.Fault)
  | capability (cause : CapabilityError)
  | tableFull (capacity : Nat) (addr : Address)
  | metrics (reason : String)
  | replay (reason : String)
  deriving DecidableEq, Repr

namespace Error

def message : Error → String
  | config fault => "Configuration error: " ++ fault.message
  | file fault => "IO error: " ++ fault.message
  | yaml fault => "YAML error: " ++ fault.message
  | json reason => "JSON error: " ++ reason
  | invalidFrame line fault => "Invalid frame on line " ++ toString line ++ ": " ++ fault.message
  | capability cause => "Program rejected at load time: " ++ cause.message
  | tableFull capacity addr =>
    "Counting table is full (" ++ toString capacity ++ " entries), cannot seed " ++ addr.text
  | metrics reason => "Metrics error: " ++ reason
  | replay reason => "Replay worker failed: " ++ reason

end Error

/-- An operation that logs and may fail; what it logged before failing is kept. -/
abbrev Attempt (α : Type) := ExceptT Error Logged α

/-- What an operation answers, apart from its log entries. -/
def Attempt.result {α : Type} (x : Attempt α) : Except Error α := x.run.value

/-- Log from within an operation that may fail. -/
def note (component : Log.Component) (level : Log.Level) (text : String) : Attempt Unit :=
  ExceptT.lift (Logged.log component level text)

namespace Config

/-- Check a configuration if it could be decoded. -/
def checked (decoded : Except DecodeFault Config) : Except Error Config := do
  let config ← decoded.mapError .yaml
  config.validate.mapError .config
  return config

/-- Read and check a configuration. -/
def ofYaml (text : String) : Except Error Config := checked (decodeYaml text)

end Config

def Frame.ofDocument (text : String) : Except Error (List Frame) :=
  (Frame.parseDocument text).mapError fun (line, fault) => .invalidFrame line fault

end SourceTally
