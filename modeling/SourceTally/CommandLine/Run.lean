import SourceTally.CommandLine.Command
import SourceTally.Files
import SourceTally.Replay
import SourceTally.Report

/-!
# Running commands

A command reads files, logs, prints, and may fail; what it printed before it failed stays printed.

## Main definitions

* `Command.Output`: what a command printed and how it ended
* `Command.run`: run a command
* `Command.fileNames`: the files that it reads
-/

namespace SourceTally

def printed (lines : List String) : String := String.join (lines.map (· ++ "\n"))

/-- Write a value, a table or gauges in the format asked for. -/
def Format.print (format : Format) (table : List String) (value : Value) (exporter : Exporter) :
    Logged String :=
  match format with
  | .table => pure (printed table)
  | .json => pure (Json.render value ++ "\n")
  | .yaml => pure (Block.render value)
  | .prometheus => exporter.render

namespace Command

/-- What a command printed and how it ended. -/
structure Output where
  stdout : String := ""
  error : Option Error := none
  deriving DecidableEq, Repr

/-- The output of an attempt that prints only when it succeeds. -/
def Output.ofAttempt (attempt : Attempt String) : Logged Output := do
  match ← attempt.run with
  | .ok stdout => return { stdout }
  | .error e => return { error := some e }

/-- The configuration in a file, or the default one. -/
def loadConfig (files : FileReader) : Option String → Attempt Config
  | some name => Config.load files name
  | none => pure {}

/-- Replay frames. The configuration is read first, then the plane is made, then the frames are
read, and then the handler is deployed. -/
def replayed (files : FileReader) (options : ReplayOptions) : Attempt Report := do
  let config ← loadConfig files options.config
  let plane ← Plane.ofConfig { config with policy := options.policy.getD config.policy }
  let frames ← Frame.load files options.frames
  let (tally, plane) ← Replay.runHandler plane options.handler options.workers frames {}
  note .commands .info
    ("Replay finished: " ++ toString tally.invocations.toNat ++ " invocations, " ++
      toString tally.shortFrames.toNat ++ " short frames")
  return ⟨options.handler.program.name, frames.length, tally, plane.snapshot⟩

/-- Replay frames and print the report. -/
def replayText (files : FileReader) (options : ReplayOptions) : Attempt String := do
  let report ← replayed files options
  ExceptT.lift (options.format.print report.table report.value report.exporter)

/-- Fire the results harness and print the slots. -/
def resultsText (lhs rhs : UInt64) (format : Format) : Attempt String := do
  let plane := Plane.empty .lookupOnly
  plane.deploy .results
  let plane := plane.fire lhs rhs
  note .commands .info "Results harness returned 0"
  let results := plane.results
  ExceptT.lift (format.print (Results.table results) (Results.value results)
    (Results.exporter results))

def checkLine (program : Program) (verdict : String) : String :=
  Text.left 16 program.name ++ " " ++ Text.left 28 program.hook ++ " " ++ verdict

/-- Check each program; answer the lines and the number of programs rejected. -/
def checkPrograms (license : String) : List ProgramKind → Logged (List String × Nat)
  | [] => return ([], 0)
  | kind :: rest => do
    let program := kind.program
    match program.check license with
    | .ok () =>
      let (lines, rejected) ← checkPrograms license rest
      return (checkLine program "ok" :: lines, rejected)
    | .error e =>
      Logged.log .commands .warn e.message
      let (lines, rejected) ← checkPrograms license rest
      return (checkLine program "rejected" :: lines, rejected + 1)

/-- Check all programs under a license. -/
def checkAll (license : String) : Logged Output := do
  let (lines, rejected) ← checkPrograms license ProgramKind.all
  return {
    stdout := printed lines
    error :=
      if rejected = 0 then none
      else some (.config (.programsRejected rejected ProgramKind.all.length license)) }

/-- Check all programs under the license given, or else under that of the configuration. -/
def checkLicensed (files : FileReader) (license config : Option String) : Logged Output := do
  match license with
  | some license => checkAll license
  | none =>
    match ← (loadConfig files config).run with
    | .ok config => checkAll config.license
    | .error e => return { error := some e }

def run (files : FileReader) : Command → Logged Output
  | .replay options => Output.ofAttempt (replayText files options)
  | .results lhs rhs format => Output.ofAttempt (resultsText lhs rhs format)
  | .check license config => checkLicensed files license config

def fileNames : Command → List String
  | .replay options => options.config.toList ++ [options.frames]
  | .results _ _ _ => []
  | .check _ config => config.toList

end Command

end SourceTally
