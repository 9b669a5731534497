import SourceTally.Agent.Basic
import SourceTally.CommandLine.Process
import SourceTally.Log.Filter

/-!
# The agent as a process

The agent starts, attaches its programs, reports the counters and the results once per interval, and
ends when it is interrupted. Here it is interrupted after the first report.

## Main definitions

* `Agent.Options`, `Agent.parse`: its command line
* `Agent.report`: one report
* `Agent.lifetime`: from the start to the end
* `Agent.run`: the agent as a function of its arguments, the files it can read and the kernel
-/

namespace SourceTally.Agent

open CommandLine Step

structure Options where
  iface : String := "lo"
  config : Option String := none
  interval : Nat := 5
  harness : Bool := false
  deriving DecidableEq, Repr

def grammar : Grammar Options where
  switches :=
    [valued "iface" (some 'i') .ok fun v o => { o with iface := v },
      valued "config" (some 'c') path fun v o => { o with config := some v },
      valued "interval" none number fun v o => { o with interval := v },
      flag "harness" none fun o => { o with harness := true },
      helpSwitch,
      versionSwitch]

/-- Read the agent's command line. -/
def parse (args : List String) : Except UsageFault Options := do
  match ← grammar.read {} args with
  | .finished options => return options
  | .command _ _ _ => throw .unknownArgument

/-- The configuration in a file, or the default one. The agent does not show what reading it
logs. -/
def loadConfig (files : FileReader) : Option String → Step Config
  | none => return {}
  | some name => attempt ((Config.load files name).run.value.mapError .plane)

/-- Go on with the result of a step, whether it failed or not. -/
def outcome {α : Type} (step : Step α) : Step (Except Error α) :=
  ExceptT.lift (ExceptT.run step)

/-- One report. A report that cannot be made is no reason to stop. -/
def report : Step Unit := do
  match ← outcome counters with
  | .ok entries =>
    let total := CounterEntry.total entries
    tell .agent .info
      (toString entries.length ++ " sources, " ++ toString total.toNat ++ " packets")
    (entries.filter (·.count > 0)).forM fun e =>
      tell .agent .info ("  " ++ Text.left 16 e.addr.text ++ " " ++ toString e.count.toNat)
  | .error e => tell .agent .warn ("Failed to read counters: " ++ e.outermost)
  match ← outcome results with
  | .ok entries =>
    entries.forM fun e =>
      tell .agent .info ("  result " ++ e.slot.name ++ " = " ++ toString e.value.toNat)
  | .error e => tell .agent .warn ("Failed to read result slots: " ++ e.outermost)

/-- Start, attach, report once, and end. -/
def lifetime (options : Options) (files : FileReader) (version : VersionOutput) : Step Unit := do
  tell .agent .info "hostcount-agent starting..."
  let config ← loadConfig files options.config
  start config version
  attachCounter options.iface
  if options.harness then attachHarness config.license
  tell .agent .info "hostcount-agent running. Press Ctrl+C to exit."
  report
  tell .agent .info "Shutdown signal received"
  unload
  tell .agent .info "hostcount-agent stopped"

/-- A log entry as the agent writes it. Further lines of its text are indented, and orders to a
terminal are left out. -/
def logText (entry : Log.Entry) : String :=
  Text.unordered ("[" ++ Text.left 5 entry.level.name ++ " " ++ entry.component.path ++ "] " ++
    Text.indented entry.text ++ "\n")

def usage : String :=
  printed
    ["Usage: hostcount-agent [OPTIONS]", "", "Options:",
      "  -i, --iface <IFACE>        Interface to attach the XDP counter to [default: lo]",
      "  -c, --config <CONFIG>      Control-plane YAML config",
      "      --interval <INTERVAL>  Seconds between counter reports [default: 5]",
      "      --harness              Also attach the results harness to execve",
      "  -h, --help                 Print help",
      "  -V, --version              Print version"]

/-- The setting of the log unless there is another. -/
def defaultLogSetting : String := "info"

def perform (options : Options) (files : FileReader) (version : VersionOutput)
    (logSetting : String) (host : Kernel.Host) : ExitState :=
  let done := (lifetime options files version).run host
  let (filter, warnings) := Log.Filter.ofSetting logSetting
  let log := printed warnings ++ String.join ((done.entries.filter filter.shows).map logText)
  match done.value.1 with
  | .ok () => { code := 0, stderr := log }
  | .error e => { code := 1, stderr := log ++ printed e.report }

/-- The agent as a process; the log setting says which entries are shown. -/
def run (files : FileReader) (version : VersionOutput) (logSetting : Option String)
    (host : Kernel.Host) (args : List String) : ExitState :=
  match parse args with
  | .error fault => fault.exit "hostcount-agent" usage
  | .ok options =>
    perform options files version (logSetting.getD defaultLogSetting) host

end SourceTally.Agent
