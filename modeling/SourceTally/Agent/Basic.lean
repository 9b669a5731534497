import SourceTally.Agent.Error
import SourceTally.Plane

/-!
# The agent

The agent loads the kernel programs, prepares their maps, attaches them and reads the maps back.
Nothing is attached before the configuration and the license have passed their checks, the insert
policy is written and every known host is seeded.

## Main definitions

* `Agent.Step`: a step of the agent: it changes the kernel, logs, and may fail
* `Agent.start`, `Agent.attachCounter`, `Agent.attachHarness`: starting up
* `Agent.counters`, `Agent.results`: reading back
* `Agent.unload`: the end
-/

namespace SourceTally

namespace Agent

/-- A step of the agent. What it did to the kernel and logged before failing stays. -/
abbrev Step (α : Type) := ExceptT Error (StateT Kernel.Host Logged) α

namespace Step

def tell (component : Log.Component) (level : Log.Level) (text : String) : Step Unit :=
  ExceptT.lift (StateT.lift (Logged.log component level text))

/-- Do something that may fail. -/
def attempt {α : Type} (result : Except Error α) : Step α := ExceptT.mk (pure result)

/-- Call the kernel, and take over the kernel that it answers. -/
def call (wrap : Kernel.Fault → Error) (f : Kernel.Host → Except Kernel.Fault Kernel.Host) :
    Step Unit := do
  let host ← get
  match f host with
  | .ok host => set host
  | .error fault => throw (wrap fault)

/-- Run a step and go on with its result, whether it failed or not. -/
def run {α : Type} (step : Step α) (host : Kernel.Host) :
    Logged (Except Error α × Kernel.Host) :=
  (ExceptT.run step).run host

end Step

open Step

/-- What the command that tells the kernel version printed; a fault if it could not be run. -/
abbrev VersionOutput := Except FileFault (List UInt8)

/-- Check that the kernel is recent enough. -/
def checkKernelVersion (output : VersionOutput) : Step Unit := do
  let bytes ← attempt (output.mapError .noVersion)
  let text ← attempt ((Utf8.decode bytes).mapError .versionBytes)
  let version ← attempt ((KernelVersion.parse text).mapError .version)
  let shown := String.ofList (Text.trim text.toList)
  if !version.isSupported then throw (.tooOld shown)
  tell .probes .info ("Kernel version: " ++ shown ++ " (supported)")

/-- Check that the machine can run kernel programs. After the version the agent also looks for the
kernel's type information and for root privileges. Neither look can fail: each only logs one entry
on what it found on the machine, and those two entries are left out here. -/
def preflight (output : VersionOutput) : Step Unit := do
  tell .probes .info "Running pre-flight checks..."
  checkKernelVersion output
  tell .probes .info "Pre-flight checks passed"

def deployCheck (kind : ProgramKind) (license : String) : Step Unit := do
  let program := kind.program
  attempt ((program.check license).mapError .capability)
  tell .probes .debug (program.name ++ " (" ++ program.hook ++ ") passed the load-time check")

/-- Refuse to go on without a map. -/
def requireMap (name : Kernel.MapName) : Step Unit := do
  if !(← get).script.shows name.text then throw (.noMap name)

def writePolicy (policy : InsertPolicy) : Step Unit := do
  requireMap .control
  call (.during .writePolicy) (·.setWord Kernel.policySlot policy.raw)
  tell .probes .info ("Insert policy: " ++ policy.name)

/-- Make one host known to the counters. -/
def seedHost (addr : Address) : Step Unit := do
  call (.during (.seed addr)) (·.insertKey addr.key)
  tell .probes .debug ("Seeded " ++ addr.text)

/-- Make all hosts known to the counters. -/
def seedHosts (hosts : List Address) : Step Unit := do
  requireMap .counters
  hosts.forM seedHost
  tell .probes .info ("Seeded " ++ toString hosts.length ++ " known hosts")

/-- Check everything, load the counter and prepare its maps. Nothing is attached yet. -/
def start (config : Config) (output : VersionOutput) : Step Unit := do
  attempt (config.validate.mapError fun fault => .plane (.config fault))
  preflight output
  deployCheck (.handler .source) config.license
  tell .probes .info "Loading source counter..."
  call (.during .loadCounter) (·.load .counter)
  writePolicy config.policy
  seedHosts config.hosts

/-- Refuse to go on without a program of the right type. -/
def requireProgram (file : Kernel.ObjectFile) : Step Unit := do
  let script := (← get).script
  if !script.shows file.program.program.name then throw (.noProgram file.program)
  if script.wrongType then throw (.kernel .wrongType)

/-- Attach the counter's program: by the driver, or on received packets if that fails. -/
def attachToInterface (iface : String) : Step Unit := do
  match (← get).attachCounter iface .native with
  | .ok host => set host
  | .error fault =>
    tell .probes .warn
      ("Native XDP attach failed (" ++ fault.message ++ "), falling back to SKB mode")
    call (.during (.attachCounter iface)) (·.attachCounter iface .skb)

/-- Load the counter's program and attach it to an interface. -/
def attachCounter (iface : String) : Step Unit := do
  let file := Kernel.ObjectFile.counter
  tell .probes .info ("Attaching " ++ file.program.program.name ++ " to " ++ iface ++ "...")
  requireProgram file
  call .kernel (·.loadProgram file)
  attachToInterface iface
  tell .probes .info ("Source counter attached to " ++ iface)

/-- Load the results harness and attach it, in the place of one that is attached already. -/
def attachHarness (license : String) : Step Unit := do
  let file := Kernel.ObjectFile.harness
  deployCheck file.program license
  call (.during .loadHarness) (·.load file)
  requireProgram file
  call .kernel (·.loadProgram file)
  call (.during .attachHarness) (·.attachHarness)
  tell .probes .info ("Results harness attached to " ++ Kernel.tracepoint)

/-- Refuse to read a map that is missing; the others are named. -/
def requireReadable (file : Kernel.ObjectFile) (name : Kernel.MapName) : Step Unit := do
  let script := (← get).script
  if !script.shows name.text then throw (.noMapAmong name (script.mapsOf file))

/-- Read every counter, in ascending order of the addresses. -/
def counters : Step (List CounterEntry) := do
  requireReadable .counter .counters
  let counts ← attempt ((← get).readCounters.mapError .kernel)
  return CounterEntry.sorted counts

/-- Read the named results; there are none without a harness. -/
def results : Step (List ResultEntry) := do
  if !(← get).tracesCalls then return []
  requireReadable .harness .results
  ResultSlot.all.mapM fun slot => do
    let value ← attempt (((← get).readResult slot).mapError .kernel)
    return ⟨slot, value⟩

/-- Detach and unload all programs. -/
def unload : Step Unit := do
  tell .probes .info "Unloading eBPF programs..."
  modify Kernel.Host.unload
  tell .probes .info "Programs unloaded"

end Agent

end SourceTally
