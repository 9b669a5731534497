import SourceTally.CommandLine.Switch
import SourceTally.Program
import SourceTally.Table.Policy
import SourceTally.Text.Decimal

/-!
# Commands

The three commands of the program with their options, and how a command line names them.

## Main definitions

* `Format`: the output formats
* `Command`: a command with its options
* `CommandLine.Request`: what a command line asks for
* `CommandLine.parse`: read a command line
-/

namespace SourceTally

inductive Format where
  | table
  | json
  | yaml
  | prometheus
  deriving DecidableEq, Repr

def Format.ofName? : String → Option Format
  | "table" => some table
  | "json" => some json
  | "yaml" => some yaml
  | "prometheus" => some prometheus
  | _ => none

/-- The handler with a given name on the command line. -/
def HandlerKind.ofName? : String → Option HandlerKind
  | "source" => some source
  | "classifier" => some classifier
  | "socket" => some socket
  | "message" => some message
  | "sock-addr" => some sockAddr
  | _ => none

/-- The policy with a given name on the command line. -/
def InsertPolicy.ofOption? : String → Option InsertPolicy
  | "lookup-only" => some lookupOnly
  | "lookup-or-insert" => some lookupOrInsert
  | _ => none

structure ReplayOptions where
  frames : String
  handler : HandlerKind := .source
  config : Option String := none
  policy : Option InsertPolicy := none
  workers : Nat := 4
  format : Format := .table
  deriving DecidableEq, Repr

inductive Command where
  | replay (options : ReplayOptions)
  | results (lhs rhs : UInt64) (format : Format)
  | check (license config : Option String)
  deriving DecidableEq, Repr

namespace CommandLine

/-- What a command line asks for. -/
structure Request where
  verbose : Bool
  command : Option Command
  deriving DecidableEq, Repr

/-- Largest number that an option takes. -/
def numberLimit : Nat := UInt64.size - 1

/-- A value that names one of several things. -/
def choice {α : Type} (find : String → Option α) (value : String) : Except UsageFault α :=
  match find value with
  | some a => .ok a
  | none => .error .invalidValue

/-- A value that is a file name. -/
def path (value : String) : Except UsageFault String :=
  if value.isEmpty then .error .invalidValue else .ok value

def number (value : String) : Except UsageFault Nat :=
  (Decimal.read numberLimit value.toList).mapError fun _ => .invalidNumber

variable {σ : Type}

/-- The option that asks for help. -/
def helpSwitch : Switch σ := { long := "help", short := some 'h', action := .stop .help }

/-- The option that asks for the version. -/
def versionSwitch : Switch σ := { long := "version", short := some 'V', action := .stop .version }

/-- An option that is set by its presence. -/
def flag (long : String) (short : Option Char) (apply : σ → σ) : Switch σ :=
  { long, short, action := .set apply }

def valued {α : Type} (long : String) (short : Option Char) (decode : String → Except UsageFault α)
    (apply : α → σ → σ) : Switch σ :=
  { long, short, action := .take fun value settings => (decode value).map (apply · settings) }

def mainGrammar : Grammar Bool where
  switches := [flag "verbose" (some 'v') fun _ => true, helpSwitch, versionSwitch]
  commands := ["replay", "results", "check", "help"]

/-- Settings of a command, with the option that every command shares. -/
structure Shared (σ : Type) where
  verbose : Bool := false
  settings : σ

/-- Options of one command: those of its own, verbosity, and help. -/
def commandGrammar (switches : List (Switch (Shared σ))) : Grammar (Shared σ) where
  switches := switches ++
    [flag "verbose" (some 'v') fun s => { s with verbose := true }, helpSwitch]

/-- Change the settings of a command. -/
def Shared.update (f : σ → σ) (s : Shared σ) : Shared σ := { s with settings := f s.settings }

/-- Settings of the replay command; frames are required, but may come last. -/
structure ReplayDraft where
  frames : Option String := none
  options : ReplayOptions := { frames := "" }

def replayGrammar : Grammar (Shared ReplayDraft) :=
  let change (f : ReplayOptions → ReplayOptions) : Shared ReplayDraft → Shared ReplayDraft :=
    Shared.update fun d => { d with options := f d.options }
  commandGrammar
    [valued "frames" (some 'f') path fun v => Shared.update fun d => { d with frames := some v },
      valued "handler" none (choice HandlerKind.ofName?) fun v =>
        change fun o => { o with handler := v },
      valued "config" (some 'c') path fun v => change fun o => { o with config := some v },
      valued "policy" (some 'p') (choice InsertPolicy.ofOption?) fun v =>
        change fun o => { o with policy := some v },
      valued "workers" (some 'w') number fun v => change fun o => { o with workers := v },
      valued "format" none (choice Format.ofName?) fun v => change fun o => { o with format := v }]

structure ResultsDraft where
  lhs : UInt64 := 10
  rhs : UInt64 := 20
  format : Format := .table

def resultsGrammar : Grammar (Shared ResultsDraft) :=
  commandGrammar
    [valued "lhs" none number fun v => Shared.update fun d => { d with lhs := v.toUInt64 },
      valued "rhs" none number fun v => Shared.update fun d => { d with rhs := v.toUInt64 },
      valued "format" none (choice Format.ofName?) fun v =>
        Shared.update fun d => { d with format := v }]

structure CheckDraft where
  license : Option String := none
  config : Option String := none

def checkGrammar : Grammar (Shared CheckDraft) :=
  commandGrammar
    [valued "license" (some 'l') .ok fun v =>
        Shared.update fun d => { d with license := some v },
      valued "config" (some 'c') path fun v => Shared.update fun d => { d with config := some v }]

/-- Read the options of one command and build it from its settings. -/
def readCommand (grammar : Grammar (Shared σ)) (start : σ) (verbose : Bool)
    (build : σ → Except UsageFault Command) (args : List String) : Except UsageFault Request := do
  match ← grammar.read { settings := start } args with
  | .command _ _ _ => throw .unknownArgument
  | .finished s =>
    let command ← build s.settings
    return ⟨verbose || s.verbose, some command⟩

/-- Help on a command, or on the program if none is named. -/
def readHelp : List String → UsageFault
  | [] => .help
  | [name] => if mainGrammar.commands.contains name then .help else .unknownCommand
  | _ => .unknownCommand

def parse (args : List String) : Except UsageFault Request := do
  match ← mainGrammar.read false args with
  | .finished verbose => return ⟨verbose, none⟩
  | .command verbose name rest =>
    match name with
    | "replay" =>
      readCommand replayGrammar {} verbose
        (fun d =>
          match d.frames with
          | some frames => .ok (.replay { d.options with frames })
          | none => .error .missingOption)
        rest
    | "results" =>
      readCommand resultsGrammar {} verbose (fun d => .ok (.results d.lhs d.rhs d.format)) rest
    | "check" =>
      readCommand checkGrammar {} verbose (fun d => .ok (.check d.license d.config)) rest
    | _ => throw (readHelp rest)

end CommandLine

end SourceTally
