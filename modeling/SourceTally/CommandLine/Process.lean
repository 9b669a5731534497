import SourceTally.CommandLine.Run
import SourceTally.Text.Terminal

/-!
# The program as a process

The whole program is a function of its arguments and of the files it can read. It answers an exit
code, what it printed, and what it wrote to the error stream: shown log entries and the error.

## Main definitions

* `ExitState`: what a process leaves behind
* `CommandLine.run`: the program
-/

namespace SourceTally

/-- What a program leaves behind when it ends. -/
structure ExitState where
  code : UInt8
  stdout : String := ""
  stderr : String := ""
  deriving DecidableEq, Repr

namespace CommandLine

def programVersion : String := "0.1.0"

def UsageFault.message : UsageFault → String
  | unknownArgument => "error: unexpected argument found"
  | unknownCommand => "error: unrecognized subcommand"
  | invalidValue => "error: invalid value for an option"
  | invalidNumber => "error: invalid number for an option"
  | unneededValue => "error: unexpected value for an option"
  | repeated => "error: an option cannot be used multiple times"
  | missingOption => "error: a required option was not provided"
  | help => "help"
  | version => "version"

/-- How the program ends when the command line holds no command. -/
def UsageFault.exit (name usage : String) : UsageFault → ExitState
  | help => { code := 0, stdout := usage }
  | version => { code := 0, stdout := name ++ " " ++ programVersion ++ "\n" }
  | fault => { code := 2, stderr := printed [fault.message] }

def usage : String :=
  printed
    ["Replay frames through verifier-style handlers and inspect per-host counters", "",
      "Usage: hostcount [OPTIONS] [COMMAND]", "", "Commands:",
      "  replay   Replay captured frames through a handler",
      "  results  Fire the results harness and print its slots",
      "  check    Run the load-time capability check for every handler",
      "  help     Print this message or the help of the given subcommand(s)", "", "Options:",
      "  -v, --verbose  Enable verbose logging", "  -h, --help     Print help",
      "  -V, --version  Print version"]

/-- A log entry as written: level, component, and the text without orders to a terminal. -/
def logLine (entry : Log.Entry) : String :=
  entry.level.name ++ " " ++ entry.component.path ++ ": " ++ Text.guarded entry.text

/-- The entries that are shown: all of them, or all but the detailed ones. -/
def shown (verbose : Bool) (entries : List Log.Entry) : List Log.Entry :=
  entries.filter fun entry => verbose || entry.level ≠ .debug

/-- Run what a command line asks for. -/
def perform (files : FileReader) (request : Request) : ExitState :=
  let started : Logged Unit :=
    Logged.log .program .info ("Starting hostcount v" ++ programVersion)
  match request.command with
  | none =>
    { code := 1
      stderr := printed ((shown request.verbose started.entries).map logLine ++
        ["No command specified. Use --help for usage information."]) }
  | some command =>
    let done := started >>= fun _ => command.run files
    let log := (shown request.verbose done.entries).map logLine
    match done.value.error with
    | none => { code := 0, stdout := done.value.stdout, stderr := printed log }
    | some e =>
      { code := 1
        stdout := done.value.stdout
        stderr := printed (log ++ ["Error: " ++ e.message]) }

/-- The whole program: what it leaves behind, given its arguments and the files it can read. -/
def run (files : FileReader) (args : List String) : ExitState :=
  match parse args with
  | .error fault => fault.exit "hostcount" usage
  | .ok request => perform files request

end CommandLine

end SourceTally
