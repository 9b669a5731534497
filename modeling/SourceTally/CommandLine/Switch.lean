/-!
# Options on a command line

A command has options, each with a long name and perhaps a letter. An option is set by its presence,
takes a value, or ends the reading of the command line. A value stands behind an equals sign, behind
the letter, or in the next argument. Letters may be joined: those of options without value come
first. Behind a double hyphen there are no more options.

A value in an argument of its own is only looked at when the next option is recorded or at the end;
an argument that is not understood is reported before it.

## Main definitions

* `CommandLine.UsageFault`: why reading ends without a command
* `CommandLine.Switch`: an option, with its effect on the settings of a command
* `CommandLine.Grammar`: the options and commands known at one place
* `CommandLine.Grammar.read`: reading arguments
-/

namespace SourceTally.CommandLine

/-- Why reading a command line ends without a command. -/
inductive UsageFault where
  /-- An argument that is no option, no value and no command. -/
  | unknownArgument
  /-- A command that does not exist. -/
  | unknownCommand
  /-- A value is missing, empty where it may not be, or none of the possible ones. -/
  | invalidValue
  /-- A value that is no number, or one too large. -/
  | invalidNumber
  /-- A value for an option that takes none. -/
  | unneededValue
  /-- An option given twice. -/
  | repeated
  /-- A required option is absent. -/
  | missingOption
  /-- Help was asked for. -/
  | help
  /-- The version was asked for. -/
  | version
  deriving DecidableEq, Repr

/-- What an option does to settings of type `σ`. -/
inductive Action (σ : Type) where
  | set (apply : σ → σ)
  | take (apply : String → σ → Except UsageFault σ)
  | stop (fault : UsageFault)

structure Switch (σ : Type) where
  long : String
  short : Option Char := none
  action : Action σ

/-- The options and commands known at one place of the command line. -/
structure Grammar (σ : Type) where
  switches : List (Switch σ)
  commands : List String := []

/-- How far reading is. -/
structure Progress (σ : Type) where
  settings : σ
  /-- Long names of the options recorded so far. -/
  seen : List String := []
  /-- An option whose value, if it has come, is not recorded yet. -/
  pending : Option (Switch σ × Option String) := none

inductive Reading (σ : Type) where
  /-- All arguments were options. -/
  | finished (settings : σ)
  /-- A command, with the arguments behind it. -/
  | command (settings : σ) (name : String) (rest : List String)

variable {σ : Type}

namespace Progress

/-- Record an option that was not recorded before. -/
def once (p : Progress σ) (switch : Switch σ) (update : σ → Except UsageFault σ) :
    Except UsageFault (Progress σ) :=
  if p.seen.contains switch.long then .error .repeated
  else do
    let settings ← update p.settings
    return { p with settings, seen := switch.long :: p.seen }

/-- Record an option with its value, if it has one. -/
def record (p : Progress σ) (switch : Switch σ) (value : Option String) :
    Except UsageFault (Progress σ) :=
  match switch.action, value with
  | .stop fault, _ => .error fault
  | .set apply, _ => p.once switch fun settings => .ok (apply settings)
  | .take _, none => .error .invalidValue
  | .take apply, some value => p.once switch (apply value)

/-- Record the pending option. -/
def settle (p : Progress σ) : Except UsageFault (Progress σ) :=
  match p.pending with
  | none => .ok p
  | some (switch, value) => { p with pending := none }.record switch value

/-- Record an option, after the pending one. -/
def give (p : Progress σ) (switch : Switch σ) (value : Option String) :
    Except UsageFault (Progress σ) := do
  (← p.settle).record switch value

/-- Expect the value of an option in the next argument. -/
def expect (p : Progress σ) (switch : Switch σ) : Except UsageFault (Progress σ) := do
  return { ← p.settle with pending := some (switch, none) }

/-- The option that waits for its value. -/
def awaiting? (p : Progress σ) : Option (Switch σ) :=
  match p.pending with
  | some (switch, none) => some switch
  | _ => none

end Progress

namespace Grammar

/-- Read an option by its long name, with what follows an equals sign. -/
def readLong (g : Grammar σ) (p : Progress σ) (name : String) (value : Option String) :
    Except UsageFault (Progress σ) :=
  match g.switches.find? (·.long = name) with
  | none => .error .unknownArgument
  | some switch =>
    match switch.action, value with
    | .take _, none => p.expect switch
    | .take _, some value => p.give switch (some value)
    | _, none => p.give switch none
    | _, some _ => .error .unneededValue

/-- Read joined letters. The letters behind an option that takes a value are the value. -/
def readShort (g : Grammar σ) (p : Progress σ) : List Char → Except UsageFault (Progress σ)
  | [] => .ok p
  | c :: rest =>
    match g.switches.find? (·.short = some c) with
    | none => .error .unknownArgument
    | some switch =>
      match switch.action, rest with
      | .take _, [] => p.expect switch
      | .take _, '=' :: value => p.give switch (some (String.ofList value))
      | .take _, value => p.give switch (some (String.ofList value))
      | _, _ => do
        let p ← p.give switch none
        g.readShort p rest

/-- The fault of an argument that is neither option nor value. -/
def stray (g : Grammar σ) (behindHyphens : Bool) (arg : String) : UsageFault :=
  if g.commands.isEmpty || (behindHyphens && g.commands.contains arg) then .unknownArgument
  else .unknownCommand

/-- Read arguments; `behindHyphens` tells whether a double hyphen has been read. -/
def readFrom (g : Grammar σ) (behindHyphens : Bool) (p : Progress σ) :
    List String → Except UsageFault (Reading σ)
  | [] => do return .finished (← p.settle).settings
  | arg :: rest =>
    if behindHyphens then .error (g.stray true arg)
    else
      match p.awaiting? with
      | none =>
        if g.commands.contains arg then .ok (.command p.settings arg rest)
        else continueWith arg rest
      | some _ => continueWith arg rest
where
  /-- Read an argument that is no command. -/
  continueWith (arg : String) (rest : List String) : Except UsageFault (Reading σ) :=
    match arg.toList with
    | ['-', '-'] => g.readFrom true p rest
    | '-' :: '-' :: text => do
      let name := text.takeWhile (· ≠ '=')
      let value := (text.dropWhile (· ≠ '=')).tail?
      let p ← g.readLong p (String.ofList name) (value.map String.ofList)
      g.readFrom false p rest
    | '-' :: letter :: letters => do
      let p ← g.readShort p (letter :: letters)
      g.readFrom false p rest
    | _ =>
      match p.awaiting? with
      | some switch => g.readFrom false { p with pending := some (switch, some arg) } rest
      | none => .error (g.stray false arg)

def read (g : Grammar σ) (settings : σ) (args : List String) : Except UsageFault (Reading σ) :=
  g.readFrom false { settings } args

end Grammar

end SourceTally.CommandLine
