import SourceTally.Log
import SourceTally.Text.Blank
import SourceTally.Text.Pieces

/-!
# Which log entries are shown

A setting is a list of rules between commas. A rule names the least important level that is shown,
for every component or for those whose path starts in a given way; of the rules that apply to an
entry, the one with the longest start decides. Behind a slash the setting may name a text that an
entry has to hold.

## Main definitions

* `Log.Threshold`: the least important level that is shown
* `Log.Rule`, `Log.Filter`: what a setting says
* `Log.Filter.ofSetting`: read a setting
* `Log.Filter.shows`: whether an entry is shown
-/

namespace SourceTally.Log

/-- The least important level that is shown. -/
inductive Threshold where
  | off
  | error
  | warn
  | info
  | debug
  | trace
  deriving DecidableEq, Repr

namespace Threshold

/-- The threshold with a given name, in capital or small letters. -/
def ofName? (text : String) : Option Threshold :=
  match text.map Char.toLower with
  | "off" => some off
  | "error" => some error
  | "warn" => some warn
  | "info" => some info
  | "debug" => some debug
  | "trace" => some trace
  | _ => none

/-- Whether a level is important enough. -/
def admits (level : Level) : Threshold → Bool
  | off | error => false
  | warn => level = .warn
  | info => level ≠ .debug
  | debug | trace => true

end Threshold

/-- A threshold for the components whose path starts in a given way. -/
structure Rule where
  start : Option String := none
  threshold : Threshold
  deriving DecidableEq, Repr

/-- Read a rule: a threshold, a start of a path, or both. A start alone shows everything. The answer
to a rule that cannot be read is the part at fault. -/
def Rule.ofText (text : String) : Except String Rule :=
  match (Text.pieces '=' text.toList).map String.ofList with
  | [name] =>
    match Threshold.ofName? name with
    | some threshold => .ok { threshold }
    | none => .ok { start := some name, threshold := .trace }
  | [start, level] =>
    let level := String.ofList (Text.trim level.toList)
    if level = "" then .ok { start := some start, threshold := .trace }
    else
      match Threshold.ofName? level with
      | some threshold => .ok { start := some start, threshold }
      | none => .error level
  | _ => .error text

/-- What a setting says. -/
structure Filter where
  rules : List Rule
  /-- A text that entries have to hold. -/
  mention : Option String := none
  deriving DecidableEq, Repr

namespace Filter

/-- Add a rule; it takes the place of one with the same start. -/
def insertRule (rules : List Rule) (rule : Rule) : List Rule :=
  if rules.any (·.start = rule.start) then
    rules.map fun r => if r.start = rule.start then rule else r
  else
    rules ++ [rule]

/-- The filter with the given rules; without any, only errors are shown. -/
def ofRules (rules : List Rule) (mention : Option String) : Filter :=
  let rules := rules.foldl insertRule []
  { rules := if rules.isEmpty then [{ threshold := .error }] else rules, mention }

/-- The rules of a list between commas, and the parts of it that cannot be read. -/
def readRules (text : List Char) : List Rule × List String :=
  let texts := (Text.pieces ',' text).map fun piece => String.ofList (Text.trim piece)
  let read := (texts.filter (· ≠ "")).map Rule.ofText
  (read.filterMap fun r => r.toOption,
    read.filterMap fun r =>
      match r with
      | .error part => some part
      | .ok _ => none)

/-- The warning about a part of a setting. -/
def warning (part reason : String) : String :=
  "warning: invalid logging spec '" ++ part ++ "'" ++ reason ++ ", ignoring it"

/-- Read a setting. The warnings are about the parts that cannot be read. -/
def ofSetting (text : String) : Filter × List String :=
  match Text.pieces '/' text.toList with
  | rules :: rest =>
    if rest.length > 1 then (ofRules [] none, [warning text " (too many '/'s)"])
    else
      let (rules, faults) := readRules rules
      (ofRules rules (rest.head?.map String.ofList), faults.map (warning · ""))
  | [] => (ofRules [] none, [])

/-- The better of two rules for a component: the one with the longer start, the later of two that
are as long. -/
def better (path : String) (best : Option Rule) (rule : Rule) : Option Rule :=
  let length := fun (r : Rule) => (r.start.getD "").length
  let applies := rule.start.all fun start => path.startsWith start
  if applies && best.all fun b => length b ≤ length rule then some rule else best

def shows (filter : Filter) (entry : Entry) : Bool :=
  (filter.rules.foldl (better entry.component.path) none).any (·.threshold.admits entry.level) &&
    filter.mention.all fun part => part = "" || (entry.text.splitOn part).length > 1

end Filter

end SourceTally.Log
