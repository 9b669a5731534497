import SourceTally.Plane
import SourceTally.Tally
import SourceTally.Text.Shortest

/-!
# Metrics

Gauges set from snapshots and tallies, and written in the text exposition format. A gauge holds a
signed word, and shows it as a double does. A family of labelled gauges keeps one value per label,
in the order of the labels, and is not written while it has none.

## Main definitions

* `Metrics.Family`: a named family of gauges
* `Exporter`: all gauges of the program
* `Exporter.recordTable`, `Exporter.recordResults`, `Exporter.recordTally`: setting them
* `Exporter.render`: writing them
-/

namespace SourceTally

namespace Metrics

/-- The word as the signed word of the same bits. -/
def signed (value : UInt64) : Int := value.toInt64.toInt

def escapeLabel (value : String) : String :=
  String.join (value.toList.map fun c =>
    if c = '\\' then "\\\\" else if c = '"' then "\\\"" else if c = '\n' then "\\n"
    else String.singleton c)

/-- Name, help text and label of a family. -/
structure Family where
  name : String
  help : String
  label : String
  deriving DecidableEq, Repr

def invocations : Family :=
  ⟨"hostcount_invocations", "Handler invocations by outcome", "outcome"⟩

/-- Values of the result slots. -/
def results : Family :=
  ⟨"hostcount_result_slot", "Value stored in each result slot", "slot"⟩

def sources : Family :=
  ⟨"hostcount_source_packets", "Packets counted per source address", "source"⟩

def verdicts : Family :=
  ⟨"hostcount_verdicts", "Handler invocations by returned verdict", "verdict"⟩

/-- The lines before the values of a family. -/
def header (name help : String) : String :=
  "# HELP " ++ name ++ " " ++ help ++ "\n# TYPE " ++ name ++ " gauge\n"

def Family.sample (family : Family) (label : String) (value : UInt64) : String :=
  family.name ++ "\x7b" ++ family.label ++ "=\"" ++ escapeLabel label ++ "\"\x7d " ++
    Shortest.text (signed value) ++ "\n"

/-- A labelled family, or nothing if it has no values. -/
def Family.text (family : Family) (values : Ledger String UInt64) : Option String :=
  if values.isEmpty then none
  else
    some (header family.name family.help ++
      String.join (values.map fun (label, value) => family.sample label value))

/-- The number of taken slots, which has no label. -/
def tableText (size : UInt64) : String :=
  header "hostcount_table_entries" "Occupied counting-table slots" ++
    "hostcount_table_entries " ++ Shortest.text (signed size) ++ "\n"

/-- Set several values of a family. -/
def putAll (values : Ledger String UInt64) (entries : List (String × UInt64)) :
    Ledger String UInt64 :=
  entries.foldl (fun values (label, value) => values.put label value) values

end Metrics

open Metrics

/-- All gauges. -/
structure Exporter where
  tableSize : UInt64 := 0
  sources : Ledger String UInt64 := []
  results : Ledger String UInt64 := []
  invocations : Ledger String UInt64 := []
  verdicts : Ledger String UInt64 := []
  deriving DecidableEq, Repr, Inhabited

namespace Exporter

/-- Set the number of taken slots and the packets of the given sources. -/
def recordCounts (exporter : Exporter) (size : UInt64) (counts : List (String × UInt64)) :
    Exporter :=
  { exporter with tableSize := size, sources := putAll exporter.sources counts }

/-- Set the gauges of the counting table. -/
def recordTable (exporter : Exporter) (snapshot : Snapshot) : Exporter :=
  exporter.recordCounts snapshot.size.toUInt64
    (snapshot.entries.map fun e => (e.addr.text, e.count))

/-- Set the values of named results. -/
def recordNamed (exporter : Exporter) (values : List (String × UInt64)) : Exporter :=
  { exporter with results := putAll exporter.results values }

/-- Set the gauges of the result slots. -/
def recordResults (exporter : Exporter) (results : List ResultEntry) : Exporter :=
  exporter.recordNamed (results.map fun e => (e.slot.name, e.value))

/-- Set the gauges of a tally. -/
def recordTally (exporter : Exporter) (tally : Tally) : Exporter :=
  { exporter with
    invocations := putAll exporter.invocations
      [("short_frame", tally.shortFrames), ("parsed", tally.parsed), ("counted", tally.counted),
        ("inserted", tally.inserted), ("missed", tally.missed)]
    verdicts := putAll exporter.verdicts tally.verdicts.entries }

/-- The families that have values, in the order of their names. -/
def families (exporter : Exporter) : List String :=
  [Metrics.invocations.text exporter.invocations, Metrics.results.text exporter.results,
    Metrics.sources.text exporter.sources, some (tableText exporter.tableSize),
    Metrics.verdicts.text exporter.verdicts].filterMap id

/-- All families. -/
def render (exporter : Exporter) : Logged String := do
  let families := exporter.families
  Logged.log .metrics .debug ("Rendering " ++ toString families.length ++ " metric families")
  return String.join families

end Exporter

end SourceTally
