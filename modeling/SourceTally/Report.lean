import SourceTally.Data.Block
import SourceTally.Data.Json
import SourceTally.Metrics
import SourceTally.Text.Column

/-!
# Reports

What the commands print: as a table for people, or as a structured value.

## Main definitions

* `Report`: the outcome of a replay
* `Report.table`, `Report.value`: its two forms
* `Results.table`, `Results.value`: the forms of the result slots
-/

namespace SourceTally

/-- The outcome of a replay. -/
structure Report where
  handler : String
  frames : Nat
  tally : Tally
  snapshot : Snapshot
  deriving DecidableEq, Repr

namespace Report

def word (n : UInt64) : Value := .ofNat n.toNat

def tallyValue (t : Tally) : Value :=
  .record
    [("invocations", word t.invocations), ("short_frames", word t.shortFrames),
      ("parsed", word t.parsed), ("counted", word t.counted), ("inserted", word t.inserted),
      ("missed", word t.missed),
      ("verdicts", .record (t.verdicts.map fun (name, n) => (name, word n)))]

def entryValue (e : CounterEntry) : Value :=
  .record [("addr", .text e.addr.text), ("key", .ofNat e.key.toNat), ("count", word e.count)]

def snapshotValue (s : Snapshot) : Value :=
  .record
    [("policy", .text s.policy.name), ("capacity", .ofNat s.capacity), ("len", .ofNat s.size),
      ("entries", .list (s.entries.map entryValue))]

def value (r : Report) : Value :=
  .record
    [("handler", .text r.handler), ("frames", .ofNat r.frames), ("summary", tallyValue r.tally),
      ("table", snapshotValue r.snapshot)]

def table (r : Report) : List String :=
  ["Handler:      " ++ r.handler,
    "Frames:       " ++ toString r.frames,
    "Invocations:  " ++ toString r.tally.invocations.toNat,
    "Short frames: " ++ toString r.tally.shortFrames.toNat,
    "Counted:      " ++ toString r.tally.counted.toNat,
    "Inserted:     " ++ toString r.tally.inserted.toNat,
    "Missed:       " ++ toString r.tally.missed.toNat] ++
  (r.tally.verdicts.map fun (name, n) =>
    "Verdict " ++ Text.left 14 name ++ " " ++ toString n.toNat) ++
  ["",
    "Counting table (" ++ r.snapshot.policy.name ++ ", " ++ toString r.snapshot.size ++ "/" ++
      toString r.snapshot.capacity ++ " slots)",
    Text.left 18 "SOURCE" ++ " " ++ Text.right 12 "PACKETS"] ++
  (r.snapshot.entries.map fun e =>
    Text.left 18 e.addr.text ++ " " ++ Text.right 12 (toString e.count.toNat))

/-- The report's gauges. -/
def exporter (r : Report) : Exporter :=
  (({} : Exporter).recordTable r.snapshot).recordTally r.tally

end Report

namespace Results

def value (results : List ResultEntry) : Value :=
  .list (results.map fun e =>
    .record [("slot", .ofNat e.slot.index), ("name", .text e.slot.name),
      ("value", .ofNat e.value.toNat)])

/-- One row of the table of results. -/
def row (slot name value : String) : String :=
  Text.left 6 slot ++ " " ++ Text.left 12 name ++ " " ++ Text.right 20 value

def table (results : List ResultEntry) : List String :=
  row "SLOT" "NAME" "VALUE" :: results.map fun e =>
    row (toString e.slot.index) e.slot.name (toString e.value.toNat)

def exporter (results : List ResultEntry) : Exporter := ({} : Exporter).recordResults results

end Results

end SourceTally
