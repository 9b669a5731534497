import SourceTally.Handler
import SourceTally.Ledger

/-!
# Tallies

Counts of invocations by outcome and by verdict. They are kept beside the counting table, and
handlers never see them.

## Main definitions

* `Tally`: the counts
* `Tally.record`: count one invocation
-/

namespace SourceTally

/-- Counts of invocations. -/
structure Tally where
  invocations : UInt64 := 0
  shortFrames : UInt64 := 0
  parsed : UInt64 := 0
  counted : UInt64 := 0
  inserted : UInt64 := 0
  missed : UInt64 := 0
  verdicts : Ledger String UInt64 := []
  deriving DecidableEq, Repr, Inhabited

namespace Tally

def addOutcome (tally : Tally) : Outcome → Tally
  | .insufficientData => { tally with shortFrames := tally.shortFrames + 1 }
  | .parsed => { tally with parsed := tally.parsed + 1 }
  | .counted (.updated _) => { tally with counted := tally.counted + 1 }
  | .counted .inserted => { tally with inserted := tally.inserted + 1 }
  | .counted .notFound => { tally with missed := tally.missed + 1 }

/-- Count a verdict by its name. -/
def addVerdict (tally : Tally) (verdict : String) : Tally :=
  { tally with
    verdicts := tally.verdicts.put verdict ((tally.verdicts.get? verdict).getD 0 + 1) }

/-- Count one invocation. -/
def record (tally : Tally) (verdict : String) (outcome : Outcome) : Tally :=
  ({ tally with invocations := tally.invocations + 1 }.addOutcome outcome).addVerdict verdict

def observe (tally : Tally) (observation : Observation) : Tally :=
  tally.record observation.verdict.name observation.outcome

end Tally

end SourceTally
