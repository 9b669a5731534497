/-!
# Insert policy

What counting may do with a source it has not seen before.
-/

namespace SourceTally

/-- Whether an unknown source may take a free slot. -/
inductive InsertPolicy where
  /-- Only seeded sources are counted. -/
  | lookupOnly
  /-- An unknown source claims a free slot when it is first seen. -/
  | lookupOrInsert
  deriving DecidableEq, Repr, Inhabited

namespace InsertPolicy

/-- The policy as a control word. -/
def raw : InsertPolicy → UInt32
  | lookupOnly => 0
  | lookupOrInsert => 1

/-- The policy of a control word; every word but one means that nothing is inserted. -/
def ofRaw (word : UInt32) : InsertPolicy :=
  if word = 1 then lookupOrInsert else lookupOnly

/-- The name in configurations and reports. -/
def name : InsertPolicy → String
  | lookupOnly => "lookup_only"
  | lookupOrInsert => "lookup_or_insert"

def ofName? (text : String) : Option InsertPolicy :=
  if text = lookupOnly.name then some lookupOnly
  else if text = lookupOrInsert.name then some lookupOrInsert
  else none

/-- The name in a printed table description. -/
def label : InsertPolicy → String
  | lookupOnly => "LookupOnly"
  | lookupOrInsert => "LookupOrInsert"

@[simp]
theorem ofRaw_raw (policy : InsertPolicy) : ofRaw policy.raw = policy := by
  cases policy <;> rfl

end InsertPolicy

end SourceTally
