import SourceTally.Config.Basic
import SourceTally.Text.Quoted
import SourceTally.Yaml.Document

/-!
# Reading a configuration from YAML

A configuration is a mapping from field names to values. Entries are decoded in the order of the
document, and the first fault is reported. A field may be absent but not given twice, and there are
no other fields. An empty document is a configuration of defaults.

## Main definitions

* `Config.Key`: the names that may stand as keys
* `Config.Found`, `Config.Wanted`: the two sides of a mismatch
* `Config.DecodeFault`: what can be wrong with a document
* `Config.ofEntries`: decode the entries of a mapping
* `Config.decodeYaml`: decode a text
-/

namespace SourceTally.Config

open Yaml

inductive Key where
  | policy
  | license
  | hosts
  deriving DecidableEq, Repr

namespace Key

def name : Key → String
  | policy => "insert_policy"
  | license => "license"
  | hosts => "known_hosts"

def ofName? (text : String) : Option Key :=
  if text = policy.name then some policy
  else if text = license.name then some license
  else if text = hosts.name then some hosts
  else none

end Key

/-- What stands where something else is wanted. -/
inductive Found where
  | text (content : String)
  | sequence
  | mapping
  deriving DecidableEq, Repr

def Found.phrase : Found → String
  | text content => "string " ++ Text.quote content
  | sequence => "sequence"
  | mapping => "map"

/-- What is wanted where something else stands. -/
inductive Wanted where
  | configuration
  | field
  | text
  | address
  | sequence
  | tag
  | null
  deriving DecidableEq, Repr

def Wanted.mismatch (found : Found) : Wanted → String
  | configuration => "invalid type: " ++ found.phrase ++ ", expected struct ControlPlaneConfig"
  | field => "invalid type: " ++ found.phrase ++ ", expected field identifier"
  | text => "invalid type: " ++ found.phrase ++ ", expected a string"
  | address => "invalid type: " ++ found.phrase ++ ", expected IPv4 address"
  | sequence => "invalid type: " ++ found.phrase ++ ", expected a sequence"
  | tag => "invalid type: " ++ found.phrase ++ ", expected a YAML tag starting with '!'"
  | null =>
    match found with
    | .text _ => "invalid value: " ++ found.phrase ++ ", expected null"
    | _ => "invalid type: " ++ found.phrase ++ ", expected unit"

/-- What is wrong with a document that should be a configuration. The place is the value in which
the fault lies, the mark where the text shows it. -/
inductive DecodeFault where
  /-- The text is no YAML document. -/
  | malformed (fault : Yaml.Fault)
  /-- A node of the wrong kind. -/
  | unexpected (place : Option String) (mark : Mark) (found : Found) (wanted : Wanted)
  | unknownField (mark : Mark) (name : String)
  | duplicateField (mark : Mark) (key : Key)
  /-- A policy that does not exist; one named by a tag is reported without its place. -/
  | unknownPolicy (place : Option String) (mark : Mark) (name : String)
  | invalidAddress (place : String) (mark : Mark)
  deriving DecidableEq, Repr

/-- A place as the start of a message. -/
def placePhrase : Option String → String
  | some place => place ++ ": "
  | none => ""

def DecodeFault.message : DecodeFault → String
  | malformed fault => fault.message
  | unexpected place mark found wanted =>
    placePhrase place ++ wanted.mismatch found ++ mark.phrase
  | unknownField mark name =>
    "unknown field \x60" ++ name ++
      "\x60, expected one of \x60insert_policy\x60, \x60license\x60, \x60known_hosts\x60" ++
      mark.phrase
  | duplicateField mark key => "duplicate field \x60" ++ key.name ++ "\x60" ++ mark.phrase
  | unknownPolicy place mark name =>
    placePhrase place ++ "unknown variant \x60" ++ name ++
      "\x60, expected \x60lookup_only\x60 or \x60lookup_or_insert\x60" ++ mark.phrase
  | invalidAddress place mark => place ++ ": invalid IPv4 address syntax" ++ mark.phrase

def mismatch (place : Option String) (wanted : Wanted) : Node → DecodeFault
  | .scalar mark _ _ text => .unexpected place mark (.text text) wanted
  | .sequence mark _ _ => .unexpected place mark .sequence wanted
  | .mapping mark _ _ => .unexpected place mark .mapping wanted
  | .alias _ _ => .malformed .unknownAnchor
  | .gap fault => .malformed fault

/-- The text of a scalar, whatever its tag. -/
def textOf (doc : Document) (place : Option String) (wanted : Wanted) (node : Node) :
    Except DecodeFault String :=
  match doc.resolve node with
  | .scalar _ _ _ text => .ok text
  | node => .error (mismatch place wanted node)

/-- Whether a scalar is empty and not quoted, and so stands for an absent collection. -/
def isAbsent : Node → Bool
  | .scalar _ _ .plain text => text.isEmpty
  | _ => false

/-- The ways to write that a value is null. -/
def isNull (text : String) : Bool := ["", "~", "null", "Null", "NULL"].contains text

/-- Decode the hosts from the given index on. -/
def addresses (doc : Document) (place : String) : Nat → List Node →
    Except DecodeFault (List Address)
  | _, [] => .ok []
  | index, item :: rest => do
    let itemPlace := place ++ "[" ++ toString index ++ "]"
    let text ← textOf doc (some itemPlace) .address item
    match Address.ofText? text with
    | some addr =>
      let more ← addresses doc place (index + 1) rest
      return addr :: more
    | none => throw (.invalidAddress itemPlace (doc.resolve item).mark)

def hostsOf (doc : Document) (place : String) (node : Node) : Except DecodeFault (List Address) :=
  match doc.resolve node with
  | .sequence _ _ items => addresses doc place 0 items
  | node => if isAbsent node then .ok [] else .error (mismatch (some place) .sequence node)

/-- Whether a node is a plain scalar that stands for null. -/
def isNullNode : Node → Bool
  | .scalar _ _ .plain text => isNull text
  | _ => false

def tagName? : Node → Option String
  | .scalar _ tag _ _ | .sequence _ tag _ | .mapping _ tag _ => tag.bind Tag.name?
  | _ => none

/-- The fault of a tag that names no policy. It shows at the alias if the tag was reached through
one, and otherwise at the start of the document. -/
def unknownTag (doc : Document) (place name : String) : Node → DecodeFault
  | .alias mark _ => .unknownPolicy (some place) mark name
  | _ => .unknownPolicy none doc.mark name

/-- Decode a policy: named by a tag of its own, with a null value, or else by its text. -/
def policyOf (doc : Document) (place : String) (node : Node) : Except DecodeFault InsertPolicy :=
  let target := doc.resolve node
  match tagName? target with
  | some name =>
    match InsertPolicy.ofName? name with
    | some policy =>
      if isNullNode target then .ok policy else .error (mismatch (some place) .null target)
    | none => .error (unknownTag doc place name node)
  | none => do
    let text ← textOf doc (some place) .tag node
    match InsertPolicy.ofName? text with
    | some policy => return policy
    | none => throw (.unknownPolicy (some place) target.mark text)

/-- The fields decoded so far. -/
structure Draft where
  policy : Option InsertPolicy := none
  license : Option String := none
  hosts : Option (List Address) := none
  deriving DecidableEq, Repr

namespace Draft

/-- Whether a field has been decoded. -/
def has (draft : Draft) : Key → Bool
  | .policy => draft.policy.isSome
  | .license => draft.license.isSome
  | .hosts => draft.hosts.isSome

/-- Decode the value of a field. -/
def set (draft : Draft) (doc : Document) (place : String) (value : Node) :
    Key → Except DecodeFault Draft
  | .policy => do
    let policy ← policyOf doc place value
    return { draft with policy := some policy }
  | .license => do
    let license ← textOf doc (some place) .text value
    return { draft with license := some license }
  | .hosts => do
    let hosts ← hostsOf doc place value
    return { draft with hosts := some hosts }

/-- The place of a value in fault reports: its key, unless the key is an alias. -/
def placeOf : Node → String
  | .scalar _ _ _ text => text
  | _ => "?"

/-- Decode one entry: its key, that it is new, and its value. -/
def add (doc : Document) (draft : Draft) (entry : Node × Node) : Except DecodeFault Draft := do
  let name ← textOf doc none .field entry.1
  match Key.ofName? name with
  | none => throw (.unknownField (doc.resolve entry.1).mark name)
  | some field =>
    if draft.has field then throw (.duplicateField doc.mark field)
    draft.set doc (placeOf entry.1) entry.2 field

/-- The configuration with defaults for absent fields. -/
def config (draft : Draft) : Config :=
  let defaults : Config := {}
  { policy := draft.policy.getD defaults.policy
    license := draft.license.getD defaults.license
    hosts := draft.hosts.getD defaults.hosts }

end Draft

/-- Decode the entries of a mapping, in their order. -/
def ofEntries (doc : Document) (entries : List (Node × Node)) : Except DecodeFault Config :=
  (entries.foldlM (Draft.add doc) {}).map Draft.config

def ofRoot (doc : Document) : Except DecodeFault Config :=
  match doc.root.map doc.resolve with
  | none => .ok {}
  | some (.mapping _ _ entries) => ofEntries doc entries
  | some node => if isAbsent node then .ok {} else .error (mismatch none .configuration node)

/-- Decode a document; a fault behind its root counts only if the root can be decoded. -/
def ofDocument (doc : Document) : Except DecodeFault Config := do
  let config ← ofRoot doc
  match doc.trailing with
  | some fault => throw (.malformed fault)
  | none => return config

def decodeYaml (text : String) : Except DecodeFault Config := ofDocument (Document.ofText text)

end SourceTally.Config
