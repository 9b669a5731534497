import SourceTally.Config.Decode
import SourceTally.Data.Json

/-!
# Reading a configuration from JSON

A configuration is an object with the fields of a configuration, none of them twice and no others,
or an array of their values in order, of which the last ones may be absent. The commands read
configurations from YAML only; this is the decoding that clients of the library have for any
self-describing format, here for JSON. It does not validate what it has decoded.

## Main definitions

* `Config.ofValue?`: decode a structured value
* `Config.parseJson?`: read a text
-/

namespace SourceTally.Config

/-- Decode a policy: its name, or an object that gives the name a null value. -/
def policyOfValue? : Value → Option InsertPolicy
  | .text name => InsertPolicy.ofName? name
  | .record [(name, .null)] => InsertPolicy.ofName? name
  | _ => none

def textOfValue? : Value → Option String
  | .text text => some text
  | _ => none

def hostsOfValue? : Value → Option (List Address)
  | .list items => items.mapM fun item => (textOfValue? item).bind Address.ofText?
  | _ => none

/-- Decode the value of a field. -/
def Draft.setValue? (draft : Draft) (value : Value) : Key → Option Draft
  | .policy => (policyOfValue? value).map fun policy => { draft with policy := some policy }
  | .license => (textOfValue? value).map fun license => { draft with license := some license }
  | .hosts => (hostsOfValue? value).map fun hosts => { draft with hosts := some hosts }

/-- Decode one field of an object. -/
def Draft.addValue? (draft : Draft) (field : String × Value) : Option Draft :=
  match Key.ofName? field.1 with
  | none => none
  | some key => if draft.has key then none else draft.setValue? field.2 key

/-- Decode a structured value. -/
def ofValue? : Value → Option Config
  | .record fields => (fields.foldlM Draft.addValue? {}).map Draft.config
  | .list items =>
    if items.length ≤ 3 then
      ((items.zip [Key.policy, Key.license, Key.hosts]).foldlM
        (fun draft (value, key) => Draft.setValue? draft value key) {}).map Draft.config
    else
      none
  | _ => none

def parseJson? (text : String) : Option Config := (Json.parse? text).bind ofValue?

end SourceTally.Config
