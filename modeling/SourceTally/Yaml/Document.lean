import SourceTally.Yaml.Node
import SourceTally.Yaml.Tokens

/-!
# From tokens to a document

Nodes are read from the tokens by descent. The first fault ends the reading; the collections that
are open then keep what they have and end in a gap. An anchor gets the number of names that were
known before it, and an alias stands for the node that was last started under its name's number.

## Main definitions

* `Reader`: the tokens ahead and the anchors so far
* `readNode`: one node with its properties
* `Document.ofText`: the first document of a text
-/

namespace SourceTally.Yaml

/-- The tokens ahead, and the anchors so far. -/
structure Reader where
  rest : List PlacedToken
  /-- What ends the tokens if they do not reach the end of the text. -/
  ending : Fault
  /-- The fault that ended the reading. -/
  fault : Option Fault := none
  /-- Tag handles and what they stand for. -/
  handles : List (Tag × Tag) := []
  /-- Number of each anchor name, the latest first. -/
  names : List (String × Nat) := []
  /-- Which anchored node was last started under a number. -/
  started : List (Nat × Nat) := []
  /-- Anchored nodes read so far, by the order in which they were started. -/
  nodes : List (Nat × Node) := []
  /-- How many different names were given. -/
  known : Nat := 0
  /-- How many anchored nodes were started. -/
  count : Nat := 0

namespace Reader

def peek (r : Reader) : Option Token :=
  if r.fault.isSome then none else r.rest.head?.map (·.token)

/-- Where the next token starts. -/
def mark (r : Reader) : Mark := (r.rest.head?.map (·.mark)).getD {}

/-- Move over a token. -/
def skip (r : Reader) : Reader := { r with rest := r.rest.tail }

/-- End the reading with a fault; the first one stays. -/
def stop (r : Reader) (fault : Fault) : Reader :=
  { r with fault := some (r.fault.getD fault) }

/-- End the reading because the next token is not there or not the right one. -/
def unexpected (r : Reader) (fault : Fault) : Reader :=
  r.stop (if r.rest.isEmpty then r.ending else fault)

def gap (r : Reader) : Node := .gap (r.fault.getD r.ending)

/-- Start a node, under an anchor if it has one. The answer is its place among anchored nodes. -/
def start (r : Reader) : Option String → Option Nat × Reader
  | none => (none, r)
  | some name =>
    (some r.count, { r with
      names := (name, r.known) :: r.names
      started := (r.known, r.count) :: r.started
      known := if (r.names.lookup name).isSome then r.known else r.known + 1
      count := r.count + 1 })

def keep (r : Reader) (place : Option Nat) (node : Node) : Reader :=
  match place with
  | none => r
  | some place => { r with nodes := (place, node) :: r.nodes }

/-- The node that each number stands for in the end. -/
def targets (r : Reader) : List (Nat × Node) :=
  r.started.filterMap fun (number, place) => (r.nodes.lookup place).map (number, ·)

end Reader

/-- Where a node stands: in a block, as key or value of a block mapping, or inside brackets. -/
inductive Place where
  | block
  | blockEntry
  | flow
  deriving DecidableEq, Repr

/-- Read an anchor and a tag, in either order, each at most once. -/
def readProperties (r : Reader) : Option String × Option (Tag × Tag) × Reader :=
  match r.peek with
  | some (.anchor name) =>
    match r.skip.peek with
    | some (.tag handle suffix) => (some name, some (handle, suffix), r.skip.skip)
    | _ => (some name, none, r.skip)
  | some (.tag handle suffix) =>
    match r.skip.peek with
    | some (.anchor name) => (some name, some (handle, suffix), r.skip.skip)
    | _ => (none, some (handle, suffix), r.skip)
  | _ => (none, none, r)

/-- The tag that a handle and a suffix stand for. -/
def resolveTag (r : Reader) : Option (Tag × Tag) → Except Fault (Option Tag)
  | none => .ok none
  | some (handle, suffix) =>
    if handle.isEmpty then .ok (some suffix)
    else
      match r.handles.lookup handle with
      | some stem => .ok (some (stem ++ suffix))
      | none => .error .unknownTagHandle

/-- Whether a block mapping has no key or value where this token stands. -/
def endsBlockEntry : Option Token → Bool
  | some .key | some .value | some .blockEnd => true
  | _ => false

mutual

def readNode : Nat → Place → Reader → Node × Reader
  | 0, _, r => (.gap .tooDeep, r.stop .tooDeep)
  | fuel + 1, place, r =>
    match r.peek with
    | some (.alias name) =>
      match r.names.lookup name with
      | some number => (.alias r.mark number, r.skip)
      | none => (.gap .unknownAnchor, r.skip.stop .unknownAnchor)
    | _ =>
      let mark := r.mark
      let (anchor, tag, r) := readProperties r
      match r.peek with
      | none => let r := r.unexpected .noContent; (r.gap, r)
      | some token =>
        match resolveTag r tag with
        | .error fault => (.gap fault, r.stop fault)
        | .ok tag => readContent fuel place mark anchor tag token r

/-- Read the content of a node that starts at a mark and whose anchor and tag have been read. -/
def readContent : Nat → Place → Mark → Option String → Option Tag → Token → Reader → Node × Reader
  | 0, _, _, _, _, _, r => (.gap .tooDeep, r.stop .tooDeep)
  | fuel + 1, place, mark, anchor, tag, token, r =>
    let (kept, opened) := r.start anchor
    let sequence := fun (items : List Node × Reader) =>
      let node := Node.sequence mark tag items.1
      (node, items.2.keep kept node)
    let mapping := fun (entries : List (Node × Node) × Reader) =>
      let node := Node.mapping mark tag entries.1
      (node, entries.2.keep kept node)
    match token, place with
    | .blockEntry, .blockEntry => sequence (readEntries fuel false opened)
    | .scalar text style, _ =>
      let node := Node.scalar mark tag style text
      (node, opened.skip.keep kept node)
    | .flowSequenceStart, _ => sequence (readFlowItems fuel true opened.skip)
    | .flowMappingStart, _ => mapping (readFlowEntries fuel true opened.skip)
    | .blockSequence, .block | .blockSequence, .blockEntry =>
      sequence (readEntries fuel true opened.skip)
    | .blockMapping, .block | .blockMapping, .blockEntry =>
      mapping (readBlockEntries fuel opened.skip)
    | _, _ =>
      if anchor.isSome || tag.isSome then
        let node := Node.scalar mark tag .plain ""
        (node, opened.keep kept node)
      else
        (.gap .noContent, r.stop .noContent)

/-- Read the entries of a block sequence. One without a column of its own ends where its entries
end. -/
def readEntries : Nat → Bool → Reader → List Node × Reader
  | 0, _, r => ([.gap .tooDeep], r.stop .tooDeep)
  | fuel + 1, indented, r =>
    match r.peek with
    | some .blockEntry =>
      let r := r.skip
      let absent :=
        match r.peek with
        | some .blockEntry | some .blockEnd => true
        | some .key | some .value => !indented
        | _ => false
      let (item, r) := if absent then (Node.absent r.mark, r) else readNode fuel .block r
      if r.fault.isSome then ([item, r.gap], r)
      else
        let (items, r) := readEntries fuel indented r
        (item :: items, r)
    | some .blockEnd => if indented then ([], r.skip) else ([], r)
    | none => let r := r.unexpected .noEntry; ([r.gap], r)
    | some _ =>
      if indented then
        let r := r.stop .noEntry
        ([r.gap], r)
      else ([], r)

def readBlockEntries : Nat → Reader → List (Node × Node) × Reader
  | 0, r => ([(.gap .tooDeep, .gap .tooDeep)], r.stop .tooDeep)
  | fuel + 1, r =>
    match r.peek with
    | some .blockEnd => ([], r.skip)
    | some .key =>
      let r := r.skip
      let (key, r) :=
        if endsBlockEntry r.peek then (Node.absent r.mark, r) else readNode fuel .blockEntry r
      match r.peek with
      | none => let r := r.unexpected .noKey; ([(key, r.gap)], r)
      | some token =>
        let (value, r) :=
          if token = .value then
            let r := r.skip
            if endsBlockEntry r.peek then (Node.absent r.mark, r)
            else readNode fuel .blockEntry r
          else (Node.absent r.mark, r)
        if r.fault.isSome then ([(key, value), (r.gap, r.gap)], r)
        else
          let (entries, r) := readBlockEntries fuel r
          ((key, value) :: entries, r)
    | _ => let r := r.unexpected .noKey; ([(r.gap, r.gap)], r)

/-- Read the items of a sequence in brackets. A key among them starts a mapping of one entry. -/
def readFlowItems : Nat → Bool → Reader → List Node × Reader
  | 0, _, r => ([.gap .tooDeep], r.stop .tooDeep)
  | fuel + 1, first, r =>
    match r.peek with
    | some .flowSequenceEnd => ([], r.skip)
    | none => let r := r.unexpected .noSeparator; ([r.gap], r)
    | some token =>
      if !first && token ≠ .flowEntry then
        let r := r.stop .noSeparator
        ([r.gap], r)
      else
        let r := if first then r else r.skip
        match r.peek with
        | some .flowSequenceEnd => ([], r.skip)
        | none => let r := r.unexpected .noSeparator; ([r.gap], r)
        | some token =>
          let (item, r) := if token = .key then readPair fuel r.skip else readNode fuel .flow r
          if r.fault.isSome then ([item, r.gap], r)
          else
            let (items, r) := readFlowItems fuel false r
            (item :: items, r)

/-- Read the key and value of a mapping of one entry inside a sequence. A missing key takes the
token that stands in its place. -/
def readPair : Nat → Reader → Node × Reader
  | 0, r => (.gap .tooDeep, r.stop .tooDeep)
  | fuel + 1, r =>
    let mark := r.mark
    let pair := fun (key value : Node) (r : Reader) => (Node.mapping mark none [(key, value)], r)
    let (key, r) :=
      match r.peek with
      | some .value | some .flowEntry | some .flowSequenceEnd => (Node.absent mark, r.skip)
      | _ => readNode fuel .flow r
    match r.peek with
    | none => let r := r.unexpected .noSeparator; pair key r.gap r
    | some .value =>
      let r := r.skip
      match r.peek with
      | some .flowEntry | some .flowSequenceEnd => pair key (.absent r.mark) r
      | _ =>
        let (value, r) := readNode fuel .flow r
        pair key value r
    | some _ => pair key (.absent r.mark) r

/-- Read the entries of a mapping in brackets. -/
def readFlowEntries : Nat → Bool → Reader → List (Node × Node) × Reader
  | 0, _, r => ([(.gap .tooDeep, .gap .tooDeep)], r.stop .tooDeep)
  | fuel + 1, first, r =>
    match r.peek with
    | some .flowMappingEnd => ([], r.skip)
    | none => let r := r.unexpected .noSeparator; ([(r.gap, r.gap)], r)
    | some token =>
      if !first && token ≠ .flowEntry then
        let r := r.stop .noSeparator
        ([(r.gap, r.gap)], r)
      else
        let r := if first then r else r.skip
        match r.peek with
        | some .flowMappingEnd => ([], r.skip)
        | none => let r := r.unexpected .noSeparator; ([(r.gap, r.gap)], r)
        | some token =>
          let explicit := token == .key
          let r := if explicit then r.skip else r
          let (key, r) :=
            match explicit, r.peek with
            | true, some .value | true, some .flowEntry | true, some .flowMappingEnd =>
              (Node.absent r.mark, r)
            | _, _ => readNode fuel .flow r
          match r.peek with
          | none => let r := r.unexpected .noSeparator; ([(key, r.gap)], r)
          | some token =>
            let (value, r) :=
              if explicit && token == .value then
                let r := r.skip
                match r.peek with
                | some .flowEntry | some .flowMappingEnd => (Node.absent r.mark, r)
                | _ => readNode fuel .flow r
              else (Node.absent r.mark, r)
            if r.fault.isSome then ([(key, value), (r.gap, r.gap)], r)
            else
              let (entries, r) := readFlowEntries fuel false r
              ((key, value) :: entries, r)

end

/-- Handles that every document knows. -/
def defaultHandles : List (Tag × Tag) :=
  [(Tag.bang, Tag.bang), (Tag.ofChars ['!', '!'], Tag.ofChars "tag:yaml.org,2002:".toList)]

/-- Read the directives of a document: at most one version, and no handle twice. -/
def readDirectives (versioned : Bool) : List PlacedToken → Reader → Reader
  | ⟨.version major minor, _⟩ :: rest, r =>
    if versioned then r.stop .duplicateDirective
    else if major ≠ 1 ∨ (minor ≠ 1 ∧ minor ≠ 2) then r.stop .badVersion
    else readDirectives true rest { r with rest }
  | ⟨.tagDirective handle stem, _⟩ :: rest, r =>
    if (r.handles.lookup handle).isSome then r.stop .duplicateDirective
    else readDirectives versioned rest { r with rest, handles := r.handles ++ [(handle, stem)] }
  | rest, r => { r with rest, handles := r.handles ++ defaultHandles }

/-- What is wrong behind the root: anything but ends of the document and the end of the text. -/
def trailingFault (ending : Fault) : List PlacedToken → Option Fault
  | [] => some ending
  | ⟨.streamEnd, _⟩ :: _ => none
  | ⟨.documentEnd, _⟩ :: rest => trailingFault ending rest
  | _ :: _ => some .severalDocuments

def Reader.document (r : Reader) (root : Node) : Document where
  root := some root
  targets := r.targets
  trailing := r.fault.or (trailingFault r.ending r.rest)

/-- A document without anything but a fault. -/
def Document.faulty (fault : Fault) : Document := { root := some (.gap fault) }

/-- The first document among the tokens. -/
def Document.ofTokens (tokens : List PlacedToken) (ending : Fault) : Document :=
  let fuel := 4 * tokens.length + 8
  let r := readDirectives false tokens { rest := tokens, ending }
  match tokens.head?.map PlacedToken.token with
  | none => .faulty ending
  | some .streamEnd => { root := none }
  | some (.version ..) | some (.tagDirective ..) | some .documentStart =>
    match r.peek with
    | some .documentStart =>
      let r := r.skip
      match r.peek with
      | some (.version ..) | some (.tagDirective ..) | some .documentStart | some .documentEnd
      | some .streamEnd => r.document (.absent r.mark)
      | _ =>
        let (root, r) := readNode fuel .block r
        r.document root
    | _ => .faulty ((r.unexpected .noDocumentStart).fault.getD ending)
  | some _ =>
    let (root, r) := readNode fuel .block r
    r.document root

def Document.ofText (text : String) : Document :=
  let (tokens, fault) := tokens text.toList
  .ofTokens tokens (fault.getD .unexpectedEnd)

end SourceTally.Yaml
