import SourceTally.Yaml.Cursor
import SourceTally.Yaml.Token

/-!
# Nodes of a YAML document

A document is a tree of scalars, sequences and mappings. An alias stands for a node elsewhere in the
document. Where the text broke off, the tree has a gap: whoever reaches it finds the fault, and what
comes before it can be used.

## Main definitions

* `Node`: the tree
* `Document`: the tree with the targets of its aliases and the state of the text behind it
* `Document.resolve`: the node that an alias stands for
-/

namespace SourceTally.Yaml

/-- A node of a document, with the mark of its start. -/
inductive Node where
  | scalar (mark : Mark) (tag : Option Tag) (style : Style) (text : String)
  | sequence (mark : Mark) (tag : Option Tag) (items : List Node)
  | mapping (mark : Mark) (tag : Option Tag) (entries : List (Node × Node))
  /-- An alias, by the number of its anchor. -/
  | alias (mark : Mark) (number : Nat)
  /-- Nothing could be read here. -/
  | gap (fault : Fault)
  deriving Repr, Inhabited

def Node.absent (mark : Mark) : Node := .scalar mark none .plain ""

/-- Where a node starts. -/
def Node.mark : Node → Mark
  | .scalar mark .. | .sequence mark .. | .mapping mark .. | .alias mark _ => mark
  | .gap _ => {}

/-- A document: its root if the text is not empty, the nodes its aliases stand for, and the fault
that the text has behind the root. -/
structure Document where
  root : Option Node
  targets : List (Nat × Node) := []
  trailing : Option Fault := none

/-- Where the root starts. -/
def Document.mark (doc : Document) : Mark := (doc.root.map Node.mark).getD {}

/-- The node itself, or what it stands for if it is an alias. -/
def Document.resolve (doc : Document) (node : Node) : Node :=
  match node with
  | .alias _ number => (doc.targets.lookup number).getD (.gap .unknownAnchor)
  | node => node

end SourceTally.Yaml
