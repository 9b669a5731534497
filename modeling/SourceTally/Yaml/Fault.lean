/-!
# Faults in a YAML text

The reasons for which a text is not a YAML document.
-/

namespace SourceTally.Yaml

/-- Why a text cannot be read on. -/
inductive Fault where
  | forbiddenCharacter
  | unexpectedEnd
  | noToken
  | missingColon
  | entryNotAllowed
  | keyNotAllowed
  | valueNotAllowed
  | badDirective
  | badVersion
  | badAnchor
  | badTag
  | badBlockHeader
  | tabInIndentation
  | indicatorInScalar
  | badEscape
  | colonInFlow
  | duplicateDirective
  | unknownTagHandle
  | unknownAnchor
  | noDocumentStart
  | noContent
  | noEntry
  | noKey
  | noSeparator
  | severalDocuments
  | tooDeep
  deriving DecidableEq, Repr

def Fault.message : Fault → String
  | forbiddenCharacter => "control characters are not allowed"
  | unexpectedEnd => "found unexpected end of stream"
  | noToken => "found character that cannot start any token"
  | missingColon => "could not find expected ':'"
  | entryNotAllowed => "block sequence entries are not allowed in this context"
  | keyNotAllowed => "mapping keys are not allowed in this context"
  | valueNotAllowed => "mapping values are not allowed in this context"
  | badDirective => "found a malformed directive"
  | badVersion => "found incompatible YAML document"
  | badAnchor => "did not find expected alphabetic or numeric character"
  | badTag => "found a malformed tag"
  | badBlockHeader => "found a malformed block scalar header"
  | tabInIndentation => "found a tab character where an indentation space is expected"
  | indicatorInScalar => "found unexpected document indicator"
  | badEscape => "found a malformed escape sequence"
  | colonInFlow => "found unexpected ':'"
  | duplicateDirective => "found duplicate directive"
  | unknownTagHandle => "found undefined tag handle"
  | unknownAnchor => "unknown anchor"
  | noDocumentStart => "did not find expected <document start>"
  | noContent => "did not find expected node content"
  | noEntry => "did not find expected '-' indicator"
  | noKey => "did not find expected key"
  | noSeparator => "did not find expected ',' or closing bracket"
  | severalDocuments => "deserializing from YAML containing more than one document is not supported"
  | tooDeep => "recursion limit exceeded"

end SourceTally.Yaml
