import FfiBindings.Markup.Mark

/-!
# What can be wrong with a document

A complaint names the problem and where it was noticed and, for most problems, what was being read
at the time and where that began.
-/

namespace FfiBindings.Markup

/-- What was being read when a problem was noticed. -/
inductive Activity where
  | nextToken
  | simpleKey
  | directive
  | versionDirective
  | tagDirective
  | tagDirectiveHandle
  | tagDirectiveName
  | tagDirectiveAddress
  | anchor
  | alias
  | tag
  | tagAddress
  | blockScalar
  | quotedScalar
  | escapeSequence
  | plainScalar
  | node
  | blockNode
  | flowNode
  | blockCollection
  | blockMapping
  | flowSequence
  | flowMapping
  deriving Repr, DecidableEq

/-- The activity in words. -/
def Activity.message : Activity → Text
  | .nextToken => "while scanning for the next token"
  | .simpleKey => "while scanning a simple key"
  | .directive => "while scanning a directive"
  | .versionDirective => "while scanning a %YAML directive"
  | .tagDirective => "while scanning a %TAG directive"
  | .tagDirectiveHandle => "while scanning a tag directive"
  | .tagDirectiveName => "while parsing a tag directive"
  | .tagDirectiveAddress => "while parsing a %TAG directive"
  | .anchor => "while scanning an anchor"
  | .alias => "while scanning an alias"
  | .tag => "while scanning a tag"
  | .tagAddress => "while parsing a tag"
  | .blockScalar => "while scanning a block scalar"
  | .quotedScalar => "while scanning a quoted scalar"
  | .escapeSequence => "while parsing a quoted scalar"
  | .plainScalar => "while scanning a plain scalar"
  | .node => "while parsing a node"
  | .blockNode => "while parsing a block node"
  | .flowNode => "while parsing a flow node"
  | .blockCollection => "while parsing a block collection"
  | .blockMapping => "while parsing a block mapping"
  | .flowSequence => "while parsing a flow sequence"
  | .flowMapping => "while parsing a flow mapping"

/-- What is wrong. -/
inductive Problem where
  | forbiddenCharacter
  | noTokenStart
  | keyWithoutColon
  | entryNotAllowed
  | keyNotAllowed
  | valueNotAllowed
  | unknownDirective
  | directiveNotEnded
  | noDirectiveName
  | badDirectiveName
  | noVersionSeparator
  | longVersion
  | noVersion
  | noHandleStart
  | noHandleEnd
  | noGapAfterHandle
  | noEndAfterTagDirective
  | noAddress
  | noAddressEnd
  | noEndAfterTag
  | noEscapedOctet
  | badLeadingOctet
  | badTrailingOctet
  | noAnchorName
  | zeroIndentation
  | scalarHeaderNotEnded
  | tabInIndentation
  | markerInQuotes
  | quotesNotClosed
  | unknownEscape
  | noHexadecimal
  | badCodePoint
  | colonInFlow
  | tabBeforeText
  | noDocumentStart
  | undefinedHandle
  | duplicateVersion
  | incompatibleVersion
  | duplicateTagDirective
  | noContent
  | noDash
  | noKey
  | noCommaInSequence
  | noCommaInMapping
  deriving Repr, DecidableEq

/-- The problem in words. -/
def Problem.message : Problem → Text
  | .forbiddenCharacter => "control characters are not allowed"
  | .noTokenStart => "found character that cannot start any token"
  | .keyWithoutColon => "could not find expected ':'"
  | .entryNotAllowed => "block sequence entries are not allowed in this context"
  | .keyNotAllowed => "mapping keys are not allowed in this context"
  | .valueNotAllowed => "mapping values are not allowed in this context"
  | .unknownDirective => "found unknown directive name"
  | .directiveNotEnded => "did not find expected comment or line break"
  | .noDirectiveName => "could not find expected directive name"
  | .badDirectiveName => "found unexpected non-alphabetical character"
  | .noVersionSeparator => "did not find expected digit or '.' character"
  | .longVersion => "found extremely long version number"
  | .noVersion => "did not find expected version number"
  | .noHandleStart => "did not find expected '!'"
  | .noHandleEnd => "did not find expected '!'"
  | .noGapAfterHandle => "did not find expected whitespace"
  | .noEndAfterTagDirective => "did not find expected whitespace or line break"
  | .noAddress => "did not find expected tag URI"
  | .noAddressEnd => "did not find the expected '>'"
  | .noEndAfterTag => "did not find expected whitespace or line break"
  | .noEscapedOctet => "did not find URI escaped octet"
  | .badLeadingOctet => "found an incorrect leading UTF-8 octet"
  | .badTrailingOctet => "found an incorrect trailing UTF-8 octet"
  | .noAnchorName => "did not find expected alphabetic or numeric character"
  | .zeroIndentation => "found an indentation indicator equal to 0"
  | .scalarHeaderNotEnded => "did not find expected comment or line break"
  | .tabInIndentation => "found a tab character where an indentation space is expected"
  | .markerInQuotes => "found unexpected document indicator"
  | .quotesNotClosed => "found unexpected end of stream"
  | .unknownEscape => "found unknown escape character"
  | .noHexadecimal => "did not find expected hexadecimal number"
  | .badCodePoint => "found invalid Unicode character escape code"
  | .colonInFlow => "found unexpected ':'"
  | .tabBeforeText => "found a tab character that violates indentation"
  | .noDocumentStart => "did not find expected <document start>"
  | .undefinedHandle => "found undefined tag handle"
  | .duplicateVersion => "found duplicate %YAML directive"
  | .incompatibleVersion => "found incompatible YAML document"
  | .duplicateTagDirective => "found duplicate %TAG directive"
  | .noContent => "did not find expected node content"
  | .noDash => "did not find expected '-' indicator"
  | .noKey => "did not find expected key"
  | .noCommaInSequence => "did not find expected ',' or ']'"
  | .noCommaInMapping => "did not find expected ',' or '\x7d'"

/-- A problem with a document. A forbidden character is found before any line is counted, so it is
    placed by its byte offset instead of a mark. -/
structure Complaint where
  problem : Problem
  mark : Mark
  offset : Nat
  context : Option (Activity × Mark)
  deriving Repr, DecidableEq

namespace Complaint

/-- A problem noticed at a mark, without more to say about it. -/
def bare (problem : Problem) (mark : Mark) : Complaint := ⟨problem, mark, 0, none⟩

/-- A problem noticed at a mark while something that began earlier was being read. -/
def during (activity : Activity) (start : Mark) (problem : Problem) (mark : Mark) : Complaint :=
  ⟨problem, mark, 0, some (activity, start)⟩

/-- The complaint in words. A place is mentioned unless it is the start of the document, and the
    place of the context only where it differs from that of the problem. -/
def message (complaint : Complaint) : Text :=
  let place : Text :=
    if !complaint.mark.isOrigin then " at " ++ complaint.mark.message
    else if complaint.offset != 0 then " at position " ++ Text.decimal complaint.offset
    else []
  let setting : Text :=
    match complaint.context with
    | none => []
    | some (activity, start) =>
        let differs := start.line != complaint.mark.line || start.column != complaint.mark.column
        ", " ++ activity.message ++
          if !start.isOrigin && differs then " at " ++ start.message else []
  complaint.problem.message ++ place ++ setting

end Complaint

end FfiBindings.Markup
