import FfiBindings.Markup.Scanner

/-!
# From tokens to events

Events say what a document consists of: scalars, references to anchors, and sequences and mappings
that start and end. They are derived from the tokens by a stack of goals. The goal on top looks at
the next token, takes it or not, and is replaced by the goals that are still to be met. What the
token list lacks, such as the value of a key without one, appears as an empty plain scalar.
-/

namespace FfiBindings.Markup

/-- What a document consists of. -/
inductive Event where
  | documentStart
  | documentEnd
  | streamEnd
  | alias (name : Text)
  | scalar (anchor tag : Option Text) (value : Text) (style : ScalarStyle)
  | sequenceStart (anchor : Option Text)
  | sequenceEnd
  | mappingStart (anchor : Option Text)
  | mappingEnd
  deriving Repr, DecidableEq

/-- An event and the position where it starts. -/
abbrev PlacedEvent := Event × Mark

/-- What is still to be read. -/
inductive Goal where
  | stream
  /-- A document. The first of a stream may do without a marker. -/
  | document (isFirst : Bool)
  | documentContent
  | documentEnd
  /-- A node, in a block or inside brackets. In a mapping a sequence may lack its indentation. -/
  | node (isBlock mayLackIndent : Bool)
  | blockEntries (start : Mark)
  | bareEntries
  | blockPairs (start : Mark)
  | blockValue
  | flowEntries (start : Mark) (isFirst : Bool)
  | flowPairs (start : Mark) (isFirst : Bool)
  | flowValue
  /-- A value that is missing in any case. -/
  | noValue
  /-- The key, the value and the end of a mapping of one pair inside a sequence. -/
  | lonePairKey
  | lonePairValue
  | lonePairEnd
  deriving Repr, DecidableEq

/-- What tag handles stand for. -/
abbrev TagTable := List (Text × Text)

/-- The handles that need no directive. -/
def defaultTags : TagTable :=
  [(("!" : String).toList, ("!" : String).toList),
    (("!!" : String).toList, ("tag:yaml.org,2002:" : String).toList)]

/-- What one step of the derivation gives: events, the goals that take the place of the one that
    was met, and the tokens that are left. -/
structure Derivation where
  events : List PlacedEvent
  goals : List Goal
  tokens : List Token
  tags : TagTable
  deriving Repr, DecidableEq

/-- The event of a scalar that is not written. -/
def emptyScalar (mark : Mark) : PlacedEvent := (.scalar none none [] .plain, mark)

/-- Read the directives ahead. Handles without one keep their default. -/
def readDirectives (hasVersion : Bool) (table : TagTable) :
    List Token → Except Complaint (TagTable × List Token)
  | [] => .ok (table ++ defaultTags, [])
  | token :: rest =>
      match token.kind with
      | .versionDirective major minor =>
          if hasVersion then .error (.bare .duplicateVersion token.start)
          else if major != 1 || (minor != 1 && minor != 2) then
            .error (.bare .incompatibleVersion token.start)
          else readDirectives true table rest
      | .tagDirective handle expansion =>
          if (table.lookup handle).isSome then
            .error (.bare .duplicateTagDirective token.start)
          else readDirectives hasVersion (table ++ [(handle, expansion)]) rest
      | _ => .ok (table ++ defaultTags, token :: rest)

/-- The anchor and the tag in front of a node. -/
structure Properties where
  anchor : Option Text
  /-- The handle and the suffix of the tag, and where it stands. -/
  tag : Option (Text × Text × Mark)
  /-- Where the first of them stands. -/
  start : Option Mark
  deriving Repr, DecidableEq

/-- Take the anchor and the tag ahead, at most one of each and in either order. -/
def takeProperties : List Token → Properties × List Token
  | ⟨.anchor name, start, _⟩ :: ⟨.tag handle suffix, mark, _⟩ :: rest =>
      (⟨some name, some (handle, suffix, mark), some start⟩, rest)
  | ⟨.anchor name, start, _⟩ :: rest => (⟨some name, none, some start⟩, rest)
  | ⟨.tag handle suffix, mark, _⟩ :: ⟨.anchor name, _, _⟩ :: rest =>
      (⟨some name, some (handle, suffix, mark), some mark⟩, rest)
  | ⟨.tag handle suffix, mark, _⟩ :: rest =>
      (⟨none, some (handle, suffix, mark), some mark⟩, rest)
  | tokens => (⟨none, none, none⟩, tokens)

/-- What an address is worth: an escaped null character ends it. -/
def cutAtNull (address : Text) : Text := address.takeWhile (· != '\x00')

/-- The tag that a handle and a suffix stand for. -/
def expandTag? (tags : TagTable) (handle suffix : Text) : Option Text :=
  let suffix := cutAtNull suffix
  if handle.isEmpty then some suffix else (tags.lookup handle).map (cutAtNull · ++ suffix)

/-- Derive a node from the tokens after its properties. -/
def deriveContent (isBlock mayLackIndent : Bool) (tags : TagTable) (anchor tag : Option Text)
    (start : Mark) (token : Token) (rest : List Token) : Except Complaint Derivation :=
  let opened (event : Event) (goals : List Goal) : Except Complaint Derivation :=
    .ok ⟨[(event, start)], goals, rest, tags⟩
  match token.kind, isBlock with
  | .scalar value style, _ =>
      opened (.scalar anchor (tag.filter (· != ['!'])) value style) []
  | .flowSequenceStart, _ => opened (.sequenceStart anchor) [.flowEntries token.start true]
  | .flowMappingStart, _ => opened (.mappingStart anchor) [.flowPairs token.start true]
  | .blockSequenceStart, true => opened (.sequenceStart anchor) [.blockEntries token.start]
  | .blockMappingStart, true => opened (.mappingStart anchor) [.blockPairs token.start]
  | kind, _ =>
      if kind == .blockEntry && mayLackIndent then
        .ok ⟨[(.sequenceStart anchor, start)], [.bareEntries], token :: rest, tags⟩
      else if anchor.isSome || tag.isSome then
        .ok ⟨[(.scalar anchor tag [] .plain, start)], [], token :: rest, tags⟩
      else
        .error (.during (if isBlock then .blockNode else .flowNode) start .noContent token.start)

/-- Derive a node. The failure is what stands in the place of a token that is missing. -/
def deriveNode (failure : Option Complaint) (isBlock mayLackIndent : Bool) (tags : TagTable)
    (tokens : List Token) : Except (Option Complaint) Derivation :=
  match tokens with
  | ⟨.alias name, start, _⟩ :: rest => .ok ⟨[(.alias name, start)], [], rest, tags⟩
  | tokens =>
      match takeProperties tokens with
      | (_, []) => .error failure
      | (properties, token :: rest) =>
          let start := properties.start.getD token.start
          let tag : Except Complaint (Option Text) :=
            match properties.tag with
            | none => .ok none
            | some (handle, suffix, mark) =>
                match expandTag? tags handle suffix with
                | some tag => .ok (some tag)
                | none => .error (.during .node start .undefinedHandle mark)
          (tag.bind fun tag =>
            deriveContent isBlock mayLackIndent tags properties.anchor tag start token rest
              ).mapError some

/-- Whether one of the kinds is that of the token. -/
def Token.isAny (token : Token) (kinds : List TokenKind) : Bool := kinds.contains token.kind

/-- Whether a directive or a document marker starts here, or the stream ends. -/
def Token.isBoundary (token : Token) : Bool :=
  match token.kind with
  | .versionDirective .. | .tagDirective .. | .documentStart | .documentEnd | .streamEnd => true
  | _ => false

/-- Meet one goal with the tokens ahead. -/
def derive (failure : Option Complaint) (tags : TagTable) (goal : Goal) (tokens : List Token) :
    Except (Option Complaint) Derivation :=
  match tokens with
  | [] => .error failure
  | token :: rest =>
      let nodeUnless (kinds : List TokenKind) (rest : List Token) (mark : Mark)
          (isBlock mayLackIndent : Bool) (goals : List Goal) :
          Except (Option Complaint) Derivation :=
        match rest with
        | [] => .error failure
        | next :: _ =>
            if next.isAny kinds then .ok ⟨[emptyScalar mark], goals, rest, tags⟩
            else .ok ⟨[], .node isBlock mayLackIndent :: goals, rest, tags⟩
      let finished (event : Event) : Except (Option Complaint) Derivation :=
        .ok ⟨[(event, token.start)], [], rest, tags⟩
      match goal with
      | .stream => .ok ⟨[], [.document true], rest, tags⟩
      | .document true =>
          if token.isBoundary && token.kind != .documentEnd then
            .ok ⟨[], [.document false], tokens, tags⟩
          else
            .ok ⟨[(.documentStart, token.start)],
              [.node true false, .documentEnd, .document false], tokens, defaultTags⟩
      | .document false =>
          match tokens.dropWhile (·.kind == .documentEnd) with
          | [] => .error failure
          | token :: rest =>
              if token.kind == .streamEnd then .ok ⟨[(.streamEnd, token.start)], [], rest, tags⟩
              else
                match readDirectives false [] (token :: rest) with
                | .error complaint => .error (some complaint)
                | .ok (_, []) => .error failure
                | .ok (tags, marker :: rest) =>
                    if marker.kind == .documentStart then
                      .ok ⟨[(.documentStart, token.start)],
                        [.documentContent, .documentEnd, .document false], rest, tags⟩
                    else .error (some (.bare .noDocumentStart marker.start))
      | .documentContent =>
          if token.isBoundary then .ok ⟨[emptyScalar token.start], [], tokens, tags⟩
          else .ok ⟨[], [.node true false], tokens, tags⟩
      | .documentEnd =>
          .ok ⟨[(.documentEnd, token.start)], [],
            if token.kind == .documentEnd then rest else tokens, tags⟩
      | .node isBlock mayLackIndent => deriveNode failure isBlock mayLackIndent tags tokens
      | .blockEntries start =>
          if token.kind == .blockEntry then
            nodeUnless [.blockEntry, .blockEnd] rest token.stop true false [.blockEntries start]
          else if token.kind == .blockEnd then finished .sequenceEnd
          else .error (some (.during .blockCollection start .noDash token.start))
      | .bareEntries =>
          if token.kind == .blockEntry then
            nodeUnless [.blockEntry, .key, .value, .blockEnd] rest token.stop true false
              [.bareEntries]
          else .ok ⟨[(.sequenceEnd, token.start)], [], tokens, tags⟩
      | .blockPairs start =>
          if token.kind == .key then
            nodeUnless [.key, .value, .blockEnd] rest token.stop true true
              [.blockValue, .blockPairs start]
          else if token.kind == .blockEnd then finished .mappingEnd
          else .error (some (.during .blockMapping start .noKey token.start))
      | .blockValue =>
          if token.kind == .value then
            nodeUnless [.key, .value, .blockEnd] rest token.stop true true []
          else .ok ⟨[emptyScalar token.start], [], tokens, tags⟩
      | .flowEntries start isFirst =>
          if token.kind == .flowSequenceEnd then finished .sequenceEnd
          else if !isFirst && token.kind != .flowEntry then
            .error (some (.during .flowSequence start .noCommaInSequence token.start))
          else
            match if isFirst then tokens else rest with
            | [] => .error failure
            | next :: after =>
                if next.kind == .key then
                  .ok ⟨[(.mappingStart none, next.start)],
                    [.lonePairKey, .lonePairValue, .lonePairEnd, .flowEntries start false],
                    after, tags⟩
                else if next.kind == .flowSequenceEnd then
                  .ok ⟨[(.sequenceEnd, next.start)], [], after, tags⟩
                else .ok ⟨[], [.node false false, .flowEntries start false], next :: after, tags⟩
      | .lonePairKey =>
          if token.isAny [.value, .flowEntry, .flowSequenceEnd] then
            .ok ⟨[emptyScalar token.stop], [], rest, tags⟩
          else .ok ⟨[], [.node false false], tokens, tags⟩
      | .lonePairValue =>
          if token.kind == .value then
            match rest with
            | [] => .error failure
            | next :: _ =>
                nodeUnless [.flowEntry, .flowSequenceEnd] rest next.start false false []
          else .ok ⟨[emptyScalar token.start], [], tokens, tags⟩
      | .lonePairEnd => .ok ⟨[(.mappingEnd, token.start)], [], tokens, tags⟩
      | .flowPairs start isFirst =>
          if token.kind == .flowMappingEnd then finished .mappingEnd
          else if !isFirst && token.kind != .flowEntry then
            .error (some (.during .flowMapping start .noCommaInMapping token.start))
          else
            match if isFirst then tokens else rest with
            | [] => .error failure
            | next :: after =>
                if next.kind == .key then
                  match after with
                  | [] => .error failure
                  | content :: _ =>
                      nodeUnless [.value, .flowEntry, .flowMappingEnd] after content.start false
                        false [.flowValue, .flowPairs start false]
                else if next.kind == .flowMappingEnd then
                  .ok ⟨[(.mappingEnd, next.start)], [], after, tags⟩
                else
                  .ok ⟨[], [.node false false, .noValue, .flowPairs start false], next :: after,
                    tags⟩
      | .flowValue =>
          if token.kind == .value then
            match rest with
            | [] => .error failure
            | next :: _ =>
                nodeUnless [.flowEntry, .flowMappingEnd] rest next.start false false []
          else .ok ⟨[emptyScalar token.start], [], tokens, tags⟩
      | .noValue => .ok ⟨[emptyScalar token.start], [], tokens, tags⟩

/-- Meet the goals on the stack one after another. Fuel bounds the number of steps. -/
def deriveAll (failure : Option Complaint) :
    Nat → TagTable → List Goal → List Token → List PlacedEvent × Option Complaint
  | 0, _, _, _ => ([], failure)
  | _ + 1, _, [], _ => ([], none)
  | fuel + 1, tags, goal :: goals, tokens =>
      match derive failure tags goal tokens with
      | .error complaint => ([], complaint)
      | .ok step =>
          let (events, complaint) :=
            deriveAll failure fuel step.tags (step.goals ++ goals) step.tokens
          (step.events ++ events, complaint)

/-- The events of a document text, up to the first complaint about it. Every token is taken after
    at most three goals have been put aside, so the fuel never runs out. -/
def events (text : Text) : List PlacedEvent × Option Complaint :=
  let (tokens, failure) := tokens text
  deriveAll failure (8 * (tokens.length + 2)) defaultTags [.stream] tokens

end FfiBindings.Markup
