import FfiBindings.Markup.Property

/-!
# From characters to tokens

The scanner reads one token after another and keeps what later tokens depend on: the indentation of
the open block collections, and the places where a key may have started. That a scalar is a key
shows only at the colon behind it; then the token for the key is put in before it, and the token for
the mapping before that. So tokens in front of which a key token may still come are held back.
-/

namespace FfiBindings.Markup

/-- A place where a key may have started. -/
structure PossibleKey where
  /-- Whether nothing but a key can stand here, because a block mapping goes on in this column. -/
  isRequired : Bool
  /-- How many tokens come before it. -/
  number : Nat
  mark : Mark
  deriving Repr, DecidableEq

/-- What the scanner has in mind between two tokens. -/
structure Scanner where
  cursor : Cursor
  /-- All tokens so far, in order. -/
  tokens : List Token
  /-- The place where a key may have started, for each open bracket from the innermost on and for
      the text outside all brackets. -/
  keys : List (Option PossibleKey)
  /-- The columns of the open block collections, the innermost first. -/
  indents : List Nat
  /-- Whether a key may start here. -/
  keyAllowed : Bool
  deriving Repr, DecidableEq

namespace Scanner

/-- Before the first character. -/
def start (text : Text) : Scanner :=
  { cursor := ⟨text, .origin⟩, tokens := [⟨.streamStart, .origin, .origin⟩], keys := [none],
    indents := [], keyAllowed := true }

/-- Whether a bracket is open. -/
def inFlow (scanner : Scanner) : Bool := 1 < scanner.keys.length

/-- The position of the next character. -/
def mark (scanner : Scanner) : Mark := scanner.cursor.mark

/-- Add a token at the end. -/
def emit (scanner : Scanner) (token : Token) : Scanner :=
  { scanner with tokens := scanner.tokens ++ [token] }

/-- How far a key and its colon may lie apart, in bytes. -/
def keyLimit : Nat := 1024

/-- Whether the place lies too far back to be that of a key, which keeps to one line. -/
def isStale (scanner : Scanner) (key : PossibleKey) : Bool :=
  key.mark.line < scanner.mark.line || key.mark.index + keyLimit < scanner.mark.index

/-- The complaint about a place where only a key could have stood. -/
def keyComplaint (scanner : Scanner) (key : PossibleKey) : Complaint :=
  .during .simpleKey key.mark .keyWithoutColon scanner.mark

/-- Give up the places that lie too far back. -/
def dropStaleKeys (scanner : Scanner) : Except Complaint Scanner :=
  match scanner.keys.reduceOption.find? fun key => scanner.isStale key && key.isRequired with
  | some key => .error (scanner.keyComplaint key)
  | none => .ok { scanner with keys := scanner.keys.map (·.filter (! scanner.isStale ·)) }

/-- Give up the innermost place where a key may have started. -/
def dropKey (scanner : Scanner) : Except Complaint Scanner :=
  match scanner.keys with
  | some key :: outer =>
      if key.isRequired then .error (scanner.keyComplaint key)
      else .ok { scanner with keys := none :: outer }
  | _ => .ok scanner

/-- Note that a key may start here. -/
def noteKey (scanner : Scanner) : Except Complaint Scanner :=
  if scanner.keyAllowed then do
    let key : PossibleKey :=
      { isRequired := !scanner.inFlow && scanner.indents.head? == some scanner.mark.column
        number := scanner.tokens.length
        mark := scanner.mark }
    let scanner ← scanner.dropKey
    return { scanner with keys := some key :: scanner.keys.tail }
  else .ok scanner

/-- Open a block collection in a column unless one is open there. Its token takes the given place
    among all tokens. -/
def openBlock (scanner : Scanner) (column : Nat) (number : Nat) (kind : TokenKind)
    (mark : Mark) : Scanner :=
  if scanner.inFlow || scanner.indents.head?.any (column ≤ ·) then scanner
  else
    { scanner with
      indents := column :: scanner.indents
      tokens := scanner.tokens.insertIdx number ⟨kind, mark, mark⟩ }

/-- Close the block collections for which the test holds, from the innermost on. -/
def closeBlocks (scanner : Scanner) (isClosed : Nat → Bool) : Scanner :=
  if scanner.inFlow then scanner
  else
    let closed := scanner.indents.takeWhile isClosed
    { scanner with
      indents := scanner.indents.drop closed.length
      tokens := scanner.tokens ++
        List.replicate closed.length ⟨.blockEnd, scanner.mark, scanner.mark⟩ }

/-- Pass over some characters and make a token of them. -/
def take (scanner : Scanner) (count : Nat) (kind : TokenKind) : Scanner :=
  let after := scanner.cursor.advance count
  { scanner.emit ⟨kind, scanner.mark, after.mark⟩ with cursor := after }

/-- Pass over white space, comments and line breaks, and over a byte order mark at the start of a
    line. Outside brackets a new line may start a key. Tabs count as white space only where no key
    may start. Fuel bounds the number of lines. -/
def skipToToken : Nat → Scanner → Scanner
  | 0, scanner => scanner
  | fuel + 1, scanner =>
      let cursor :=
        if scanner.mark.column == 0 && scanner.cursor.peek 0 == some '\uFEFF' then
          scanner.cursor.advance 1
        else scanner.cursor
      let allowsTabs := scanner.inFlow || !scanner.keyAllowed
      let cursor := cursor.skipWhile fun c => c == ' ' || (allowsTabs && c == '\t')
      let cursor := if cursor.peek 0 == some '#' then cursor.skipToBreak else cursor
      if (cursor.peek 0).any isBreak then
        skipToToken fuel
          { scanner with
            cursor := cursor.skipBreak
            keyAllowed := scanner.keyAllowed || !scanner.inFlow }
      else { scanner with cursor }

/-- End the stream: what is open is closed, on a line of its own. -/
def endStream (scanner : Scanner) : Except Complaint Scanner := do
  let mark := scanner.mark
  let mark := if mark.column == 0 then mark else ⟨mark.index, mark.line + 1, 0⟩
  let scanner := { scanner with cursor := { scanner.cursor with mark } }
  let scanner ← (scanner.closeBlocks fun _ => true).dropKey
  return { scanner.emit ⟨.streamEnd, mark, mark⟩ with keyAllowed := false }

/-- Read a directive. -/
def directive (scanner : Scanner) : Except Complaint Scanner := do
  let scanner ← (scanner.closeBlocks fun _ => true).dropKey
  let (token, cursor) ← readDirective scanner.cursor
  return { scanner.emit token with cursor, keyAllowed := false }

/-- Read a document marker. -/
def documentMarker (scanner : Scanner) (kind : TokenKind) : Except Complaint Scanner := do
  let scanner ← (scanner.closeBlocks fun _ => true).dropKey
  return { scanner.take 3 kind with keyAllowed := false }

/-- Read an opening bracket. -/
def openFlow (scanner : Scanner) (kind : TokenKind) : Except Complaint Scanner := do
  let scanner ← scanner.noteKey
  return { scanner.take 1 kind with keys := none :: scanner.keys, keyAllowed := true }

/-- Read a closing bracket. -/
def closeFlow (scanner : Scanner) (kind : TokenKind) : Except Complaint Scanner := do
  let scanner ← scanner.dropKey
  let keys := if scanner.inFlow then scanner.keys.tail else scanner.keys
  return { scanner.take 1 kind with keys, keyAllowed := false }

/-- Read a comma between entries in brackets. -/
def flowEntry (scanner : Scanner) : Except Complaint Scanner := do
  let scanner ← scanner.dropKey
  return { scanner.take 1 .flowEntry with keyAllowed := true }

/-- Open a block collection at this token, which can only stand where a key can. Inside brackets
    there is none. -/
def openHere (scanner : Scanner) (kind : TokenKind) (problem : Problem) :
    Except Complaint Scanner :=
  if scanner.inFlow then .ok scanner
  else if scanner.keyAllowed then
    .ok (scanner.openBlock scanner.mark.column scanner.tokens.length kind scanner.mark)
  else .error (.bare problem scanner.mark)

/-- Read the dash of an entry in a block sequence. -/
def blockEntry (scanner : Scanner) : Except Complaint Scanner := do
  let scanner ← scanner.openHere .blockSequenceStart .entryNotAllowed
  let scanner ← scanner.dropKey
  return { scanner.take 1 .blockEntry with keyAllowed := true }

/-- Read the question mark of an explicit key. -/
def explicitKey (scanner : Scanner) : Except Complaint Scanner := do
  let scanner ← scanner.openHere .blockMappingStart .keyNotAllowed
  let scanner ← scanner.dropKey
  return { scanner.take 1 .key with keyAllowed := !scanner.inFlow }

/-- Read the colon before a value. Where a key may have started, now it has. -/
def value (scanner : Scanner) : Except Complaint Scanner :=
  match scanner.keys with
  | some key :: outer =>
      let keyed :=
        { scanner with
          tokens := scanner.tokens.insertIdx key.number ⟨.key, key.mark, key.mark⟩ }
      let opened := keyed.openBlock key.mark.column key.number .blockMappingStart key.mark
      .ok { opened.take 1 .value with keys := none :: outer, keyAllowed := false }
  | _ => do
      let scanner ← scanner.openHere .blockMappingStart .valueNotAllowed
      return { scanner.take 1 .value with keyAllowed := !scanner.inFlow }

/-- Read an anchor or an alias. -/
def anchor (scanner : Scanner) (isAlias : Bool) : Except Complaint Scanner := do
  let scanner ← scanner.noteKey
  let (token, cursor) ← readAnchor isAlias scanner.cursor
  return { scanner.emit token with cursor, keyAllowed := false }

/-- Read a tag. -/
def tag (scanner : Scanner) : Except Complaint Scanner := do
  let scanner ← scanner.noteKey
  let (token, cursor) ← readTag scanner.inFlow scanner.cursor
  return { scanner.emit token with cursor, keyAllowed := false }

/-- Read a block scalar. -/
def blockScalar (scanner : Scanner) (style : ScalarStyle) : Except Complaint Scanner := do
  let scanner ← scanner.dropKey
  let (text, stop, cursor) ←
    readBlock (style == .literal) scanner.indents.head? scanner.cursor
  return { scanner.emit ⟨.scalar text style, scanner.mark, stop⟩ with cursor, keyAllowed := true }

/-- Read a quoted scalar. -/
def quotedScalar (scanner : Scanner) (style : ScalarStyle) : Except Complaint Scanner := do
  let scanner ← scanner.noteKey
  let (text, cursor) ← readQuoted (style == .singleQuoted) scanner.cursor
  return { scanner.emit ⟨.scalar text style, scanner.mark, cursor.mark⟩ with
    cursor, keyAllowed := false }

/-- Read a plain scalar. White space behind it that reaches a new line lets a key start there. -/
def plainScalar (scanner : Scanner) : Except Complaint Scanner := do
  let scanner ← scanner.noteKey
  let indent := (scanner.indents.head?.map (· + 1)).getD 0
  let (plain, cursor) ← readPlain scanner.inFlow indent scanner.cursor
  return { scanner.emit ⟨.scalar plain.value .plain, scanner.mark, plain.stop⟩ with
    cursor, keyAllowed := plain.startsLine }

/-- Whether a character can never start a plain scalar by itself. -/
def isIndicator (c : Char) : Bool :=
  ("-?:,[]\x7b\x7d#&*!|>'\"%@\x60" : String).toList.contains c

/-- Whether a plain scalar starts at the cursor. A dash, question mark or colon can start one when
    it does not stand alone. -/
def startsPlain (scanner : Scanner) (c : Char) (next : Option Char) : Bool :=
  !(isGap c || isBreak c || isIndicator c) || (c == '-' && !next.any isGap) ||
    (!scanner.inFlow && (c == '?' || c == ':') && !endsWord next)

/-- Read the token that starts with a character ahead. -/
def readToken (scanner : Scanner) (c : Char) : Except Complaint Scanner :=
  let cursor := scanner.cursor
  let next := cursor.peek 1
  if scanner.mark.column == 0 && c == '%' then scanner.directive
  else if cursor.atDocumentMarker then
    scanner.documentMarker (if c == '-' then .documentStart else .documentEnd)
  else if c == '[' then scanner.openFlow .flowSequenceStart
  else if c == '\x7b' then scanner.openFlow .flowMappingStart
  else if c == ']' then scanner.closeFlow .flowSequenceEnd
  else if c == '\x7d' then scanner.closeFlow .flowMappingEnd
  else if c == ',' then scanner.flowEntry
  else if c == '-' && endsWord next then scanner.blockEntry
  else if c == '?' && (scanner.inFlow || endsWord next) then scanner.explicitKey
  else if c == ':' && (scanner.inFlow || endsWord next) then scanner.value
  else if c == '*' then scanner.anchor true
  else if c == '&' then scanner.anchor false
  else if c == '!' then scanner.tag
  else if c == '|' && !scanner.inFlow then scanner.blockScalar .literal
  else if c == '>' && !scanner.inFlow then scanner.blockScalar .folded
  else if c == '\'' then scanner.quotedScalar .singleQuoted
  else if c == '"' then scanner.quotedScalar .doubleQuoted
  else if scanner.startsPlain c next then scanner.plainScalar
  else .error (.during .nextToken scanner.mark .noTokenStart scanner.mark)

/-- Go on to the next token and read it, or end the stream. The columns of open collections end
    where a token stands further to the left. The end of the stream stands on a line of its own, so
    it comes too late for any key. -/
def advance (scanner : Scanner) : Except Complaint Scanner := do
  let scanner := skipToToken (scanner.cursor.rest.length + 1) scanner
  let scanner ← scanner.dropStaleKeys
  let scanner := scanner.closeBlocks (scanner.mark.column < ·)
  match scanner.cursor.peek 0 with
  | none => (← scanner.endStream).dropStaleKeys
  | some c => (← scanner.readToken c).dropStaleKeys

/-- The tokens in front of which no key token can come any more. -/
def settled (scanner : Scanner) : List Token :=
  match (scanner.keys.reduceOption.map (·.number)).min? with
  | some number => scanner.tokens.take number
  | none => scanner.tokens

/-- Read token after token. A complaint ends the tokens that were settled before it. Fuel bounds
    the number of tokens read, each of which takes up a character. -/
def run : Nat → Scanner → List Token × Option Complaint
  | 0, scanner => (scanner.settled, none)
  | fuel + 1, scanner =>
      match scanner.advance with
      | .error complaint => (scanner.settled, some complaint)
      | .ok next =>
          if next.tokens.getLast?.map (·.kind) == some .streamEnd then (next.tokens, none)
          else run fuel next

/-- How many bytes have to follow a token before it can be told from others. -/
def lookahead : Nat := 4

/-- Read the tokens of a text of the given size in bytes whose continuation is out of reach. What
    depends on the continuation gives way to the complaint about that. -/
def runToEdge (size : Nat) (beyond : Complaint) : Nat → Scanner → List Token × Option Complaint
  | 0, scanner => (scanner.settled, some beyond)
  | fuel + 1, scanner =>
      let isAtEdge (mark : Mark) : Bool := size < mark.index + lookahead
      match scanner.advance with
      | .error complaint =>
          (scanner.settled, some (if isAtEdge complaint.mark then beyond else complaint))
      | .ok next =>
          if isAtEdge next.mark then (scanner.settled, some beyond)
          else runToEdge size beyond fuel next

end Scanner

/-- Whether a document may hold a character: printable ones, tabs and line breaks. -/
def isAdmitted (c : Char) : Bool :=
  let code := c.toNat
  code == 0x9 || code == 0xA || code == 0xD || (0x20 ≤ code && code ≤ 0x7E) || code == 0x85 ||
    (0xA0 ≤ code && code ≤ 0xFFFD) || 0x10000 ≤ code

/-- The number of bytes that are looked over at once before anything in them is read. -/
def blockSize : Nat := 16384

/-- Cut a text behind as many characters as a number of bytes can hold. -/
def splitBlock : Nat → Text → Text × Text
  | _, [] => ([], [])
  | size, c :: rest =>
      if c.utf8Size ≤ size then
        let (block, rest) := splitBlock (size - c.utf8Size) rest
        (c :: block, rest)
      else ([], c :: rest)

/-- The blocks of a text before the first in which a forbidden character stands. Fuel bounds their
    number. -/
def blocksInOrder : Nat → Text → Text
  | 0, _ => []
  | fuel + 1, text =>
      let (block, rest) := splitBlock blockSize text
      if block.all isAdmitted then block ++ blocksInOrder fuel rest else []

/-- The tokens of a document, up to the first complaint about it. A forbidden character keeps its
    whole block from being read. -/
def tokens (text : Text) : List Token × Option Complaint :=
  let admitted := text.takeWhile isAdmitted
  if admitted.length == text.length then Scanner.run (text.length + 1) (Scanner.start text)
  else
    let readable := blocksInOrder text.length text
    Scanner.runToEdge (Utf8.encode readable).length
      ⟨.forbiddenCharacter, .origin, (Utf8.encode admitted).length, none⟩
      (readable.length + 1) (Scanner.start readable)

end FfiBindings.Markup
