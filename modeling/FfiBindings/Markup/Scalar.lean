import FfiBindings.Markup.Complaint
import FfiBindings.Text.Digit

/-!
# Scalars

The five ways in which a document writes a text. Plain and quoted scalars run over several lines
and fold the line breaks between them; block scalars keep their lines, or fold those that start
without white space. Each reader takes the cursor at the first character of the scalar and leaves
it behind the last one.
-/

namespace FfiBindings.Markup

/-- How a scalar is written. -/
inductive ScalarStyle where
  | plain
  | singleQuoted
  | doubleQuoted
  | literal
  | folded
  deriving Repr, DecidableEq

/-- The white space between two words of a plain or quoted scalar. -/
structure Spacing where
  /-- Spaces and tabs before the first line break. -/
  gaps : Text
  /-- Whether a line break was passed, written or escaped. -/
  isBroken : Bool
  /-- The first line break, absent where it was escaped. -/
  firstBreak : Text
  /-- The line breaks after the first. -/
  laterBreaks : Text
  deriving Repr, DecidableEq

namespace Spacing

/-- No white space. -/
def none : Spacing := ⟨[], false, [], []⟩

/-- Spacing that starts with an escaped line break. -/
def escapedBreak : Spacing := ⟨[], true, [], []⟩

/-- What the spacing is worth in the value. A single line feed folds into a space and further ones
    stand for themselves; a Unicode separator is always kept. -/
def text (spacing : Spacing) : Text :=
  if !spacing.isBroken then spacing.gaps
  else if spacing.firstBreak == ['\n'] then
    if spacing.laterBreaks.isEmpty then [' '] else spacing.laterBreaks
  else spacing.firstBreak ++ spacing.laterBreaks

/-- Take in one more line break. -/
def addBreak (spacing : Spacing) (lineBreak : Text) : Spacing :=
  if spacing.isBroken then { spacing with laterBreaks := spacing.laterBreaks ++ lineBreak }
  else { spacing with gaps := [], isBroken := true, firstBreak := lineBreak }

/-- Take in one more space or tab, which counts only before the first line break. -/
def addGap (spacing : Spacing) (c : Char) : Spacing :=
  if spacing.isBroken then spacing else { spacing with gaps := spacing.gaps ++ [c] }

end Spacing

/-- Read on through white space. A tab that stands after a line break and before column `indent` is
    refused. -/
def readSpacing (indent : Nat) (start : Mark) (spacing : Spacing) (cursor : Cursor) :
    Except Complaint (Spacing × Cursor) :=
  match _ahead : cursor.rest with
  | [] => .ok (spacing, cursor)
  | c :: _ =>
      if isGap c then
        if spacing.isBroken && cursor.mark.column < indent && c == '\t' then
          .error (.during .plainScalar start .tabBeforeText cursor.mark)
        else readSpacing indent start (spacing.addGap c) (cursor.advance 1)
      else if _isEnd : isBreak c then
        readSpacing indent start (spacing.addBreak cursor.readBreak.1) cursor.readBreak.2
      else .ok (spacing, cursor)
termination_by cursor.rest.length
decreasing_by
  · simp [Cursor.advance, _ahead]
  · exact Cursor.readBreak_length_lt (by simp [_ahead]) _isEnd

/-- Whether a plain scalar ends in front of this character: at a colon that ends a word and, inside
    brackets, at a comma or a bracket. -/
def endsPlain (inFlow : Bool) (c : Char) (next : Option Char) : Bool :=
  (c == ':' && endsWord next) ||
    (inFlow && (c == ',' || c == '[' || c == ']' || c == '\x7b' || c == '\x7d'))

/-- Whether a colon inside brackets stands where it can be neither text nor the end of a key. -/
def isStrayColon (inFlow : Bool) (c : Char) (next : Option Char) : Bool :=
  inFlow && c == ':' &&
    next.any fun n => n == ',' || n == '?' || n == '[' || n == ']' || n == '\x7b' || n == '\x7d'

/-- Read one word of a plain scalar, which no white space interrupts. -/
def readPlainWord (inFlow : Bool) (start : Mark) (word : Text) (mark : Mark) :
    Text → Except Complaint (Text × Cursor)
  | [] => .ok (word, ⟨[], mark⟩)
  | c :: rest =>
      if isGap c || isBreak c then .ok (word, ⟨c :: rest, mark⟩)
      else if isStrayColon inFlow c rest.head? then
        .error (.during .plainScalar start .colonInFlow mark)
      else if endsPlain inFlow c rest.head? then .ok (word, ⟨c :: rest, mark⟩)
      else readPlainWord inFlow start (word ++ [c]) (mark.advance [c]) rest

/-- A scalar that was read, with the position after its last character and whether white space
    behind it reached a new line. -/
structure PlainText where
  value : Text
  stop : Mark
  startsLine : Bool
  deriving Repr, DecidableEq

/-- Read a plain scalar word by word. Outside brackets it goes on only at or beyond column
    `indent`. Fuel bounds the number of words. -/
def readPlainWords (inFlow : Bool) (indent : Nat) (start : Mark) :
    Nat → PlainText → Spacing → Cursor → Except Complaint (PlainText × Cursor)
  | 0, plain, _, cursor => .ok (plain, cursor)
  | fuel + 1, plain, spacing, cursor =>
      if cursor.atDocumentMarker || cursor.peek 0 == some '#' then .ok (plain, cursor)
      else do
        let (word, after) ← readPlainWord inFlow start [] cursor.mark cursor.rest
        let plain :=
          if word.isEmpty then plain
          else ⟨plain.value ++ spacing.text ++ word, after.mark, false⟩
        let pending := if word.isEmpty then spacing else .none
        if (after.peek 0).all fun c => !isGap c && !isBreak c then return (plain, after)
        let (spacing, next) ← readSpacing indent start pending after
        let plain := { plain with startsLine := spacing.isBroken }
        if !inFlow && next.mark.column < indent then return (plain, next)
        readPlainWords inFlow indent start fuel plain spacing next

/-- Read a plain scalar. -/
def readPlain (inFlow : Bool) (indent : Nat) (cursor : Cursor) :
    Except Complaint (PlainText × Cursor) :=
  readPlainWords inFlow indent cursor.mark (cursor.rest.length + 1) ⟨[], cursor.mark, false⟩ .none
    cursor

/-- What a letter after a backslash stands for: a character, or a code point in the given number of
    hexadecimal digits. -/
inductive Escape where
  | char (c : Char)
  | code (digits : Nat)
  deriving Repr, DecidableEq

/-- The escape sequences of double quotes. -/
def escape? : Char → Option Escape
  | '0' => some (.char '\x00')
  | 'a' => some (.char '\x07')
  | 'b' => some (.char '\x08')
  | 't' | '\t' => some (.char '\t')
  | 'n' => some (.char '\n')
  | 'v' => some (.char '\x0b')
  | 'f' => some (.char '\x0c')
  | 'r' => some (.char '\r')
  | 'e' => some (.char '\x1b')
  | ' ' => some (.char ' ')
  | '"' => some (.char '"')
  | '/' => some (.char '/')
  | '\\' => some (.char '\\')
  | 'N' => some (.char '\u0085')
  | '_' => some (.char '\u00a0')
  | 'L' => some (.char '\u2028')
  | 'P' => some (.char '\u2029')
  | 'x' => some (.code 2)
  | 'u' => some (.code 4)
  | 'U' => some (.code 8)
  | _ => none

/-- How one word of a quoted scalar ends. -/
inductive WordEnd where
  /-- At white space or at the end of the document. -/
  | spacing
  /-- At the closing quote. -/
  | closed
  /-- At an escaped line break, which has been passed over. -/
  | escapedBreak
  deriving Repr, DecidableEq

/-- Read one word of a single-quoted scalar. A quote is written twice inside it. -/
def readSingleWord (word : Text) (mark : Mark) : Text → Text × WordEnd × Cursor
  | [] => (word, .spacing, ⟨[], mark⟩)
  | '\'' :: '\'' :: rest => readSingleWord (word ++ ['\'']) (mark.advance ['\'', '\'']) rest
  | c :: rest =>
      if isGap c || isBreak c then (word, .spacing, ⟨c :: rest, mark⟩)
      else if c == '\'' then (word, .closed, ⟨c :: rest, mark⟩)
      else readSingleWord (word ++ [c]) (mark.advance [c]) rest

/-- Read one word of a double-quoted scalar, with its escape sequences resolved. -/
def readDoubleWord (start : Mark) (word : Text) (cursor : Cursor) :
    Except Complaint (Text × WordEnd × Cursor) :=
  match _ahead : cursor.rest with
  | [] => .ok (word, .spacing, cursor)
  | c :: rest =>
      if isGap c || isBreak c then .ok (word, .spacing, cursor)
      else if c == '"' then .ok (word, .closed, cursor)
      else if c == '\\' then
        if rest.head?.any isBreak then
          .ok (word, .escapedBreak, (cursor.advance 1).skipBreak)
        else
          match rest.head?.bind escape? with
          | none => .error (.during .escapeSequence start .unknownEscape cursor.mark)
          | some (.char value) => readDoubleWord start (word ++ [value]) (cursor.advance 2)
          | some (.code digits) =>
              let code := (rest.drop 1).take digits
              let noted := (cursor.advance 2).mark
              match if code.length == digits then Text.hexNumber? code else none with
              | none => .error (.during .escapeSequence start .noHexadecimal noted)
              | some value =>
                  if Text.isCodePoint value then
                    readDoubleWord start (word ++ [Char.ofNat value]) (cursor.advance (2 + digits))
                  else .error (.during .escapeSequence start .badCodePoint noted)
      else readDoubleWord start (word ++ [c]) (cursor.advance 1)
termination_by cursor.rest.length
decreasing_by all_goals (simp [Cursor.advance, _ahead]; try omega)

/-- Read the words of a quoted scalar up to and including the closing quote. Fuel bounds the number
    of words. -/
def readQuotedWords (isSingle : Bool) (start : Mark) :
    Nat → Text → Cursor → Except Complaint (Text × Cursor)
  | 0, _, cursor => .error (.during .quotedScalar start .quotesNotClosed cursor.mark)
  | fuel + 1, value, cursor =>
      if cursor.atDocumentMarker then
        .error (.during .quotedScalar start .markerInQuotes cursor.mark)
      else if cursor.rest.isEmpty then
        .error (.during .quotedScalar start .quotesNotClosed cursor.mark)
      else do
        let (word, ending, after) ←
          if isSingle then pure (readSingleWord [] cursor.mark cursor.rest)
          else readDoubleWord start [] cursor
        let quote := if isSingle then '\'' else '"'
        if after.peek 0 == some quote then return (value ++ word, after.advance 1)
        let pending := if ending == .escapedBreak then .escapedBreak else Spacing.none
        let (spacing, next) ← readSpacing 0 start pending after
        readQuotedWords isSingle start fuel (value ++ word ++ spacing.text) next

/-- Read a quoted scalar, the quotes included. -/
def readQuoted (isSingle : Bool) (cursor : Cursor) : Except Complaint (Text × Cursor) :=
  readQuotedWords isSingle cursor.mark (cursor.rest.length + 1) [] (cursor.advance 1)

/-- What happens to the line breaks at the end of a block scalar. -/
inductive Chomping where
  /-- All are dropped. -/
  | strip
  /-- The first is kept. -/
  | clip
  /-- All are kept. -/
  | keep
  deriving Repr, DecidableEq

/-- The first line of a block scalar: the chomping and the indentation, where it is stated. -/
structure BlockHeader where
  chomping : Chomping
  increment : Option Nat
  deriving Repr, DecidableEq

/-- The chomping indicator ahead. -/
def chompingAhead (cursor : Cursor) : Chomping × Cursor :=
  match cursor.peek 0 with
  | some '+' => (.keep, cursor.advance 1)
  | some '-' => (.strip, cursor.advance 1)
  | _ => (.clip, cursor)

/-- The indentation indicator ahead. -/
def incrementAhead (start : Mark) (cursor : Cursor) :
    Except Complaint (Option Nat × Cursor) :=
  match cursor.peek 0 with
  | some c =>
      if c == '0' then .error (.during .blockScalar start .zeroIndentation cursor.mark)
      else if c.isDigit then .ok (some (c.toNat - 0x30), cursor.advance 1)
      else .ok (none, cursor)
  | none => .ok (none, cursor)

/-- Read the indicators of a block scalar, in either order, and the rest of their line. -/
def readBlockHeader (start : Mark) (cursor : Cursor) :
    Except Complaint (BlockHeader × Cursor) := do
  let (chomping, cursor) := chompingAhead cursor
  let (increment, cursor) ← incrementAhead start cursor
  let (chomping, cursor) :=
    if chomping == .clip && increment.isSome then chompingAhead cursor else (chomping, cursor)
  let cursor := cursor.skipGaps
  let cursor := if cursor.peek 0 == some '#' then cursor.skipToBreak else cursor
  if endsLine (cursor.peek 0) then return (⟨chomping, increment⟩, cursor.skipBreak)
  .error (.during .blockScalar start .scalarHeaderNotEnded cursor.mark)

/-- What was passed over between two lines of a block scalar. -/
structure BlankLines where
  breaks : Text
  /-- The widest indentation met. -/
  widest : Nat
  /-- The position after the last line break. -/
  stop : Mark
  deriving Repr, DecidableEq

/-- Pass over blank lines and the indentation of the next line. Without a known indentation all
    spaces belong to it. A tab within the indentation is refused. -/
def readBlankLines (start : Mark) (indent : Option Nat) (blank : BlankLines) (cursor : Cursor) :
    Except Complaint (BlankLines × Cursor) :=
  let spaces := (cursor.takeWhile (· == ' ')).length
  let taken :=
    match indent with
    | none => spaces
    | some column => min spaces (column - cursor.mark.column)
  let inner := cursor.advance taken
  let blank := { blank with widest := max blank.widest inner.mark.column }
  let isInIndentation := indent.all (inner.mark.column < ·)
  if isInIndentation && inner.peek 0 == some '\t' then
    .error (.during .blockScalar start .tabInIndentation inner.mark)
  else
    match _ahead : inner.rest.head? with
    | some c =>
        if _isEnd : isBreak c then
          readBlankLines start indent
            { blank with
              breaks := blank.breaks ++ inner.readBreak.1, stop := inner.readBreak.2.mark }
            inner.readBreak.2
        else .ok (blank, inner)
    | none => .ok (blank, inner)
termination_by cursor.rest.length
decreasing_by
  exact Nat.lt_of_lt_of_le (Cursor.readBreak_length_lt _ahead _isEnd)
    (Cursor.advance_length_le cursor taken)

/-- The lines of a block scalar while they are read. -/
structure BlockText where
  value : Text
  /-- The line break after the last line of text, not yet part of the value. -/
  pendingBreak : Text
  /-- Whether the last line of text starts with white space. -/
  isIndented : Bool
  deriving Repr, DecidableEq

/-- Read the lines of a block scalar at a column. In a folded scalar the break between two lines
    that start without white space becomes a space, or nothing where blank lines follow. Fuel
    bounds the number of lines. -/
def readBlockLines (isLiteral : Bool) (start : Mark) (column : Nat) :
    Nat → BlockText → BlankLines → Cursor → Except Complaint (BlockText × BlankLines × Cursor)
  | 0, block, blank, cursor => .ok (block, blank, cursor)
  | fuel + 1, block, blank, cursor =>
      if cursor.mark.column != column || cursor.rest.isEmpty then .ok (block, blank, cursor)
      else do
        let startsBlank := (cursor.peek 0).any isGap
        let isFolded :=
          !isLiteral && block.pendingBreak == ['\n'] && !block.isIndented && !startsBlank
        let joint : Text :=
          if isFolded then if blank.breaks.isEmpty then [' '] else []
          else block.pendingBreak
        let line := cursor.takeWhile (! isBreak ·)
        let (pendingBreak, after) := (cursor.advance line.length).readBreak
        let block := ⟨block.value ++ joint ++ blank.breaks ++ line, pendingBreak, startsBlank⟩
        let (blank, next) ← readBlankLines start (some column) ⟨[], 0, after.mark⟩ after
        readBlockLines isLiteral start column fuel block blank next

/-- Read a block scalar from its indicator on, inside a collection indented to `parent`. Its value
    and the position after its last line break come first. -/
def readBlock (isLiteral : Bool) (parent : Option Nat) (cursor : Cursor) :
    Except Complaint (Text × Mark × Cursor) := do
  let start := cursor.mark
  let (header, cursor) ← readBlockHeader start (cursor.advance 1)
  let stated := header.increment.map (parent.getD 0 + ·)
  let (blank, cursor) ← readBlankLines start stated ⟨[], 0, cursor.mark⟩ cursor
  let column := stated.getD (max blank.widest (max 1 ((parent.map (· + 1)).getD 0)))
  let (block, blank, cursor) ←
    readBlockLines isLiteral start column (cursor.rest.length + 1) ⟨[], [], false⟩ blank cursor
  let ending : Text :=
    match header.chomping with
    | .strip => []
    | .clip => block.pendingBreak
    | .keep => block.pendingBreak ++ blank.breaks
  return (block.value ++ ending, blank.stop, cursor)

end FfiBindings.Markup
