import FfiBindings.Text.Basic

/-!
# Positions in a document

Documents are read from front to back by a cursor, which pairs the text still to come with its
position. Five characters end a line, and a carriage return with a line feed after it counts as
one line break.
-/

namespace FfiBindings.Markup

/-- A position: the number of bytes, of lines and of characters in the line before it. -/
structure Mark where
  index : Nat
  line : Nat
  column : Nat
  deriving Repr, DecidableEq

namespace Mark

/-- The position of the first character. -/
def origin : Mark := ⟨0, 0, 0⟩

/-- The position after some characters of the same line. -/
def advance (mark : Mark) (passed : Text) : Mark :=
  ⟨passed.foldl (fun index c => index + c.utf8Size) mark.index, mark.line,
    mark.column + passed.length⟩

/-- The position at the start of the next line, after a line break of the given width in bytes. -/
def nextLine (mark : Mark) (width : Nat) : Mark := ⟨mark.index + width, mark.line + 1, 0⟩

/-- Whether this is the start of a document, which messages do not mention. -/
def isOrigin (mark : Mark) : Bool := mark.line == 0 && mark.column == 0

/-- The position in words, counted from one. -/
def message (mark : Mark) : Text :=
  "line " ++ Text.decimal (mark.line + 1) ++ " column " ++ Text.decimal (mark.column + 1)

end Mark

/-- Whether the character ends a line. -/
def isBreak (c : Char) : Bool :=
  c == '\n' || c == '\r' || c == '\u0085' || c == '\u2028' || c == '\u2029'

/-- Whether the character separates words within a line. -/
def isGap (c : Char) : Bool := c == ' ' || c == '\t'

/-- Whether a character, or the end of the document in its place, ends a line. -/
def endsLine (c : Option Char) : Bool := c.all isBreak

/-- Whether a character, or the end of the document in its place, ends a word. -/
def endsWord (c : Option Char) : Bool := c.all fun c => isGap c || isBreak c

/-- The text still to come, and where it starts. -/
structure Cursor where
  rest : Text
  mark : Mark
  deriving Repr, DecidableEq

namespace Cursor

/-- The character a given distance ahead. -/
def peek (cursor : Cursor) (distance : Nat) : Option Char := cursor.rest[distance]?

/-- Whether the text to come starts with the given characters. -/
def startsWith (cursor : Cursor) (text : Text) : Bool := text.isPrefixOf cursor.rest

/-- Pass over some characters of the current line. -/
def advance (cursor : Cursor) (count : Nat) : Cursor :=
  ⟨cursor.rest.drop count, cursor.mark.advance (cursor.rest.take count)⟩

/-- The characters of the current line up to the first that fails the test. -/
def takeWhile (test : Char → Bool) (cursor : Cursor) : Text := cursor.rest.takeWhile test

/-- Pass over the characters of the current line up to the first that fails the test. -/
def skipWhile (test : Char → Bool) (cursor : Cursor) : Cursor :=
  cursor.advance (cursor.takeWhile test).length

/-- Pass over the spaces and tabs ahead. -/
def skipGaps (cursor : Cursor) : Cursor := cursor.skipWhile isGap

/-- Pass over everything up to the end of the line. -/
def skipToBreak (cursor : Cursor) : Cursor := cursor.skipWhile (! isBreak ·)

/-- The line break ahead as it is kept in a value, which is a line feed for all but the two Unicode
    separators, and the cursor after it. -/
def readBreak (cursor : Cursor) : Text × Cursor :=
  match cursor.rest with
  | '\r' :: '\n' :: rest => (['\n'], ⟨rest, cursor.mark.nextLine 2⟩)
  | c :: rest =>
      if c == '\u2028' || c == '\u2029' then ([c], ⟨rest, cursor.mark.nextLine c.utf8Size⟩)
      else if isBreak c then (['\n'], ⟨rest, cursor.mark.nextLine c.utf8Size⟩)
      else ([], cursor)
  | [] => ([], cursor)

/-- Pass over the line break ahead, if there is one. -/
def skipBreak (cursor : Cursor) : Cursor := cursor.readBreak.2

/-- Whether a line starts here with one of the two document markers. -/
def atDocumentMarker (cursor : Cursor) : Bool :=
  cursor.mark.column == 0 && (cursor.startsWith "---" || cursor.startsWith "...") &&
    endsWord (cursor.peek 3)

theorem advance_length_le (cursor : Cursor) (count : Nat) :
    (cursor.advance count).rest.length ≤ cursor.rest.length := by
  simp [advance]

/-- A line break ahead is passed over. -/
theorem readBreak_length_lt {cursor : Cursor} {c : Char} (ahead : cursor.rest.head? = some c)
    (isEnd : isBreak c = true) : cursor.readBreak.2.rest.length < cursor.rest.length := by
  unfold readBreak
  split
  · next rest same =>
    rw [same]
    exact Nat.lt_add_of_pos_right (by decide : 0 < 2)
  · next found rest _ same =>
    have equal : found = c := by simpa [same] using ahead
    subst equal
    split
    · simp [same]
    · simp [same]
  · simp_all

end Cursor

end FfiBindings.Markup
