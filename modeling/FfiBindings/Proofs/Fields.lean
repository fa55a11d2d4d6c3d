import FfiBindings.Proofs.Keys
import FfiBindings.Proofs.PlainScalars
import FfiBindings.Proofs.PrintedScalars

/-!
# Fields read back

Whatever the text of a field is and whichever style it is written in, behind it the scanner stands in
front of the next line as it stood in front of this one. So fields are read one after another, with
those of a nested mapping between the others, from the line behind the first comment to the end of the
text, where all mappings are closed.
-/

namespace FfiBindings.Markup.Scanner

variable {scanner : Scanner} {tokens : List Token} {columns indents : List Nat}
  {kinds : List TokenKind} {text name ahead rest : Text} {mark stop : Mark} {c : Char}
  {count column : Nat} {style : ScalarStyle}

/-! ### Texts -/

/-- The scanner behind a text. -/
def behindText (cursor : Cursor) (allowed : Bool) (token : Token) (tokens : List Token)
    (columns : List Nat) : Scanner :=
  ⟨cursor, tokens ++ [token], [none], columns, allowed⟩

/-- The scanner in front of a text. -/
def beforeText (ahead : Text) (mark : Mark) (tokens : List Token) (columns : List Nat) : Scanner :=
  ⟨⟨ahead, mark⟩, tokens, [none], columns, false⟩

/-- The first character of a quoted text or a literal block tells how to read it. -/
theorem readToken_announced (ahead : Text) (tokens : List Token) (columns : List Nat)
    (inside : 0 < mark.column) :
    (beforeText ahead mark tokens columns).readToken '\'' =
        (beforeText ahead mark tokens columns).quotedScalar .singleQuoted ∧
      (beforeText ahead mark tokens columns).readToken '"' =
        (beforeText ahead mark tokens columns).quotedScalar .doubleQuoted ∧
      (beforeText ahead mark tokens columns).readToken '|' =
        (beforeText ahead mark tokens columns).blockScalar .literal := by
  have outside : (beforeText ahead mark tokens columns).inFlow = false := rfl
  have moved : 0 < (beforeText ahead mark tokens columns).mark.column := inside
  obtain ⟨notFirst, noMarker⟩ := notFirst_of_inside moved
  refine ⟨?_, ?_, ?_⟩
  all_goals
    rw [readToken]
    simp only [notFirst, noMarker, outside, Bool.false_and, Bool.false_eq_true, if_false]
    rfl

/-- A text ahead is read as a scalar, up to a text in a column of a later line. -/
def Reads (ahead : Text) (mark : Mark) (tokens : List Token) (columns : List Nat) (text rest : Text)
    (count : Nat) : Prop :=
  StartsToken ahead ∧ ∃ c style next, ahead.head? = some c ∧
    (beforeText ahead mark tokens columns).readToken c = .ok next ∧
      next.Between rest count columns (tokens.map (·.kind) ++ [.scalar text style])

/-- Behind a quoted text the line ends. -/
theorem reads_quoted (starts : StartsToken rest) (startsQuoted : StartsToken (c :: ahead))
    (announced : (beforeText (c :: ahead) mark tokens columns).readToken c =
      (beforeText (c :: ahead) mark tokens columns).quotedScalar style)
    (read : readQuoted (style == .singleQuoted) ⟨c :: ahead, mark⟩ =
      .ok (text, ⟨'\n' :: (spaces count ++ rest), stop⟩)) :
    Reads (c :: ahead) mark tokens columns text rest count := by
  refine ⟨startsQuoted, c, style, behindText ⟨'\n' :: (spaces count ++ rest), stop⟩ false
    ⟨.scalar text style, mark, stop⟩ tokens columns, rfl, ?_, ?_⟩
  · rw [announced, quotedScalar]
    change (readQuoted (style == .singleQuoted) ⟨c :: ahead, mark⟩ >>= _) = _
    rw [read]
    rfl
  · exact ⟨comesTo_nextLine starts rfl rfl, rfl, rfl, List.map_append⟩

theorem reads_single {indent : Nat} (starts : StartsToken rest) (inside : 0 < mark.column)
    (noLineFeed : text.contains '\n' = false) (allowed : allowsSingle text = true)
    (indented : 0 < indent) :
    Reads (printSingle indent text ++ '\n' :: (spaces count ++ rest)) mark tokens columns text rest
      count := by
  obtain ⟨closed, read⟩ : ∃ closed, readQuoted true
      ⟨printSingle indent text ++ '\n' :: (spaces count ++ rest), mark⟩ =
        .ok (text, ⟨'\n' :: (spaces count ++ rest), closed⟩) :=
    readQuoted_single noLineFeed allowed indented (by simp)
  rw [printSingle_eq, List.cons_append] at read ⊢
  exact reads_quoted starts (by rintro c ⟨⟩; decide) (readToken_announced _ _ _ inside).1 read

theorem reads_double (starts : StartsToken rest) (inside : 0 < mark.column) :
    Reads (printDouble text ++ '\n' :: (spaces count ++ rest)) mark tokens columns text rest
      count := by
  obtain ⟨closed, read⟩ : ∃ closed, readQuoted false
      ⟨printDouble text ++ '\n' :: (spaces count ++ rest), mark⟩ =
        .ok (text, ⟨'\n' :: (spaces count ++ rest), closed⟩) :=
    readQuoted_double text
  rw [printDouble, List.cons_append, List.cons_append] at read ⊢
  exact reads_quoted starts (by rintro c ⟨⟩; decide) (readToken_announced _ _ _ inside).2.1 read

theorem StartsToken.head?_solid (starts : StartsToken rest) :
    rest.head?.any isBreak = false ∧ rest.head?.any isGap = false := by
  cases isHead : rest.head? with
  | none => exact ⟨rfl, rfl⟩
  | some c => exact ⟨(starts c isHead).1, (starts c isHead).2.1⟩

theorem reads_literal (starts : StartsToken rest) (inside : 0 < mark.column)
    (isOpen : columns.head? = some column) (left : count ≤ column) (nonempty : text ≠ [])
    (printed : ∀ c ∈ text, isPrintable c = true) :
    Reads (printLiteral (column + indentStep) text ++
      (if text.getLast?.any isBreak then [] else ['\n']) ++ (spaces count ++ rest)) mark tokens columns
      text rest count := by
  obtain ⟨noBreak, noGap⟩ := starts.head?_solid
  have further : count < column + indentStep :=
    Nat.lt_of_le_of_lt left (Nat.lt_add_of_pos_right (by decide))
  obtain ⟨stop, after, rfl, read⟩ : ∃ stop after, after.column = count ∧ readBlock true (some column)
      ⟨printLiteral (column + indentStep) text ++
        (if text.getLast?.any isBreak then [] else ['\n']) ++ (spaces count ++ rest), mark⟩ =
      .ok (text, stop, ⟨rest, after⟩) :=
    readBlock_literal printed nonempty noBreak noGap further
  rw [printLiteral, literalHeader_eq] at read ⊢
  refine ⟨by rintro c ⟨⟩; decide, '|', .literal, behindText ⟨rest, after⟩ true
    ⟨.scalar text .literal, mark, stop⟩ tokens columns, rfl, ?_, ?_⟩
  · rw [(readToken_announced _ _ _ inside).2.2, blockScalar]
    change (readBlock true columns.head? ⟨_, mark⟩ >>= _) = _
    rw [isOpen, read]
    rfl
  · exact ⟨comesTo_here starts rfl rfl, rfl, rfl, List.map_append⟩

/-- A text that is written plain starts neither as something else nor as what is passed over. -/
theorem plain_start {first : Char} {later : Text} (allowed : allowsPlain (first :: later) = true)
    (tail : Text) :
    StartsToken (first :: later ++ '\n' :: tail) ∧
      misleadsAtStart first (later ++ '\n' :: tail).head? = false := by
  have solid := (plainRow_of_allowsPlain (List.cons_ne_nil first later) allowed).starts [] first rfl
  simp only [allowsPlain, Bool.and_eq_true, Bool.not_eq_true', List.all_eq_true] at allowed
  obtain ⟨⟨⟨printed, clear⟩, -⟩, -⟩ := allowed
  have printable := (printed first List.mem_cons_self).1
  simp only [isMisleading, Bool.or_eq_false_iff] at clear
  obtain ⟨⟨-, clear⟩, -⟩ := clear
  have noMark : first ≠ '\uFEFF' := by
    rintro rfl
    simp [isPrintable] at printable
  have noComment : first ≠ '#' := by
    rintro rfl
    simp [misleadsAtStart] at clear
  constructor
  · rintro c ⟨⟩
    exact ⟨solid.2, solid.1, noComment, noMark⟩
  · cases later with
    | nil => exact clear
    | cons next later => exact clear

theorem reads_plain (starts : StartsToken rest) (inside : column < mark.column)
    (isOpen : columns.head? = some column) (left : count ≤ column) (nonempty : text ≠ [])
    (allowed : allowsPlain text = true) :
    Reads (text ++ '\n' :: (spaces count ++ rest)) mark tokens columns text rest count := by
  have solid : ∀ c, rest.head? = some c → isGap c = false ∧ isBreak c = false := fun c isHead =>
    ⟨(starts c isHead).2.1, (starts c isHead).1⟩
  obtain ⟨stop, after, read, rfl⟩ : ∃ stop after, readPlain false (column + 1)
      ⟨text ++ '\n' :: (spaces count ++ rest), mark⟩ = .ok (⟨text, stop, true⟩, ⟨rest, after⟩) ∧
        after.column = count :=
    readPlain_text solid (Nat.lt_succ_of_le left) inside nonempty allowed
  obtain ⟨first, later, rfl⟩ := List.exists_cons_of_ne_nil nonempty
  obtain ⟨startsPlain, clear⟩ := plain_start allowed (spaces after.column ++ rest)
  obtain ⟨noBreak, noGap, -, -⟩ := startsPlain first rfl
  have noMarker : (beforeText (first :: later ++ '\n' :: (spaces after.column ++ rest)) mark tokens
      columns).cursor.atDocumentMarker = false :=
    (notFirst_of_inside (Nat.zero_lt_of_lt inside)).2
  refine ⟨startsPlain, first, .plain, behindText ⟨rest, after⟩ true
    ⟨.scalar (first :: later) .plain, mark, stop⟩ tokens columns, rfl, ?_, ?_⟩
  · rw [readToken_plain rfl noMarker noGap noBreak (by simpa [beforeText] using clear), plainScalar]
    change (readPlain false ((columns.head?.map (· + 1)).getD 0) ⟨_, mark⟩ >>= _) = _
    rw [isOpen]
    change (readPlain false (column + 1) ⟨_, mark⟩ >>= _) = _
    rw [read]
    rfl
  · exact ⟨comesTo_here starts rfl rfl, rfl, rfl, List.map_append⟩

/-- A text is read back in whichever style it is written. -/
theorem reads_text (tokens : List Token) (text : Text) (starts : StartsToken rest)
    (inside : column < mark.column)
    (isOpen : columns.head? = some column) (left : count ≤ column) :
    Reads (printScalar (column + indentStep) text ++ (spaces count ++ rest)) mark tokens columns text
      rest count := by
  have moved : 0 < mark.column := Nat.zero_lt_of_lt inside
  have ended (written : Text) : written ++ ['\n'] ++ (spaces count ++ rest) =
      written ++ '\n' :: (spaces count ++ rest) := by simp
  rcases printScalar_cases (column + indentStep) text with ⟨nonempty, allowed, shape⟩ |
    ⟨noLineFeed, allowed, shape⟩ | ⟨nonempty, printed, shape⟩ | shape
  · rw [shape, ended]
    exact reads_plain starts inside isOpen left nonempty allowed
  · rw [shape, ended]
    exact reads_single starts moved noLineFeed allowed (Nat.add_pos_right _ (by decide))
  · rw [shape]
    exact reads_literal starts moved isOpen left nonempty printed
  · rw [shape, ended]
    exact reads_double starts moved

/-- The text of a field is read, up to the next line. -/
theorem AtValue.scalar (here : scanner.AtValue
      (' ' :: (printScalar (column + indentStep) text ++ (spaces count ++ rest))) column indents kinds)
    (starts : StartsToken rest) (isOpen : indents.head? = some column) (left : count ≤ column) :
    ∃ style next, LeadsTo 1 scanner next ∧
      next.Between rest count indents (kinds ++ [.scalar text style]) := by
  obtain ⟨isRest, inside, keys, noKey, rfl, rfl⟩ := here
  have further : column < (scanner.mark.advance (spaces 1)).column := Nat.lt_succ_of_lt inside
  obtain ⟨startsText, c, style, next, isHead, token, between⟩ :=
    reads_text scanner.tokens text starts further isOpen left
  have isSpaced : scanner.cursor = ⟨spaces 1 ++ (printScalar (column + indentStep) text ++
      (spaces count ++ rest)), scanner.mark⟩ := by
    change (⟨scanner.cursor.rest, scanner.mark⟩ : Cursor) = _
    rw [isRest]
    rfl
  have arrives : skipToToken (scanner.cursor.rest.length + 1) scanner = beforeText
      (printScalar (column + indentStep) text ++ (spaces count ++ rest))
      (scanner.mark.advance (spaces 1)) scanner.tokens scanner.indents := by
    rw [skipToToken_spaces startsText isSpaced, beforeText, ← keys, ← noKey]
  have stays : scanner.indents.head?.any ((scanner.mark.advance (spaces 1)).column < ·) = false := by
    rw [isOpen, Option.any_some, decide_eq_false_iff_not]
    omega
  have advances := advance_of_token arrives (by simp [beforeText]) stays isHead token
    (by simp [between.keys])
  exact ⟨style, next, leadsTo_of_advance advances between.kinds (by simp), between⟩

/-- Where a mapping is the value of a field, its first line is the next one. -/
theorem AtValue.nextLine (here : scanner.AtValue ('\n' :: (spaces count ++ rest)) column indents kinds)
    (starts : StartsToken rest) : scanner.Between rest count indents kinds := by
  obtain ⟨⟨_, mark⟩, tokens, keys, columns, allowed⟩ := scanner
  obtain ⟨rfl, -, rfl, rfl, rfl, rfl⟩ := here
  exact ⟨comesTo_nextLine starts rfl rfl, rfl, rfl, rfl⟩

/-! ### Fields -/

/-- The line of a field with a text in a column, and what stands behind it in another. -/
def textLine (column : Nat) (name text : Text) (count : Nat) (rest : Text) : Text :=
  name ++ ':' :: ' ' :: (printScalar (column + indentStep) text ++ (spaces count ++ rest))

/-- The line of a field with a mapping, and the mapping in a column behind it. -/
def nestedLine (name : Text) (count : Nat) (rest : Text) : Text :=
  name ++ ':' :: '\n' :: (spaces count ++ rest)

/-- A line that starts with a name is not passed over. -/
theorem startsToken_of_isFieldName (isName : isFieldName name = true) :
    StartsToken (name ++ ':' :: rest) := by
  obtain ⟨first, later, rfl⟩ := exists_of_isFieldName isName
  obtain ⟨noGap, noBreak, -⟩ := solid_of_isFieldName isName List.mem_cons_self
  rintro c ⟨⟩
  exact ⟨noBreak, noGap, ne_of_isFieldName isName List.mem_cons_self (by decide),
    ne_of_isFieldName isName List.mem_cons_self (by decide)⟩

/-- The mapping of a field is open behind its name. -/
theorem head?_openedAt (nests : indents.head?.any (column < ·) = false) :
    (openedAt column indents).head? = some column := by
  unfold openedAt
  split
  · next isOpen =>
    cases isHead : indents.head? with
    | none => simp [isHead] at isOpen
    | some indent =>
      simp only [isHead, Option.any_some, decide_eq_true_eq, decide_eq_false_iff_not] at isOpen nests
      exact congrArg some (by omega)
  · rfl

/-- The tokens of a field with a text. -/
def fieldTokens (name text : Text) (style : ScalarStyle) : List TokenKind :=
  [.key, .scalar name .plain, .value, .scalar text style]

/-- A field with a text is read, up to the next line. -/
theorem Between.field
    (between : scanner.Between (textLine column name text count rest) column indents kinds)
    (isName : isFieldName name = true) (nests : indents.head?.any (column < ·) = false)
    (starts : StartsToken rest) (left : count ≤ column) :
    ∃ style next, LeadsTo 3 scanner next ∧ next.Between rest count (openedAt column indents)
      (kinds ++ opening column indents ++ fieldTokens name text style) := by
  obtain ⟨atColon, toColon, colon⟩ := between.key isName rfl nests
  obtain ⟨atValue, toValue, value⟩ := colon.value rfl nests
  obtain ⟨style, next, toNext, isBetween⟩ := value.scalar starts (head?_openedAt nests) left
  refine ⟨style, next, (toColon.trans toValue).trans toNext, ?_⟩
  simpa [fieldTokens] using isBetween

/-- A field with a mapping is read, up to the first field in it. -/
theorem Between.nested
    (between : scanner.Between (nestedLine name count rest) column indents kinds)
    (isName : isFieldName name = true) (nests : indents.head?.any (column < ·) = false)
    (starts : StartsToken rest) :
    ∃ next, LeadsTo 2 scanner next ∧ next.Between rest count (openedAt column indents)
      (kinds ++ opening column indents ++ [.key, .scalar name .plain, .value]) := by
  obtain ⟨atColon, toColon, colon⟩ := between.key isName rfl nests
  obtain ⟨next, toValue, value⟩ := colon.value rfl nests
  exact ⟨next, toColon.trans toValue, value.nextLine starts⟩

/-- At the end of the text all mappings are closed, those of which the end stands to the left first. -/
theorem Between.finish (between : scanner.Between [] 0 indents kinds) :
    ∃ tokens, (∀ fuel, run (fuel + 1) scanner = (tokens, none)) ∧
      tokens.map (·.kind) = kinds ++ List.replicate indents.length .blockEnd ++ [.streamEnd] := by
  obtain ⟨cursor, tokens, keys, columns, allowed⟩ := scanner
  obtain ⟨⟨⟨index, line, _⟩, rfl, arrives⟩, rfl, rfl, rfl⟩ := between
  let blockEnd : Token := ⟨.blockEnd, ⟨index, line, 0⟩, ⟨index, line, 0⟩⟩
  let inner := columns.takeWhile (0 < ·)
  let outer := (columns.drop inner.length).takeWhile fun _ => true
  have allClosed : outer = columns.drop inner.length := List.takeWhile_eq_self_iff.mpr (by simp)
  have isShort : inner.length ≤ columns.length := (List.takeWhile_prefix _).length_le
  have sizes : inner.length + outer.length = columns.length := by
    rw [allClosed, List.length_drop]
    omega
  have advances : advance ⟨cursor, tokens, [none], columns, allowed⟩ = .ok ⟨⟨[], ⟨index, line, 0⟩⟩,
      tokens ++ List.replicate inner.length blockEnd ++ List.replicate outer.length blockEnd ++
        [⟨.streamEnd, ⟨index, line, 0⟩, ⟨index, line, 0⟩⟩], [none],
      (columns.drop inner.length).drop outer.length, false⟩ := by
    rw [advance, arrives]
    rfl
  refine ⟨tokens ++ List.replicate inner.length blockEnd ++ List.replicate outer.length blockEnd ++
    [⟨.streamEnd, ⟨index, line, 0⟩, ⟨index, line, 0⟩⟩], fun fuel => ?_, ?_⟩
  · rw [run, advances]
    simp
  · simp [← sizes, blockEnd]

/-- The line of a comment is passed over. -/
theorem between_start {comment : Text} (solid : ∀ c ∈ comment, isBreak c = false)
    (starts : StartsToken rest) :
    (Scanner.start ('#' :: comment ++ '\n' :: rest)).Between rest 0 [] [.streamStart] := by
  have passed : Cursor.skipToBreak ⟨'#' :: comment ++ '\n' :: rest, .origin⟩ =
      ⟨'\n' :: rest, Mark.origin.advance ('#' :: comment)⟩ := by
    have notBroken : ∀ c ∈ '#' :: comment, (!isBreak c) = true :=
      List.forall_mem_cons.mpr ⟨rfl, fun c member => by simp [solid c member]⟩
    refine Cursor.skipWhile_append notBroken ?_
    rintro c ⟨⟩
    rfl
  refine ⟨⟨(Mark.origin.advance ('#' :: comment)).nextLine 1, rfl, ?_⟩, rfl, rfl, rfl⟩
  rw [skipToToken]
  change (if ((Cursor.skipToBreak ⟨'#' :: comment ++ '\n' :: rest, .origin⟩).peek 0).any isBreak then
    skipToToken _ ⟨(Cursor.skipToBreak ⟨'#' :: comment ++ '\n' :: rest, .origin⟩).skipBreak,
      [⟨.streamStart, .origin, .origin⟩], [none], [], true⟩ else _) = _
  rw [passed]
  exact skipToToken_here starts

end FfiBindings.Markup.Scanner
