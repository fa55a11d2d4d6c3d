import FfiBindings.Proofs.Cursors
import Mathlib.Data.List.InsertIdx
import Mathlib.Data.List.ReduceOption

/-!
# Keys read back

The scanner goes over a name and the colon behind it in two steps, and only at the colon the name turns
out to be a key: then the token for the key is put in before it, and for the first key of a mapping the
token that opens the mapping. Only the kinds of the tokens matter here, and the columns of the open
mappings.
-/

namespace FfiBindings.Markup

variable {text name rest tail : Text} {mark : Mark} {c : Char} {count column : Nat}

/-- A character takes at most four bytes. -/
theorem Mark.index_advance_le (mark : Mark) (passed : Text) :
    (mark.advance passed).index ≤ mark.index + 4 * passed.length := by
  induction passed generalizing mark with
  | nil => exact Nat.le_refl _
  | cons c passed inductionHypothesis =>
    have whole : mark.advance (c :: passed) = (mark.advance [c]).advance passed :=
      (Mark.advance_advance mark [c] passed).symm
    have first : (mark.advance [c]).index = mark.index + c.utf8Size := rfl
    have later := inductionHypothesis (mark.advance [c])
    have small := c.utf8Size_le_four
    rw [whole, List.length_cons]
    omega

/-! ### Names of fields -/

/-- A short name of small letters and underscores. -/
def isFieldName (name : Text) : Bool :=
  !name.isEmpty && name.all (fun c => c.isLower || c == '_') && 4 * name.length ≤ Scanner.keyLimit

/-- No other character occurs in it. -/
theorem ne_of_isFieldName {other : Char} (isName : isFieldName name = true) (member : c ∈ name)
    (differs : (other.isLower || other == '_') = false) : c ≠ other := by
  rintro rfl
  simp only [isFieldName, Bool.and_eq_true, List.all_eq_true] at isName
  simp [isName.1.2 c member] at differs

theorem exists_of_isFieldName (isName : isFieldName name = true) :
    ∃ first later, name = first :: later := by
  cases name with
  | nil => simp [isFieldName] at isName
  | cons first later => exact ⟨first, later, rfl⟩

/-- It holds no white space and no colon. -/
theorem solid_of_isFieldName (isName : isFieldName name = true) (member : c ∈ name) :
    isGap c = false ∧ isBreak c = false ∧ c ≠ ':' := by
  have others (other : Char) (differs : (other.isLower || other == '_') = false) : c ≠ other :=
    ne_of_isFieldName isName member differs
  refine ⟨?_, ?_, others ':' (by decide)⟩
  · simp [isGap, others ' ' (by decide), others '\t' (by decide)]
  · simp [isBreak, others '\n' (by decide), others '\r' (by decide), others '\u0085' (by decide),
      others '\u2028' (by decide), others '\u2029' (by decide)]

/-- It is read as a plain scalar, up to the colon behind it. -/
theorem readPlainWord_colon {word read : Text} {start : Mark}
    (solid : ∀ c ∈ word, isGap c = false ∧ isBreak c = false ∧ c ≠ ':')
    (ends : endsWord tail.head? = true) :
    readPlainWord false start read mark (word ++ ':' :: tail) =
      .ok (read ++ word, ⟨':' :: tail, mark.advance word⟩) := by
  induction word generalizing read mark with
  | nil =>
    have isEnd : endsPlain false ':' tail.head? = true := by simp [endsPlain, ends]
    rw [List.nil_append, readPlainWord, isEnd, List.append_nil]
    rfl
  | cons c word inductionHypothesis =>
    obtain ⟨⟨noGap, noBreak, noColon⟩, solid⟩ := List.forall_mem_cons.mp solid
    have goesOn : endsPlain false c (word ++ ':' :: tail).head? = false := by
      simp [endsPlain, noColon]
    have noStray : isStrayColon false c (word ++ ':' :: tail).head? = false := rfl
    rw [List.cons_append, readPlainWord, noGap, noBreak, noStray, goesOn, Bool.or_false,
      if_neg (by simp), if_neg (by simp), if_neg (by simp), inductionHypothesis solid,
      Mark.advance_advance, List.append_assoc]
    rfl

/-- A document marker starts with a dash or a dot. -/
theorem atDocumentMarker_of_head {start : Char} (noDash : start ≠ '-') (noDot : start ≠ '.') :
    Cursor.atDocumentMarker ⟨start :: tail, mark⟩ = false := by
  have dashes : ("---" : String).toList.isPrefixOf (start :: tail) = false := by
    simp [List.isPrefixOf, Ne.symm noDash]
  have dots : ("..." : String).toList.isPrefixOf (start :: tail) = false := by
    simp [List.isPrefixOf, Ne.symm noDot]
  simp only [Cursor.atDocumentMarker, Cursor.startsWith, dashes, dots, Bool.or_false, Bool.and_false,
    Bool.false_and]

theorem readPlain_name (indent : Nat) (isName : isFieldName name = true)
    (ends : endsWord tail.head? = true) :
    readPlain false indent ⟨name ++ ':' :: tail, mark⟩ =
      .ok (⟨name, mark.advance name, false⟩, ⟨':' :: tail, mark.advance name⟩) := by
  obtain ⟨first, later, rfl⟩ := exists_of_isFieldName isName
  have start (other : Char) (differs : (other.isLower || other == '_') = false) : first ≠ other :=
    ne_of_isFieldName isName List.mem_cons_self differs
  have noMarker : Cursor.atDocumentMarker ⟨first :: later ++ ':' :: tail, mark⟩ = false :=
    atDocumentMarker_of_head (start '-' (by decide)) (start '.' (by decide))
  have noComment : (Cursor.peek ⟨first :: later ++ ':' :: tail, mark⟩ 0 == some '#') = false := by
    simpa using start '#' (by decide)
  rw [readPlain, readPlainWords, noMarker, noComment, Bool.or_false, if_neg (by simp),
    readPlainWord_colon (fun c member => solid_of_isFieldName isName member) ends]
  rfl

namespace Scanner

variable {scanner arrived next : Scanner} {indents : List Nat} {kinds : List TokenKind} {fuel : Nat}

/-! ### Steps of the scanner -/

/-- Places that do not lie too far back are not given up. -/
theorem dropStaleKeys_of_fresh
    (fresh : ∀ key, some key ∈ scanner.keys → scanner.isStale key = false) :
    scanner.dropStaleKeys = .ok scanner := by
  have none : scanner.keys.reduceOption.find? (fun key => scanner.isStale key && key.isRequired) =
      .none := by
    rw [List.find?_eq_none]
    intro key member
    simp [fresh key (List.reduceOption_mem_iff.mp member)]
  have same : scanner.keys.map (·.filter (! scanner.isStale ·)) = scanner.keys := by
    rw [List.map_congr_left (g := id), List.map_id]
    intro key member
    cases key with
    | none => rfl
    | some key => simp [fresh key member]
  rw [dropStaleKeys, none]
  simp only [same]

theorem closeBlocks_of_deeper {isClosed : Nat → Bool}
    (stays : scanner.indents.head?.any isClosed = false) :
    scanner.closeBlocks isClosed = scanner := by
  have nothing : scanner.indents.takeWhile isClosed = [] := by
    cases shape : scanner.indents with
    | nil => rfl
    | cons indent outer =>
      rw [shape, List.head?_cons, Option.any_some] at stays
      simp [stays]
  rw [closeBlocks, nothing]
  split
  · rfl
  · simp

/-- The scanner goes on with the token that it comes to. -/
theorem advance_of_token
    (arrives : skipToToken (scanner.cursor.rest.length + 1) scanner = arrived)
    (fresh : ∀ key, some key ∈ arrived.keys → arrived.isStale key = false)
    (stays : arrived.indents.head?.any (arrived.mark.column < ·) = false)
    (isHead : arrived.cursor.rest.head? = some c) (token : arrived.readToken c = .ok next)
    (nextFresh : ∀ key, some key ∈ next.keys → next.isStale key = false) :
    scanner.advance = .ok next := by
  have ahead : arrived.cursor.peek 0 = some c := by
    rw [← isHead]
    exact Cursor.peek_zero _ _
  rw [advance, arrives, dropStaleKeys_of_fresh fresh]
  simp only [bind, Except.bind, closeBlocks_of_deeper stays, ahead, token,
    dropStaleKeys_of_fresh nextFresh]

/-- Reading a number of tokens leads from one scanner to another. -/
def LeadsTo (count : Nat) (scanner next : Scanner) : Prop :=
  ∀ fuel, run (fuel + count) scanner = run fuel next

theorem LeadsTo.trans {before after : Nat} (first : LeadsTo before scanner arrived)
    (second : LeadsTo after arrived next) : LeadsTo (after + before) scanner next := by
  intro fuel
  rw [← Nat.add_assoc, first, second]

/-- A token that does not end the stream leads on. -/
theorem leadsTo_of_advance {kind : TokenKind} (advances : scanner.advance = .ok next)
    (isLast : next.tokens.map (·.kind) = kinds ++ [kind]) (goesOn : kind ≠ .streamEnd) :
    LeadsTo 1 scanner next := by
  have last : next.tokens.getLast?.map (·.kind) = some kind := by
    rw [← List.getLast?_map, isLast, List.getLast?_concat]
  have notEnd : (some kind == some TokenKind.streamEnd) = false := by simpa using goesOn
  intro fuel
  rw [run, advances]
  simp only [last, notEnd, Bool.false_eq_true, if_false]

/-! ### Between the lines -/

/-- The scanner comes to a text at the start of a line, in a column in which a key may start. -/
def ComesTo (scanner : Scanner) (rest : Text) (column : Nat) : Prop :=
  ∃ mark : Mark, mark.column = column ∧ skipToToken (scanner.cursor.rest.length + 1) scanner =
    { scanner with cursor := ⟨rest, mark⟩, keyAllowed := true }

/-- Where the scanner is between two fields: on the way to a line, with no key begun. -/
structure Between (scanner : Scanner) (rest : Text) (column : Nat) (indents : List Nat)
    (kinds : List TokenKind) : Prop where
  comes : scanner.ComesTo rest column
  keys : scanner.keys = [none]
  indents : scanner.indents = indents
  kinds : scanner.tokens.map (·.kind) = kinds

/-- The columns of the open mappings once one is open in a column. -/
def openedAt (column : Nat) (indents : List Nat) : List Nat :=
  if indents.head?.any (column ≤ ·) then indents else column :: indents

/-- The tokens that say so. -/
def opening (column : Nat) (indents : List Nat) : List TokenKind :=
  if indents.head?.any (column ≤ ·) then [] else [.blockMappingStart]

/-- Where the scanner is in front of the colon behind a name. -/
structure AtColon (scanner : Scanner) (name rest : Text) (column : Nat) (indents : List Nat)
    (kinds : List TokenKind) : Prop where
  rest : scanner.cursor.rest = ':' :: rest
  inside : column < scanner.mark.column
  key : ∃ key, scanner.keys = [some key] ∧ scanner.isStale key = false ∧ key.mark.column = column ∧
    key.number = kinds.length
  noKey : scanner.keyAllowed = false
  indents : scanner.indents = indents
  kinds : scanner.tokens.map (·.kind) = kinds ++ [.scalar name .plain]

/-- Where the scanner is behind the colon of a field. -/
structure AtValue (scanner : Scanner) (rest : Text) (column : Nat) (indents : List Nat)
    (kinds : List TokenKind) : Prop where
  rest : scanner.cursor.rest = rest
  inside : column < scanner.mark.column
  keys : scanner.keys = [none]
  noKey : scanner.keyAllowed = false
  indents : scanner.indents = indents
  kinds : scanner.tokens.map (·.kind) = kinds

theorem skipToToken_here (starts : StartsToken scanner.cursor.rest) :
    skipToToken (fuel + 1) scanner = scanner := by
  have here : scanner.cursor = ⟨spaces 0 ++ scanner.cursor.rest, scanner.mark⟩ := rfl
  rw [skipToToken_spaces starts here]
  rfl

theorem comesTo_here (starts : StartsToken rest) (here : scanner.cursor = ⟨rest, mark⟩)
    (allowed : scanner.keyAllowed = true) : scanner.ComesTo rest mark.column := by
  refine ⟨mark, rfl, ?_⟩
  rw [skipToToken_here (by rwa [here]), ← here, ← allowed]

theorem comesTo_nextLine (starts : StartsToken rest) (outside : scanner.inFlow = false)
    (here : scanner.cursor = ⟨'\n' :: (spaces count ++ rest), mark⟩) :
    scanner.ComesTo rest count := by
  refine ⟨(mark.nextLine 1).advance (spaces count), by simp, ?_⟩
  rw [skipToToken_lineFeed outside here, here, List.length_cons, skipToToken_spaces starts rfl]

/-! ### Keys -/

/-- The characters that always announce something other than a plain scalar. -/
def strictIndicators : Text := "#,[]\x7b\x7d&*!|>'\"%@\x60"

/-- The other indicators can start a plain scalar where they do not stand alone. -/
theorem dash_of_isIndicator (indicated : isIndicator c = true)
    (lenient : strictIndicators.contains c = false) : c = '-' ∨ c = '?' ∨ c = ':' := by
  have split : ("-?:,[]\x7b\x7d#&*!|>'\"%@\x60" : String).toList =
      '-' :: '?' :: ':' :: (",[]\x7b\x7d#&*!|>'\"%@\x60" : String).toList := by decide
  have strict : ∀ d ∈ (",[]\x7b\x7d#&*!|>'\"%@\x60" : String).toList,
      strictIndicators.contains d = true := List.all_eq_true.mp (by decide)
  rw [isIndicator, List.contains_iff_mem, split] at indicated
  simp only [List.mem_cons] at indicated
  rcases indicated with dash | question | colon | other
  · exact .inl dash
  · exact .inr (.inl question)
  · exact .inr (.inr colon)
  · exact absurd ((strict c other).symm.trans lenient) (by decide)

/-- Such an indicator does not stand alone at the start of a text that it does not mislead. -/
theorem endsWord_of_clear {next : Option Char} (clear : misleadsAtStart c next = false)
    (dash : c = '-' ∨ c = '?' ∨ c = ':') : endsWord next = false := by
  obtain ⟨-, apart⟩ := Bool.or_eq_false_iff.mp clear
  have listed : (c == '?' || c == ':' || c == '-') = true := by
    rcases dash with rfl | rfl | rfl <;> rfl
  rw [listed, Bool.true_and] at apart
  exact (Bool.or_eq_false_iff.mp apart).1

theorem startsPlain_of_clear {next : Option Char} (outside : scanner.inFlow = false)
    (noGap : isGap c = false) (noBreak : isBreak c = false) (clear : misleadsAtStart c next = false) :
    scanner.startsPlain c next = true := by
  obtain ⟨noIndicator, -⟩ := Bool.or_eq_false_iff.mp clear
  by_cases indicated : isIndicator c = true
  · have dash := dash_of_isIndicator indicated noIndicator
    have joined := endsWord_of_clear clear dash
    rcases dash with rfl | rfl | rfl
    · cases next with
      | none => simp [endsWord] at joined
      | some d =>
        rw [endsWord, Option.all_some, Bool.or_eq_false_iff] at joined
        simp [startsPlain, joined.1]
    · simp [startsPlain, outside, joined]
    · simp [startsPlain, outside, joined]
  · simp [startsPlain, noGap, noBreak, indicated]

/-- What does not mislead at the start of a text starts a plain scalar. -/
theorem readToken_plain (outside : scanner.inFlow = false)
    (noMarker : scanner.cursor.atDocumentMarker = false) (noGap : isGap c = false)
    (noBreak : isBreak c = false) (clear : misleadsAtStart c (scanner.cursor.peek 1) = false) :
    scanner.readToken c = scanner.plainScalar := by
  have others (other : Char) (listed : strictIndicators.contains other = true) :
      (c == other) = false := by
    rw [beq_eq_false_iff_ne]
    rintro rfl
    exact absurd (listed.symm.trans (Bool.or_eq_false_iff.mp clear).1) (by decide)
  have alone (other : Char) (dash : other = '-' ∨ other = '?' ∨ other = ':') :
      (c == other && endsWord (scanner.cursor.peek 1)) = false := by
    rw [Bool.and_eq_false_iff]
    by_cases same : c = other
    · exact .inr (endsWord_of_clear clear (same ▸ dash))
    · exact .inl (beq_eq_false_iff_ne.mpr same)
  have starts := startsPlain_of_clear outside noGap noBreak clear
  rw [readToken]
  simp only [others '%' (by decide), others '[' (by decide), others '\x7b' (by decide),
    others ']' (by decide), others '\x7d' (by decide), others ',' (by decide), others '*' (by decide),
    others '&' (by decide), others '!' (by decide), others '|' (by decide), others '>' (by decide),
    others '\'' (by decide), others '"' (by decide), alone '-' (by decide), alone '?' (by decide),
    alone ':' (by decide), noMarker, outside, starts, Bool.and_false, Bool.false_and, Bool.false_or,
    Bool.false_eq_true, if_false, if_true]

/-- It does not start like something other than a plain scalar. -/
theorem clear_of_isFieldName {first : Char} {later : Text}
    (isName : isFieldName (first :: later) = true) (next : Option Char) :
    misleadsAtStart first next = false := by
  have others (other : Char) (differs : (other.isLower || other == '_') = false) :
      (first == other) = false :=
    beq_eq_false_iff_ne.mpr (ne_of_isFieldName isName List.mem_cons_self differs)
  have strict : ∀ other ∈ strictIndicators, (!(other.isLower || other == '_')) = true :=
    List.all_eq_true.mp (by decide)
  have lenient : strictIndicators.contains first = false := by
    rw [Bool.eq_false_iff]
    intro listed
    have foreign := strict first (List.contains_iff_mem.mp listed)
    have differs := others first (by simpa using foreign)
    simp at differs
  refine Bool.or_eq_false_iff.mpr ⟨lenient, ?_⟩
  simp [others '?' (by decide), others ':' (by decide), others '-' (by decide)]

/-- The scanner behind a name at a position, which is kept as the place of a possible key. -/
def named (name rest : Text) (mark : Mark) (tokens : List Token) (columns : List Nat) : Scanner where
  cursor := ⟨':' :: rest, mark.advance name⟩
  tokens := tokens ++ [⟨.scalar name .plain, mark, mark.advance name⟩]
  keys := [some ⟨columns.head? == some mark.column, tokens.length, mark⟩]
  indents := columns
  keyAllowed := false

/-- The name of a field is read as a scalar. -/
theorem readToken_name {first : Char} {later : Text} (tokens : List Token) (columns : List Nat)
    (isName : isFieldName (first :: later) = true) (ends : endsWord rest.head? = true) :
    readToken ⟨⟨first :: later ++ ':' :: rest, mark⟩, tokens, [none], columns, true⟩ first =
      .ok (named (first :: later) rest mark tokens columns) := by
  have others (other : Char) (differs : (other.isLower || other == '_') = false) : first ≠ other :=
    ne_of_isFieldName isName List.mem_cons_self differs
  have noMarker : Cursor.atDocumentMarker ⟨first :: later ++ ':' :: rest, mark⟩ = false :=
    atDocumentMarker_of_head (others '-' (by decide)) (others '.' (by decide))
  obtain ⟨noGap, noBreak, noColon⟩ := solid_of_isFieldName isName List.mem_cons_self
  rw [readToken_plain rfl noMarker noGap noBreak (clear_of_isFieldName isName _), plainScalar]
  change (readPlain false ((columns.head?.map (· + 1)).getD 0)
    ⟨first :: later ++ ':' :: rest, mark⟩ >>= _) = _
  rw [readPlain_name _ isName ends]
  rfl

/-- At the colon a name is still a possible key. -/
theorem isStale_named (rest : Text) (mark : Mark) (tokens : List Token) (columns : List Nat)
    (isName : isFieldName name = true) :
    (named name rest mark tokens columns).isStale
      ⟨columns.head? == some mark.column, tokens.length, mark⟩ = false := by
  have short : 4 * name.length ≤ keyLimit := by
    simp only [isFieldName, Bool.and_eq_true, decide_eq_true_eq] at isName
    exact isName.2
  have near := mark.index_advance_le name
  have sameLine : ¬ mark.line < (mark.advance name).line := Nat.lt_irrefl _
  have inReach : ¬ mark.index + keyLimit < (mark.advance name).index := by omega
  rw [isStale, Bool.or_eq_false_iff]
  exact ⟨decide_eq_false sameLine, decide_eq_false inReach⟩

/-- The name of a field is read as a scalar that may be a key. -/
theorem Between.key (between : scanner.Between (name ++ ':' :: rest) column indents kinds)
    (isName : isFieldName name = true) (ends : endsWord rest.head? = true)
    (nests : indents.head?.any (column < ·) = false) :
    ∃ next, LeadsTo 1 scanner next ∧ next.AtColon name rest column indents kinds := by
  obtain ⟨cursor, tokens, keys, columns, allowed⟩ := scanner
  obtain ⟨⟨mark, rfl, arrives⟩, rfl, rfl, rfl⟩ := between
  obtain ⟨first, later, rfl⟩ := exists_of_isFieldName isName
  have fresh := isStale_named rest mark tokens columns isName
  have advances := advance_of_token arrives (by simp) nests rfl
    (readToken_name tokens columns isName ends) (by simpa [named] using fresh)
  refine ⟨_, leadsTo_of_advance advances List.map_append (by simp), ?_⟩
  exact ⟨rfl, by simp [named, Scanner.mark], ⟨_, rfl, fresh, rfl, by simp⟩, rfl, rfl, List.map_append⟩

/-- Directives and document markers stand at the start of a line. -/
theorem notFirst_of_inside (inside : 0 < scanner.mark.column) :
    (scanner.mark.column == 0) = false ∧ scanner.cursor.atDocumentMarker = false := by
  have notFirst : (scanner.mark.column == 0) = false := beq_eq_false_iff_ne.mpr (Nat.ne_of_gt inside)
  refine ⟨notFirst, ?_⟩
  rw [Cursor.atDocumentMarker]
  change (scanner.mark.column == 0 && _ && _) = false
  rw [notFirst]
  rfl

/-- A colon behind a possible key is read as one. -/
theorem readToken_colon (outside : scanner.inFlow = false) (inside : 0 < scanner.mark.column)
    (ends : endsWord (scanner.cursor.peek 1) = true) : scanner.readToken ':' = scanner.value := by
  obtain ⟨notFirst, noMarker⟩ := notFirst_of_inside inside
  rw [readToken]
  simp only [notFirst, noMarker, outside, ends, Bool.false_and, Bool.false_or, Bool.and_true,
    Bool.false_eq_true, if_false]
  rfl

theorem insertIdx_behind {α : Type} (front behind : List α) (item : α) :
    (front ++ behind).insertIdx front.length item = front ++ item :: behind := by
  induction front with
  | nil => rfl
  | cons first front inductionHypothesis =>
    rw [List.cons_append, List.length_cons, List.insertIdx_succ_cons, inductionHypothesis]
    rfl

/-- A mapping is opened by a token of its own, unless one is open in the column. -/
theorem openBlock_between {front behind : List Token} (outside : scanner.inFlow = false)
    (isTokens : scanner.tokens = front ++ behind) (column : Nat) (mark : Mark) :
    ∃ opened : List Token, opened.map (·.kind) = opening column scanner.indents ∧
      scanner.openBlock column front.length .blockMappingStart mark =
        { scanner with
          indents := openedAt column scanner.indents
          tokens := front ++ opened ++ behind } := by
  by_cases isOpen : scanner.indents.head?.any (column ≤ ·) = true
  · refine ⟨[], by rw [opening, if_pos isOpen]; rfl, ?_⟩
    rw [openBlock, openedAt, isOpen, Bool.or_true, if_pos rfl, if_pos rfl, List.append_nil, ← isTokens]
  · refine ⟨[⟨.blockMappingStart, mark, mark⟩], by rw [opening, if_neg isOpen]; rfl, ?_⟩
    rw [openBlock, openedAt, outside, Bool.false_or, if_neg isOpen, if_neg isOpen, isTokens,
      insertIdx_behind, List.append_assoc]
    rfl

/-- Where a key may have started, the colon puts its token in front of what has been read since. -/
theorem value_of_key {front : List Token} {key : PossibleKey} (behind : List Token)
    (columns : List Nat) (cursor : Cursor) (allowed : Bool) (place : key.number = front.length) :
    ∃ tokens : List Token,
      tokens.map (·.kind) = front.map (·.kind) ++ opening key.mark.column columns ++ [.key] ++
        behind.map (·.kind) ++ [.value] ∧
      Scanner.value ⟨cursor, front ++ behind, [some key], columns, allowed⟩ =
        .ok ⟨cursor.advance 1, tokens, [none], openedAt key.mark.column columns, false⟩ := by
  have outside : Scanner.inFlow
      ⟨cursor, front ++ ⟨.key, key.mark, key.mark⟩ :: behind, [some key], columns, allowed⟩ = false :=
    rfl
  obtain ⟨opened, openedKinds, opens⟩ := openBlock_between outside rfl key.mark.column key.mark
  refine ⟨front ++ opened ++ ⟨.key, key.mark, key.mark⟩ :: behind ++
    [⟨.value, cursor.mark, (cursor.advance 1).mark⟩], by simp [openedKinds], ?_⟩
  simp only [Scanner.value, place, insertIdx_behind, opens]
  rfl

/-- At the colon it has become one, and the first key opens the mapping. -/
theorem AtColon.value (here : scanner.AtColon name rest column indents kinds)
    (ends : endsWord rest.head? = true) (nests : indents.head?.any (column < ·) = false) :
    ∃ next, LeadsTo 1 scanner next ∧ next.AtValue rest column (openedAt column indents)
      (kinds ++ opening column indents ++ [.key, .scalar name .plain, .value]) := by
  obtain ⟨isRest, inside, ⟨key, keys, fresh, rfl, number⟩, noKey, rfl, shape⟩ := here
  have starts : StartsToken scanner.cursor.rest := by
    rw [isRest]
    rintro c ⟨⟩
    decide
  have stays : scanner.indents.head?.any (scanner.mark.column < ·) = false := by
    cases isHead : scanner.indents.head? with
    | none => rfl
    | some indent =>
      have left : ¬ key.mark.column < indent := by simpa [isHead] using nests
      simp only [Option.any_some, decide_eq_false_iff_not]
      omega
  have isEnd : endsWord (scanner.cursor.peek 1) = true := by
    rwa [Cursor.peek, isRest, List.getElem?_cons_succ, ← List.head?_eq_getElem?]
  have outside : scanner.inFlow = false := by simp [inFlow, keys]
  obtain ⟨front, behind, isTokens, frontKinds, behindKinds⟩ := List.map_eq_append_iff.mp shape
  have place : key.number = front.length := by rw [number, ← frontKinds, List.length_map]
  have whole : scanner = ⟨scanner.cursor, front ++ behind, [some key], scanner.indents, false⟩ := by
    rw [← keys, ← noKey, ← isTokens]
  obtain ⟨tokens, isTokens, value⟩ := value_of_key behind scanner.indents scanner.cursor false place
  rw [← whole] at value
  rw [frontKinds, behindKinds] at isTokens
  have token := (readToken_colon outside (Nat.zero_lt_of_lt inside) isEnd).trans value
  have advances := advance_of_token (skipToToken_here starts) (by simpa [keys] using fresh) stays
    (by rw [isRest]; rfl) token (by simp)
  have further : key.mark.column < (scanner.cursor.advance 1).mark.column := by
    rw [Cursor.advance, Mark.column_advance]
    exact Nat.lt_add_right _ inside
  refine ⟨_, leadsTo_of_advance advances isTokens (by simp), ?_⟩
  exact ⟨by simp [Cursor.advance, isRest], further, rfl, rfl, rfl, by simpa using isTokens⟩

end Scanner

end FfiBindings.Markup
