import FfiBindings.Proofs.Indentation

/-!
# Literal blocks read back

In a literal block the lines of a text stand as they are, behind an indentation, and blank lines stay
empty. Where the text starts with a line that is not blank, that line shows the indentation; otherwise
the header states it. The header also states what becomes of the line breaks behind the last line, so
that exactly those of the text are kept. What follows stands further to the left and ends the block.
-/

namespace FfiBindings.Markup

variable {text line body trail separators more rest : Text} {mark start : Mark}
  {indent count column fuel : Nat} {c : Char}

/-- Line breaks that are written as they are. -/
def PrintedBreaks (separators : Text) : Prop :=
  ∀ c ∈ separators, isPrintable c = true ∧ isBreak c = true

/-- Lines that are not blank, with line breaks between them. -/
inductive BlockRow : Text → Prop where
  | line {line : Text} (nonempty : line ≠ []) (solid : ∀ c ∈ line, isBreak c = false) :
      BlockRow line
  | broken {line body : Text} (separator : Char) (separators : Text) (nonempty : line ≠ [])
      (solid : ∀ c ∈ line, isBreak c = false) (breaks : PrintedBreaks (separator :: separators))
      (row : BlockRow body) : BlockRow (line ++ (separator :: separators ++ body))

/-- A text that does not start with a line break is made of such lines and of line breaks behind
them. -/
theorem exists_blockRow (printed : ∀ c ∈ text, isPrintable c = true)
    (starts : text.head?.any isBreak = false) (nonempty : text ≠ []) :
    ∃ body trail, text = body ++ trail ∧ BlockRow body ∧ PrintedBreaks trail := by
  induction size : text.length using Nat.strong_induction_on generalizing text with
  | h total inductionHypothesis =>
    obtain ⟨line, later, rfl, solid, stops⟩ := exists_word (! isBreak ·) text
    have isLine : line ≠ [] := by
      rintro rfl
      obtain ⟨c, rest, rfl⟩ := List.exists_cons_of_ne_nil nonempty
      simp_all
    obtain ⟨separators, rest, rfl, breaks, noBreak⟩ := exists_breaks later
    have ends : PrintedBreaks separators := fun c member =>
      ⟨printed c (by simp [member]), breaks c member⟩
    have solidLine : ∀ c ∈ line, isBreak c = false := fun c member => by simpa using solid c member
    cases rest with
    | nil => exact ⟨line, separators, by simp, .line isLine solidLine, ends⟩
    | cons d rest =>
      cases separators with
      | nil =>
        have isBreak := stops d rfl
        simp [noBreak d rfl] at isBreak
      | cons separator separators =>
        have shorter : (d :: rest).length < total := by
          simp only [← size, List.length_append, List.length_cons]
          omega
        obtain ⟨body, trail, shape, row, trailing⟩ := inductionHypothesis _ shorter
          (fun c member => printed c (by simp [List.mem_cons.mp member]))
          (by simpa using noBreak d rfl) (List.cons_ne_nil d rest) rfl
        refine ⟨line ++ (separator :: separators ++ body), trail, ?_,
          .broken separator separators isLine solidLine ends row, trailing⟩
        rw [shape]
        simp

namespace BlockRow

/-- The first line is not blank. -/
theorem head?_body (row : BlockRow body) : ∃ c rest, body = c :: rest ∧ isBreak c = false := by
  cases row with
  | line nonempty solid | broken _ _ nonempty solid =>
    obtain ⟨c, rest, rfl⟩ := List.exists_cons_of_ne_nil nonempty
    exact ⟨c, _, rfl, solid c List.mem_cons_self⟩

/-- Nor is the last one. -/
theorem getLast?_body (row : BlockRow body) : ∃ front c, body = front ++ [c] ∧ isBreak c = false := by
  induction row with
  | @line line nonempty solid =>
    rcases line.eq_nil_or_concat with rfl | ⟨front, c, rfl⟩
    · contradiction
    · exact ⟨front, c, by simp, solid c (by simp)⟩
  | broken _ _ _ _ _ _ inductionHypothesis =>
    obtain ⟨front, c, rfl, noBreak⟩ := inductionHypothesis
    exact ⟨_, c, by rw [← List.append_assoc, ← List.append_assoc], noBreak⟩

theorem head?_append (row : BlockRow body) (trail : Text) : (body ++ trail).head? = body.head? := by
  obtain ⟨c, rest, rfl, -⟩ := row.head?_body
  rfl

end BlockRow

/-! ### Lines -/

/-- What of the spaces ahead is indentation: all of them where no column is known. -/
def indentationAhead (indent : Option Nat) (cursor : Cursor) : Nat :=
  let spaces := (cursor.takeWhile (· == ' ')).length
  match indent with
  | none => spaces
  | some column => min spaces (column - cursor.mark.column)

/-- Behind the indentation stands a line, unless it is blank. -/
theorem readBlankLines_eq {indent : Option Nat} {cursor inner : Cursor}
    (isInner : cursor.advance (indentationAhead indent cursor) = inner)
    (noTab : (indent.all (inner.mark.column < ·) && inner.peek 0 == some '\t') = false)
    (blank : BlankLines) :
    readBlankLines start indent blank cursor =
      let blank := { blank with widest := max blank.widest inner.mark.column }
      if inner.rest.head?.any isBreak then
        readBlankLines start indent
          { blank with
            breaks := blank.breaks ++ inner.readBreak.1, stop := inner.readBreak.2.mark }
          inner.readBreak.2
      else .ok (blank, inner) := by
  conv => lhs; rw [readBlankLines.eq_def]
  cases indent
  all_goals
    dsimp only [indentationAhead] at isInner ⊢
    subst isInner
    split
    · next isTab => exact absurd (noTab.symm.trans isTab) (by simp)
    · split
      · next c isHead => simp only [isHead, Option.any_some, dite_eq_ite]
      · next isHead => simp only [isHead, Option.any_none, Bool.false_eq_true, if_false]

theorem noTab_of_noGap (noGap : more.head?.any isGap = false) :
    (Cursor.peek ⟨more, mark⟩ 0 == some '\t') = false := by
  cases shape : more.head? with
  | none => simp [shape]
  | some c =>
    rw [shape, Option.any_some, isGap, Bool.or_eq_false_iff] at noGap
    simp [shape, noGap.2]

/-- The indentation of the next line is passed over, or what there is of it. -/
theorem readBlankLines_spaces (atStart : mark.column = 0) (noBreak : more.head?.any isBreak = false)
    (fits : count = column ∨ count < column ∧ more.head?.any isGap = false) (blank : BlankLines) :
    readBlankLines start (some column) blank ⟨spaces count ++ more, mark⟩ =
      .ok ({ blank with widest := max blank.widest (mark.advance (spaces count)).column },
        ⟨more, mark.advance (spaces count)⟩) := by
  have all : ∀ c ∈ spaces count, (c == ' ') = true := fun c member => by
    simp [eq_of_mem_spaces member]
  have ahead : indentationAhead (some column) ⟨spaces count ++ more, mark⟩ =
      (spaces count).length := by
    simp only [indentationAhead, Cursor.takeWhile, List.takeWhile_append_of_pos all,
      List.length_append, length_spaces, atStart]
    rcases fits with rfl | ⟨less, noGap⟩
    · omega
    · have nothing : more.takeWhile (· == ' ') = [] := by
        cases more with
        | nil => rfl
        | cons c rest =>
          have differs : (c == ' ') = false := by
            simp only [List.head?_cons, Option.any_some, isGap, Bool.or_eq_false_iff] at noGap
            exact noGap.1
          simp [differs]
      rw [nothing, List.length_nil]
      omega
  have noTab : ((some column).all ((mark.advance (spaces count)).column < ·) &&
      Cursor.peek ⟨more, mark.advance (spaces count)⟩ 0 == some '\t') = false := by
    rcases fits with rfl | ⟨less, noGap⟩
    · simp [atStart]
    · rw [noTab_of_noGap noGap, Bool.and_false]
  rw [readBlankLines_eq (ahead ▸ Cursor.advance_append _ more mark) noTab, if_neg (by simp [noBreak])]

/-- Blank lines are passed over. -/
theorem readBlankLines_break (printable : isPrintable c = true) (ends : isBreak c = true)
    (atStart : mark.column = 0) (blank : BlankLines) :
    readBlankLines start (some column) blank ⟨c :: rest, mark⟩ =
      readBlankLines start (some column)
        ⟨blank.breaks ++ [c], blank.widest, mark.nextLine c.utf8Size⟩
        ⟨rest, mark.nextLine c.utf8Size⟩ := by
  have notLoose : (c == ' ') = false ∧ (c == '\t') = false := by
    rcases Cursor.break_of_printable printable ends with rfl | rfl | rfl <;> decide
  have ahead : indentationAhead (some column) ⟨c :: rest, mark⟩ = 0 := by
    simp [indentationAhead, Cursor.takeWhile, notLoose.1]
  have noTab : ((some column).all (mark.column < ·) &&
      Cursor.peek ⟨c :: rest, mark⟩ 0 == some '\t') = false := by
    simp [notLoose.2]
  have isInner : Cursor.advance ⟨c :: rest, mark⟩ (indentationAhead (some column) ⟨c :: rest, mark⟩) =
      ⟨c :: rest, mark⟩ := by
    rw [ahead]
    rfl
  rw [readBlankLines_eq isInner noTab]
  simp [ends, atStart, Cursor.readBreak_of_printable printable ends]

/-- Line breaks are passed over with the indentation behind them. -/
theorem readBlankLines_append (start : Mark) (breaks : PrintedBreaks separators)
    (atStart : mark.column = 0)
    (noBreak : more.head?.any isBreak = false)
    (fits : count = column ∨ count < column ∧ more.head?.any isGap = false) (blank : BlankLines) :
    ∃ widest stop after, readBlankLines start (some column) blank
        ⟨separators ++ (spaces count ++ more), mark⟩ =
      .ok (⟨blank.breaks ++ separators, widest, stop⟩, ⟨more, after⟩) ∧ after.column = count := by
  induction separators generalizing blank mark with
  | nil =>
    refine ⟨max blank.widest (mark.advance (spaces count)).column, blank.stop,
      mark.advance (spaces count), ?_, by simp [atStart]⟩
    rw [List.nil_append, readBlankLines_spaces atStart noBreak fits, List.append_nil]
  | cons c separators inductionHypothesis =>
    obtain ⟨⟨printable, ends⟩, later⟩ := List.forall_mem_cons.mp breaks
    obtain ⟨widest, stop, after, read, column⟩ := inductionHypothesis later
      (mark.column_nextLine c.utf8Size) ⟨blank.breaks ++ [c], blank.widest, mark.nextLine c.utf8Size⟩
    refine ⟨widest, stop, after, ?_, column⟩
    rw [List.cons_append, readBlankLines_break printable ends atStart, read, List.append_assoc]
    rfl

/-- All spaces in front of the first line are its indentation where none is known. -/
theorem readBlankLines_shown (noBreak : more.head?.any isBreak = false)
    (noGap : more.head?.any isGap = false) (blank : BlankLines) :
    readBlankLines start none blank ⟨spaces count ++ more, mark⟩ =
      .ok ({ blank with widest := max blank.widest (mark.advance (spaces count)).column },
        ⟨more, mark.advance (spaces count)⟩) := by
  have ahead : indentationAhead none ⟨spaces count ++ more, mark⟩ = (spaces count).length := by
    rw [indentationAhead, Cursor.takeWhile_append]
    · exact fun c member => by simp [eq_of_mem_spaces member]
    · intro c isHead
      rw [isHead, Option.any_some, isGap, Bool.or_eq_false_iff] at noGap
      exact noGap.1
  have noTab : ((none : Option Nat).all ((mark.advance (spaces count)).column < ·) &&
      Cursor.peek ⟨more, mark.advance (spaces count)⟩ 0 == some '\t') = false := by
    rw [noTab_of_noGap noGap, Bool.and_false]
  rw [readBlankLines_eq (ahead ▸ Cursor.advance_append _ more mark) noTab, if_neg (by simp [noBreak])]

/-- The lines end in front of what stands in another column. -/
theorem readBlockLines_stop (moved : mark.column ≠ column) (block : BlockText) (blank : BlankLines) :
    readBlockLines true start column fuel block blank ⟨rest, mark⟩ =
      .ok (block, blank, ⟨rest, mark⟩) := by
  cases fuel with
  | zero => rfl
  | succ fuel =>
    have isElsewhere : (mark.column != column) = true := by simpa using moved
    rw [readBlockLines]
    simp [isElsewhere]

/-- A line is added to the lines before it, together with the line breaks between them, and the
line breaks behind it are passed over. -/
theorem readBlockLines_step {first : Char} {later : Text} (start : Mark) (fuel : Nat)
    (solid : ∀ c ∈ line, isBreak c = false) (breaks : PrintedBreaks (first :: later))
    (noBreak : more.head?.any isBreak = false)
    (fits : count = column ∨ count < column ∧ more.head?.any isGap = false)
    (atColumn : mark.column = column) (block : BlockText) (blank : BlankLines) :
    ∃ isIndented widest stop after, after.column = count ∧
      readBlockLines true start column (fuel + 1) block blank
        ⟨line ++ first :: (later ++ (spaces count ++ more)), mark⟩ =
      readBlockLines true start column fuel
        ⟨block.value ++ block.pendingBreak ++ blank.breaks ++ line, [first], isIndented⟩
        ⟨later, widest, stop⟩ ⟨more, after⟩ := by
  obtain ⟨⟨printable, ends⟩, printed⟩ := List.forall_mem_cons.mp breaks
  have atFirst : Cursor.takeWhile (! isBreak ·)
      ⟨line ++ first :: (later ++ (spaces count ++ more)), mark⟩ = line := by
    refine Cursor.takeWhile_append (fun c member => by simp [solid c member]) ?_
    rintro c ⟨⟩
    simp [ends]
  have notEmpty : (line ++ first :: (later ++ (spaces count ++ more))).isEmpty = false := by simp
  obtain ⟨widest, stop, after, read, isAt⟩ := readBlankLines_append start printed
    ((mark.advance line).column_nextLine first.utf8Size) noBreak fits
    ⟨[], 0, (mark.advance line).nextLine first.utf8Size⟩
  refine ⟨(line ++ first :: (later ++ (spaces count ++ more))).head?.any isGap, widest, stop, after,
    isAt, ?_⟩
  rw [readBlockLines]
  simp only [atColumn, bne_self_eq_false, Bool.false_or, notEmpty, Bool.false_eq_true, if_false,
    atFirst, Cursor.advance_append, Cursor.readBreak_of_printable printable ends, read,
    Cursor.peek_zero, Bool.not_true, Bool.false_and]
  rfl

/-- The lines of a block are read one after another, up to what stands further to the left. -/
theorem readBlockLines_row {first : Char} {later : Text} (start : Mark) (row : BlockRow body)
    (breaks : PrintedBreaks (first :: later)) (noBreak : more.head?.any isBreak = false)
    (noGap : more.head?.any isGap = false) (left : count < column) (enough : body.length < fuel)
    (atColumn : mark.column = column) (block : BlockText) (blank : BlankLines) :
    ∃ isIndented widest stop after, after.column = count ∧
      readBlockLines true start column fuel block blank
        ⟨indentLines column false body ++ first :: (later ++ (spaces count ++ more)), mark⟩ =
      .ok (⟨block.value ++ block.pendingBreak ++ blank.breaks ++ body, [first], isIndented⟩,
        ⟨later, widest, stop⟩, ⟨more, after⟩) := by
  obtain ⟨fuel, rfl⟩ : ∃ less, fuel = less + 1 := ⟨fuel - 1, by omega⟩
  induction row generalizing fuel mark block blank with
  | @line line nonempty solid =>
    obtain ⟨isIndented, widest, stop, after, isAt, read⟩ := readBlockLines_step start
      fuel solid breaks noBreak (.inr ⟨left, noGap⟩) atColumn block blank
    have wholeLine : indentLines column false (line ++ []) = line ++ indentLines column false [] :=
      indentLines_line solid []
    rw [List.append_nil] at wholeLine
    refine ⟨isIndented, widest, stop, after, isAt, ?_⟩
    rw [wholeLine, indentLines, List.append_nil, read, readBlockLines_stop (by omega)]
  | @broken line body separator separators nonempty solid ends row inductionHypothesis =>
    obtain ⟨c, rest, rfl, isText⟩ := row.head?_body
    have apart : ∀ c ∈ separator :: separators, isBreak c = true := fun c member =>
      (ends c member).2
    have printed : indentLines column false (line ++ (separator :: separators ++ c :: rest)) =
        line ++ separator :: (separators ++
          (spaces column ++ indentLines column false (c :: rest))) := by
      rw [indentLines_line solid, indentLines_breaks (List.cons_ne_nil _ _) apart,
        indentLines_start isText]
      rfl
    simp only [List.length_append, List.length_cons] at enough
    obtain ⟨fuel, rfl⟩ : ∃ less, fuel = less + 1 := ⟨fuel - 1, by omega⟩
    have nextText : (indentLines column false (c :: rest) ++
        first :: (later ++ (spaces count ++ more))).head?.any isBreak = false := by
      simp [indentLines, isText]
    obtain ⟨isStepIndented, stepWidest, stepStop, between, isBetween, step⟩ :=
      readBlockLines_step start (fuel + 1) solid ends nextText (.inl rfl) atColumn
        block blank
    have restEnough : (c :: rest).length < fuel + 1 := by
      simp only [List.length_cons]
      omega
    obtain ⟨isIndented, widest, stop, after, isAt, read⟩ := inductionHypothesis isBetween
      ⟨block.value ++ block.pendingBreak ++ blank.breaks ++ line, [separator], isStepIndented⟩
      ⟨separators, stepWidest, stepStop⟩ fuel restEnough
    refine ⟨isIndented, widest, stop, after, isAt, ?_⟩
    rw [printed, List.append_assoc, List.cons_append, List.append_assoc, List.append_assoc, step,
      read]
    simp

/-! ### The header -/

/-- The indicator for what becomes of the line breaks at the end. -/
def Chomping.indicator : Chomping → Text
  | .strip => ['-']
  | .clip => []
  | .keep => ['+']

/-- What is kept of the line break behind the last line and of those that follow it. -/
def Chomping.kept : Chomping → Text → Text → Text
  | .strip, _, _ => []
  | .clip, first, _ => first
  | .keep, first, later => first ++ later

/-- What becomes of the line breaks at the end of a text. -/
def chompingFor (text : Text) : Chomping :=
  if text.getLast?.any isBreak then
    if text.dropLast.getLast?.all isBreak then .keep else .clip
  else .strip

/-- The indentation that the header states, where the text does not show it. -/
def incrementFor (text : Text) : Option Nat :=
  if text.head?.any isLoose then some indentStep else none

theorem literalHeader_eq (text : Text) :
    literalHeader text =
      '|' :: (((incrementFor text).elim [] Text.decimal) ++ (chompingFor text).indicator) := by
  unfold literalHeader incrementFor chompingFor
  split <;> split <;> simp_all [Chomping.indicator] <;> split <;> simp_all

/-- The indicators of a header are read up to the first line. -/
theorem readBlockHeader_indicators (start : Mark) (text rest : Text) (mark : Mark) :
    ∃ after, after.column = 0 ∧ readBlockHeader start
        ⟨(incrementFor text).elim [] Text.decimal ++ (chompingFor text).indicator ++ '\n' :: rest,
          mark⟩ =
      .ok (⟨chompingFor text, incrementFor text⟩, ⟨rest, after⟩) := by
  have digit : Text.decimal indentStep = ['2'] := by decide
  unfold incrementFor
  split <;> cases chompingFor text <;> simp only [Option.elim, digit] <;> exact ⟨_, rfl, rfl⟩

/-- A block is made of its header, the blank lines at its start and its lines. -/
theorem readBlock_of_parts {parent : Nat} {header : BlockHeader} {lines inner after : Cursor}
    {blank last : BlankLines} {block : BlockText}
    (indicators : readBlockHeader mark ⟨rest, mark.advance ['|']⟩ = .ok (header, lines))
    (first : readBlankLines mark (header.increment.map (parent + ·)) ⟨[], 0, lines.mark⟩ lines =
      .ok (blank, inner))
    (isColumn : (header.increment.map (parent + ·)).getD
      (max blank.widest (max 1 (parent + 1))) = column)
    (read : readBlockLines true mark column (inner.rest.length + 1) ⟨[], [], false⟩ blank inner =
      .ok (block, last, after)) :
    readBlock true (some parent) ⟨'|' :: rest, mark⟩ =
      .ok (block.value ++ header.chomping.kept block.pendingBreak last.breaks, last.stop, after) := by
  rw [readBlock, Cursor.advance_one]
  simp only [indicators, Option.getD_some]
  change (readBlankLines mark (header.increment.map (parent + ·)) ⟨[], 0, lines.mark⟩ lines >>= _) = _
  rw [first]
  change (readBlockLines true mark ((header.increment.map (parent + ·)).getD
    (max blank.widest (max 1 (parent + 1)))) (inner.rest.length + 1) ⟨[], [], false⟩ blank inner
      >>= _) = _
  rw [isColumn, read]
  cases header.chomping <;> rfl

/-- The line breaks behind the last line, one of which is put there where the text has none, are kept
as far as they belong to the text. -/
theorem exists_kept (lead : Text) (row : BlockRow body) (breaks : PrintedBreaks trail) :
    ∃ first later, trail ++ (if (lead ++ (body ++ trail)).getLast?.any isBreak then [] else ['\n']) =
        first :: later ∧ PrintedBreaks (first :: later) ∧
      (chompingFor (lead ++ (body ++ trail))).kept [first] later = trail := by
  obtain ⟨front, c, rfl, isText⟩ := row.getLast?_body
  rw [← List.append_assoc, ← List.append_assoc]
  rcases trail.eq_nil_or_concat with rfl | ⟨others, last, rfl⟩
  · have isLast : ((lead ++ front) ++ [c] ++ []).getLast? = some c := by simp
    have isLineFeed : isPrintable '\n' = true ∧ isBreak '\n' = true := ⟨rfl, rfl⟩
    refine ⟨'\n', [], ?_, List.forall_mem_singleton.mpr isLineFeed, ?_⟩
    · rw [isLast, Option.any_some, isText]
      rfl
    · rw [chompingFor, isLast, Option.any_some, isText]
      rfl
  · have ends : isBreak last = true := (breaks last (by simp)).2
    have isLast : ((lead ++ front) ++ [c] ++ others.concat last).getLast?.any isBreak = true := by
      rw [List.concat_eq_append, ← List.append_assoc, List.getLast?_concat]
      exact ends
    have before : ((lead ++ front) ++ [c] ++ others.concat last).dropLast =
        (lead ++ front) ++ [c] ++ others := by
      rw [List.concat_eq_append, ← List.append_assoc, List.dropLast_concat]
    rw [chompingFor, isLast, before, if_pos rfl, if_pos rfl]
    cases others with
    | nil => exact ⟨last, [], rfl, breaks, by simp [isText, Chomping.kept]⟩
    | cons first others =>
      have isBlank : ((lead ++ front) ++ [c] ++ first :: others).getLast?.all isBreak = true := by
        rw [List.getLast?_append, List.getLast?_eq_some_getLast (List.cons_ne_nil first others)]
        rw [List.concat_eq_append] at breaks
        exact (breaks _ (List.mem_append_left _ (List.getLast_mem _))).2
      refine ⟨first, others.concat last, by simp, breaks, ?_⟩
      rw [if_pos isBlank]
      simp [Chomping.kept]

/-- Line breaks at the end of a text are written as they are. -/
theorem indentLines_trail (indent : Nat) (afterBreak : Bool)
    (blank : ∀ c ∈ trail, isBreak c = true) (text : Text) :
    indentLines indent afterBreak (text ++ trail) = indentLines indent afterBreak text ++ trail := by
  induction text generalizing afterBreak with
  | nil =>
    by_cases empty : trail = []
    · subst empty
      rfl
    · have whole : indentLines indent afterBreak (trail ++ []) = trail ++ indentLines indent true [] :=
        indentLines_breaks empty blank []
      rw [List.append_nil] at whole
      rw [List.nil_append, whole]
      exact List.append_nil trail
  | cons c text inductionHypothesis =>
    simp only [List.cons_append, indentLines, inductionHypothesis]
    split <;> simp

/-- The lines of a text as they stand in a block, after the header. -/
theorem indentLines_text {lead : Text} (blank : ∀ c ∈ lead, isBreak c = true) (row : BlockRow body)
    (breaks : PrintedBreaks trail) :
    indentLines indent true (lead ++ (body ++ trail)) =
      lead ++ (spaces indent ++ (indentLines indent false body ++ trail)) := by
  obtain ⟨c, rest, rfl, isText⟩ := row.head?_body
  rw [← indentLines_trail _ _ (fun c member => (breaks c member).2), List.cons_append,
    ← indentLines_start isText]
  by_cases empty : lead = []
  · subst empty
    rfl
  · exact indentLines_breaks empty blank _

/-- In front of the first line that is not blank the column of the block is known. -/
theorem readBlankLines_first {increment : Option Nat} {lead : Text} (start : Mark) (parent : Nat)
    (leading : PrintedBreaks lead) (atStart : mark.column = 0)
    (noBreak : more.head?.any isBreak = false)
    (known : increment = some indentStep ∨
      increment = none ∧ lead = [] ∧ more.head?.any isGap = false) :
    ∃ widest stop after, after.column = parent + indentStep ∧
      readBlankLines start (increment.map (parent + ·)) ⟨[], 0, mark⟩
        ⟨lead ++ (spaces (parent + indentStep) ++ more), mark⟩ =
      .ok (⟨lead, widest, stop⟩, ⟨more, after⟩) ∧
      (increment.map (parent + ·)).getD (max widest (max 1 (parent + 1))) = parent + indentStep := by
  rcases known with rfl | ⟨rfl, rfl, noGap⟩
  · obtain ⟨widest, stop, after, read, isAt⟩ := readBlankLines_append start leading atStart
      noBreak (.inl rfl) ⟨[], 0, mark⟩
    exact ⟨widest, stop, after, isAt, read, rfl⟩
  · refine ⟨_, _, _, ?_, readBlankLines_shown noBreak noGap ⟨[], 0, mark⟩, ?_⟩
    · simp [atStart]
    · simp only [Option.map_none, Option.getD_none, Mark.column_advance, atStart, length_spaces,
        indentStep]
      omega

/-- A block with nothing but line breaks is read back. -/
theorem readBlock_breaks {parent : Nat} {after : Mark} (breaks : PrintedBreaks separators)
    (noBreak : more.head?.any isBreak = false) (noGap : more.head?.any isGap = false)
    (left : count < parent + indentStep) (atStart : after.column = 0)
    (header : readBlockHeader mark ⟨rest, mark.advance ['|']⟩ =
      .ok (⟨.keep, some indentStep⟩, ⟨separators ++ (spaces count ++ more), after⟩)) :
    ∃ stop behind, behind.column = count ∧ readBlock true (some parent) ⟨'|' :: rest, mark⟩ =
      .ok (separators, stop, ⟨more, behind⟩) := by
  obtain ⟨widest, stop, behind, first, isAt⟩ := readBlankLines_append mark breaks atStart
    noBreak (.inr ⟨left, noGap⟩) ⟨[], 0, after⟩
  have elsewhere : behind.column ≠ parent + indentStep := by omega
  exact ⟨stop, behind, isAt,
    readBlock_of_parts header first rfl (readBlockLines_stop elsewhere _ _)⟩

/-- A block with lines is read back, with the line breaks at its end that the header keeps. -/
theorem readBlock_row {parent : Nat} {header : BlockHeader} {after : Mark} {lead later : Text}
    {first : Char} (leading : PrintedBreaks lead) (row : BlockRow body)
    (ends : PrintedBreaks (first :: later)) (noBreak : more.head?.any isBreak = false)
    (noGap : more.head?.any isGap = false) (left : count < parent + indentStep)
    (atStart : after.column = 0)
    (known : header.increment = some indentStep ∨
      header.increment = none ∧ lead = [] ∧ body.head?.any isGap = false)
    (indicators : readBlockHeader mark ⟨rest, mark.advance ['|']⟩ =
      .ok (header, ⟨lead ++ (spaces (parent + indentStep) ++
        (indentLines (parent + indentStep) false body ++
          first :: (later ++ (spaces count ++ more)))), after⟩)) :
    ∃ stop behind, behind.column = count ∧ readBlock true (some parent) ⟨'|' :: rest, mark⟩ =
      .ok (lead ++ body ++ header.chomping.kept [first] later, stop, ⟨more, behind⟩) := by
  have isHead : (indentLines (parent + indentStep) false body ++
      first :: (later ++ (spaces count ++ more))).head? = body.head? := by
    obtain ⟨c, rest, rfl, isText⟩ := row.head?_body
    simp [indentLines, isText]
  have isText : body.head?.any isBreak = false := by
    obtain ⟨c, rest, rfl, isText⟩ := row.head?_body
    exact isText
  obtain ⟨widest, stop, inner, isInner, passed, isColumn⟩ := readBlankLines_first mark
    parent leading atStart (isHead ▸ isText) (isHead ▸ known)
  have enough : body.length < (indentLines (parent + indentStep) false body ++
      first :: (later ++ (spaces count ++ more))).length + 1 := by
    have longer := length_le_indentLines (parent + indentStep) false body
    simp only [List.length_append, List.length_cons]
    omega
  obtain ⟨isIndented, lastWidest, lastStop, behind, isAt, read⟩ := readBlockLines_row mark row ends
    noBreak noGap left enough isInner ⟨[], [], false⟩ ⟨lead, widest, stop⟩
  exact ⟨lastStop, behind, isAt, readBlock_of_parts indicators passed isColumn read⟩

/-- A text of nothing but line breaks states its indentation and keeps them all. -/
theorem header_of_breaks (nonempty : text ≠ []) (blank : ∀ c ∈ text, isBreak c = true) :
    incrementFor text = some indentStep ∧ chompingFor text = .keep := by
  constructor
  · obtain ⟨c, rest, rfl⟩ := List.exists_cons_of_ne_nil nonempty
    simp [incrementFor, isLoose, blank c]
  · have ends : text.getLast?.any isBreak = true := by
      rw [List.getLast?_eq_some_getLast nonempty]
      exact blank _ (List.getLast_mem nonempty)
    have endsBlank : text.dropLast.getLast?.all isBreak = true := by
      rw [Option.all_eq_true]
      exact fun c isLast => blank c (List.dropLast_subset text (List.mem_of_mem_getLast? isLast))
    rw [chompingFor, if_pos ends, if_pos endsBlank]

/-- The indentation is only left out of the header of a text that starts with the text of a line. -/
theorem known_of_incrementFor {lead core : Text} (printed : ∀ c ∈ core, isPrintable c = true)
    (blank : ∀ c ∈ lead, isBreak c = true) :
    incrementFor (lead ++ core) = some indentStep ∨
      incrementFor (lead ++ core) = none ∧ lead = [] ∧ core.head?.any isGap = false := by
  unfold incrementFor
  split
  · exact .inl rfl
  · next shown =>
    refine .inr ⟨rfl, ?_⟩
    cases lead with
    | cons c rest => simp [isLoose, blank c] at shown
    | nil =>
      refine ⟨rfl, ?_⟩
      cases core with
      | nil => rfl
      | cons c rest =>
        rw [List.head?_cons, Option.any_some, Bool.eq_false_iff]
        intro gap
        simp [Cursor.eq_space_of_gap (printed c List.mem_cons_self) gap, isLoose] at shown

/-- What stands below the header of a literal block for a text, whose last line is ended also where
the text does not end it. -/
def blockLines (indent : Nat) (text : Text) : Text :=
  indentLines indent true text ++ if text.getLast?.any isBreak then [] else ['\n']

theorem blockLines_of_breaks (indent : Nat) (nonempty : text ≠ [])
    (blank : ∀ c ∈ text, isBreak c = true) : blockLines indent text = text := by
  have ends : text.getLast?.any isBreak = true := by
    rw [List.getLast?_eq_some_getLast nonempty]
    exact blank _ (List.getLast_mem nonempty)
  have written := indentLines_trail indent true blank []
  rw [indentLines, List.nil_append] at written
  rw [blockLines, ends, if_pos rfl, List.append_nil, written]

theorem blockLines_of_row {lead later : Text} {first : Char} (indent : Nat)
    (blank : ∀ c ∈ lead, isBreak c = true) (row : BlockRow body) (breaks : PrintedBreaks trail)
    (ending : trail ++ (if (lead ++ (body ++ trail)).getLast?.any isBreak then [] else ['\n']) =
      first :: later) :
    blockLines indent (lead ++ (body ++ trail)) =
      lead ++ (spaces indent ++ (indentLines indent false body ++ first :: later)) := by
  rw [blockLines, indentLines_text blank row breaks, ← ending]
  simp

/-- A text that is written as a literal block is read back, up to what stands further to the left. -/
theorem readBlock_literal {parent : Nat} (printed : ∀ c ∈ text, isPrintable c = true)
    (nonempty : text ≠ []) (noBreak : more.head?.any isBreak = false)
    (noGap : more.head?.any isGap = false) (left : count < parent + indentStep) :
    ∃ stop after, after.column = count ∧ readBlock true (some parent)
        ⟨printLiteral (parent + indentStep) text ++
          (if text.getLast?.any isBreak then [] else ['\n']) ++ (spaces count ++ more), mark⟩ =
      .ok (text, stop, ⟨more, after⟩) := by
  have whole : printLiteral (parent + indentStep) text ++
      (if text.getLast?.any isBreak then [] else ['\n']) ++ (spaces count ++ more) =
      '|' :: ((incrementFor text).elim [] Text.decimal ++ (chompingFor text).indicator ++
        '\n' :: (blockLines (parent + indentStep) text ++ (spaces count ++ more))) := by
    rw [printLiteral, literalHeader_eq, blockLines]
    simp
  obtain ⟨after, atStart, header⟩ := readBlockHeader_indicators mark text
    (blockLines (parent + indentStep) text ++ (spaces count ++ more)) (mark.advance ['|'])
  rw [whole]
  obtain ⟨lead, core, shape, blank, stops⟩ := exists_breaks text
  have leading : PrintedBreaks lead := fun c member =>
    ⟨printed c (by simp [shape, member]), blank c member⟩
  by_cases isBlank : core = []
  · rw [isBlank, List.append_nil] at shape
    subst shape
    obtain ⟨increment, chomping⟩ := header_of_breaks nonempty blank
    refine readBlock_breaks leading noBreak noGap left atStart (header.trans ?_)
    rw [increment, chomping, blockLines_of_breaks _ nonempty blank]
  · have printedCore : ∀ c ∈ core, isPrintable c = true := fun c member =>
      printed c (by simp [shape, member])
    have coreStarts : core.head?.any isBreak = false := by
      obtain ⟨c, rest, rfl⟩ := List.exists_cons_of_ne_nil isBlank
      exact stops c rfl
    obtain ⟨body, trail, rfl, row, breaks⟩ := exists_blockRow printedCore coreStarts isBlank
    obtain ⟨first, later, ending, ends, kept⟩ := exists_kept lead row breaks
    have known := known_of_incrementFor printedCore blank
    rw [← shape, row.head?_append] at known
    have written : blockLines (parent + indentStep) text ++ (spaces count ++ more) =
        lead ++ (spaces (parent + indentStep) ++ (indentLines (parent + indentStep) false body ++
          first :: (later ++ (spaces count ++ more)))) := by
      rw [shape, blockLines_of_row _ blank row breaks ending]
      simp
    rw [written] at header ⊢
    obtain ⟨stop, behind, isAt, read⟩ :=
      readBlock_row leading row ends noBreak noGap left atStart known header
    refine ⟨stop, behind, isAt, read.trans ?_⟩
    rw [shape, kept, List.append_assoc]

end FfiBindings.Markup
