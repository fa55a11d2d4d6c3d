import FfiBindings.Proofs.Cursors

/-!
# Plain scalars read back

A text that is written plain has no line breaks and no tabs, so it is a row of words between spaces.
No word starts as a comment and no colon ends one, so that all of it is read, up to the line feed
behind it; and what follows in the next line stands too far to the left to go on with it.
-/

namespace FfiBindings.Markup

variable {text word rest tail more : Text} {mark start : Mark} {indent count : Nat} {c : Char}

/-- A word of a plain scalar, in which nothing can be taken for something else. -/
structure PlainWord (word : Text) : Prop where
  nonempty : word ≠ []
  solid : ∀ c ∈ word, isGap c = false ∧ isBreak c = false
  clear : anyMisleads ' ' word = false

/-- Words with spaces between them. -/
inductive PlainRow : Text → Prop where
  | word {word : Text} (isWord : PlainWord word) : PlainRow word
  | spaced {word rest : Text} (count : Nat) (isWord : PlainWord word) (row : PlainRow rest) :
      PlainRow (word ++ (spaces (count + 1) ++ rest))

/-- A text in which nothing misleads is still such a text when it is cut at a space. -/
theorem anyMisleads_cut {previous : Char}
    (clear : anyMisleads previous (word ++ ' ' :: rest) = false) :
    anyMisleads previous word = false ∧ anyMisleads ' ' rest = false := by
  induction word generalizing previous with
  | nil => exact ⟨rfl, (Bool.or_eq_false_iff.mp clear).2⟩
  | cons c word inductionHypothesis =>
    obtain ⟨here, later⟩ := Bool.or_eq_false_iff.mp clear
    obtain ⟨front, behind⟩ := inductionHypothesis later
    refine ⟨Bool.or_eq_false_iff.mpr ⟨?_, front⟩, behind⟩
    cases word with
    | nil => exact here
    | cons d word => exact here

/-- A text without line breaks, loose ends and anything that misleads is a row of words. -/
theorem plainRow_of_clear (nonempty : text ≠ [])
    (printed : ∀ c ∈ text, isPrintable c = true ∧ isBreak c = false)
    (clear : anyMisleads ' ' text = false) (noSpace : text.head? ≠ some ' ')
    (ending : text.getLast? ≠ some ' ') : PlainRow text := by
  induction size : text.length using Nat.strong_induction_on generalizing text with
  | h total inductionHypothesis =>
    obtain ⟨word, later, rfl, solid, stops⟩ := exists_word (! isGap ·) text
    have spaced (c : Char) (isHead : later.head? = some c) : c = ' ' :=
      Cursor.eq_space_of_gap (printed c (List.mem_append_right _ (List.mem_of_mem_head? isHead))).1
        (by simpa using stops c isHead)
    have isSolid (c : Char) (member : c ∈ word) : isGap c = false ∧ isBreak c = false :=
      ⟨by simpa using solid c member, (printed c (List.mem_append_left _ member)).2⟩
    have isWord : word ≠ [] := by
      rintro rfl
      obtain ⟨c, rest, rfl⟩ := List.exists_cons_of_ne_nil nonempty
      exact noSpace (congrArg some (spaced c rfl))
    obtain ⟨count, rest, rfl, notSpaced⟩ := exists_spaces later
    cases count with
    | zero =>
      have atEnd : rest = [] := by
        cases rest with
        | nil => rfl
        | cons c later => exact absurd (congrArg some (spaced c rfl)) notSpaced
      subst atEnd
      have whole : word ++ (spaces 0 ++ []) = word := List.append_nil word
      rw [whole] at clear ⊢
      exact .word ⟨isWord, isSolid, clear⟩
    | succ count =>
      have restNonempty : rest ≠ [] := by
        rintro rfl
        rw [List.append_nil, spaces, List.replicate_succ', ← List.append_assoc] at ending
        simp at ending
      have atFirst := clear
      rw [spaces_succ, List.cons_append] at atFirst
      rw [spaces, List.replicate_succ', List.append_assoc, ← List.append_assoc] at clear
      rw [← List.append_assoc, List.getLast?_append, List.getLast?_eq_some_getLast restNonempty,
        Option.some_or, ← List.getLast?_eq_some_getLast restNonempty] at ending
      refine .spaced count ⟨isWord, isSolid, (anyMisleads_cut atFirst).1⟩
        (inductionHypothesis rest.length ?_ restNonempty (fun c member => printed c ?_)
          (anyMisleads_cut clear).2 notSpaced ending rfl)
      · simp [← size]
        omega
      · simp [member]

/-- A text that is written plain is a row of words. -/
theorem plainRow_of_allowsPlain (nonempty : text ≠ []) (allowed : allowsPlain text = true) :
    PlainRow text := by
  simp only [allowsPlain, Bool.and_eq_true, Bool.not_eq_true', List.all_eq_true] at allowed
  obtain ⟨⟨⟨printed, clear⟩, start⟩, ending⟩ := allowed
  refine plainRow_of_clear nonempty printed ?_ (fun isHead => ?_) (fun isLast => ?_)
  · obtain ⟨c, rest, rfl⟩ := List.exists_cons_of_ne_nil nonempty
    simp only [isMisleading, misleadsAtStart, Bool.or_eq_false_iff] at clear
    obtain ⟨⟨⟨-, -⟩, noIndicator, noColon⟩, later⟩ := clear
    have noComment : (c == '#') = false := by
      rw [beq_eq_false_iff_ne]
      rintro rfl
      simp at noIndicator
    have noEnd : (c == ':' && isSeparator rest.head?) = false := by
      cases isColon : c == ':' with
      | false => rfl
      | true => simpa [isColon] using noColon
    simp [anyMisleads, misleadsInside, noComment, noEnd, later]
  · simp [isHead, isLoose] at start
  · simp [isLast, isLoose] at ending

/-- A word is read up to the space or the line break behind it. -/
theorem readPlainWord_append {previous : Char} (read : Text)
    (solid : ∀ c ∈ word, isGap c = false ∧ isBreak c = false)
    (clear : anyMisleads previous word = false) (ends : (isGap c || isBreak c) = true) :
    readPlainWord false start read mark (word ++ c :: tail) =
      .ok (read ++ word, ⟨c :: tail, mark.advance word⟩) := by
  induction word generalizing previous read mark with
  | nil => simp [readPlainWord, ends]
  | cons d word inductionHypothesis =>
    obtain ⟨⟨noGap, noBreak⟩, solid⟩ := List.forall_mem_cons.mp solid
    simp only [anyMisleads, misleadsInside, Bool.or_eq_false_iff] at clear
    obtain ⟨⟨noColon, -⟩, clear⟩ := clear
    have goesOn : endsPlain false d (word ++ c :: tail).head? = false := by
      rw [endsPlain, Bool.false_and, Bool.or_false]
      cases isColon : d == ':' with
      | false => rfl
      | true =>
        rw [isColon, Bool.true_and] at noColon
        have notSeparated := (Bool.or_eq_false_iff.mp noColon).1
        cases word with
        | nil => simp [endsWord] at notSeparated
        | cons next word => exact notSeparated
    have noStray : isStrayColon false d (word ++ c :: tail).head? = false := rfl
    rw [List.cons_append, readPlainWord, noGap, noBreak, noStray, goesOn, Bool.or_false,
      if_neg (by simp), if_neg (by simp), if_neg (by simp), inductionHypothesis _ solid clear,
      Mark.advance_advance, List.append_assoc]
    rfl

/-- A word of a plain scalar is added to it; then the scalar ends in front of what stands further to
the left, or goes on. -/
theorem readPlainWords_step {between spacing : Spacing} {next : Cursor} {fuel : Nat}
    {plain : PlainText} (isWord : PlainWord word) (moved : 0 < mark.column)
    (ends : (isGap c || isBreak c) = true)
    (passed : readSpacing indent start .none ⟨c :: tail, mark.advance word⟩ = .ok (between, next)) :
    readPlainWords false indent start (fuel + 1) plain spacing ⟨word ++ c :: tail, mark⟩ =
      if next.mark.column < indent then
        .ok (⟨plain.value ++ spacing.text ++ word, mark.advance word, between.isBroken⟩, next)
      else readPlainWords false indent start fuel
        ⟨plain.value ++ spacing.text ++ word, mark.advance word, between.isBroken⟩ between next := by
  have noMarker : Cursor.atDocumentMarker ⟨word ++ c :: tail, mark⟩ = false := by
    have notFirst : (mark.column == 0) = false := beq_eq_false_iff_ne.mpr (Nat.ne_of_gt moved)
    simp [Cursor.atDocumentMarker, notFirst]
  have noComment : (Cursor.peek ⟨word ++ c :: tail, mark⟩ 0 == some '#') = false := by
    obtain ⟨d, rest, rfl⟩ := List.exists_cons_of_ne_nil isWord.nonempty
    have clear := isWord.clear
    simp only [anyMisleads, misleadsInside, Bool.or_eq_false_iff] at clear
    simpa [isSeparator, endsWord, isGap] using clear.1.2
  have notEmpty : word.isEmpty = false := by simpa using isWord.nonempty
  have goesOn : (Cursor.peek ⟨c :: tail, mark.advance word⟩ 0).all
      (fun c => !isGap c && !isBreak c) = false := by
    rw [Cursor.peek_zero, List.head?_cons, Option.all_some, ← Bool.not_or, ends]
    rfl
  rw [readPlainWords, noMarker, noComment, Bool.or_false, if_neg (by simp),
    readPlainWord_append [] isWord.solid isWord.clear ends]
  change (if (Cursor.peek ⟨c :: tail, mark.advance word⟩ 0).all _ then _ else _) = _
  rw [goesOn, if_neg (by simp)]
  simp only [List.nil_append, notEmpty, Bool.false_eq_true, if_false, passed]
  change (if (!false && decide (next.mark.column < indent)) = true then _ else _) = _
  rw [Bool.not_false, Bool.true_and]
  simp only [decide_eq_true_eq]
  rfl

theorem PlainRow.starts (row : PlainRow text) (tail : Text) :
    ∀ c, (text ++ tail).head? = some c → isGap c = false ∧ isBreak c = false := by
  cases row with
  | word isWord | spaced count isWord row =>
    obtain ⟨d, word, rfl⟩ := List.exists_cons_of_ne_nil isWord.nonempty
    rintro c ⟨⟩
    exact isWord.solid _ (by simp)

/-- The words of a plain scalar are read one after another, up to the next line. -/
theorem readPlainWords_row (next : ∀ c, more.head? = some c → isGap c = false ∧ isBreak c = false)
    (left : count < indent) (row : PlainRow text) {fuel : Nat} (enough : text.length ≤ fuel)
    (inside : indent ≤ mark.column) (plain : PlainText) (gaps : Text) :
    ∃ stop after, readPlainWords false indent start fuel plain ⟨gaps, false, [], []⟩
        ⟨text ++ '\n' :: (spaces count ++ more), mark⟩ =
      .ok (⟨plain.value ++ gaps ++ text, stop, true⟩, ⟨more, after⟩) ∧ after.column = count := by
  have moved : 0 < mark.column := by omega
  induction row generalizing fuel mark plain gaps with
  | @word word isWord =>
    have positive := List.length_pos_iff.mpr isWord.nonempty
    obtain ⟨fuel, rfl⟩ : ∃ less, fuel = less + 1 := ⟨fuel - 1, by omega⟩
    have passed : readSpacing indent start .none
        ⟨'\n' :: (spaces count ++ more), mark.advance word⟩ = .ok (⟨[], true, ['\n'], []⟩,
          ⟨more, ((mark.advance word).nextLine 1).advance (spaces count)⟩) := by
      rw [readSpacing_break rfl rfl, readSpacing_spaces, readSpacing_stop next]
      rfl
    rw [readPlainWords_step isWord moved rfl passed, if_pos (by simpa using left)]
    exact ⟨_, _, rfl, by simp⟩
  | @spaced word rest spaceCount isWord row inductionHypothesis =>
    have positive := List.length_pos_iff.mpr isWord.nonempty
    simp only [List.length_append, length_spaces] at enough
    obtain ⟨fuel, rfl⟩ : ∃ less, fuel = less + 1 := ⟨fuel - 1, by omega⟩
    have passed : readSpacing indent start .none ⟨' ' :: (spaces spaceCount ++
        (rest ++ '\n' :: (spaces count ++ more))), mark.advance word⟩ =
          .ok (⟨spaces (spaceCount + 1), false, [], []⟩, ⟨rest ++ '\n' :: (spaces count ++ more),
            (mark.advance word).advance (spaces (spaceCount + 1))⟩) :=
      (readSpacing_spaces (spaceCount + 1) _ _).trans (readSpacing_stop (row.starts _))
    have onLine : indent ≤ ((mark.advance word).advance (spaces (spaceCount + 1))).column := by
      simp only [Mark.column_advance]
      omega
    have restEnough : rest.length ≤ fuel := by omega
    obtain ⟨stop, after, goesOn, column⟩ := inductionHypothesis restEnough onLine
      ⟨plain.value ++ gaps ++ word, mark.advance word, false⟩ (spaces (spaceCount + 1))
      (Nat.lt_of_lt_of_le (Nat.zero_lt_of_lt left) onLine)
    refine ⟨stop, after, ?_, column⟩
    rw [List.append_assoc, List.append_assoc, spaces_succ, List.cons_append,
      readPlainWords_step isWord moved rfl passed, if_neg (Nat.not_lt.mpr onLine)]
    simpa [List.append_assoc, spaces_succ] using goesOn

/-- A text that is written plain is read back, up to the next line. -/
theorem readPlain_text (next : ∀ c, more.head? = some c → isGap c = false ∧ isBreak c = false)
    (left : count < indent) (inside : indent ≤ mark.column) (nonempty : text ≠ [])
    (allowed : allowsPlain text = true) :
    ∃ stop after, readPlain false indent ⟨text ++ '\n' :: (spaces count ++ more), mark⟩ =
      .ok (⟨text, stop, true⟩, ⟨more, after⟩) ∧ after.column = count := by
  have enough : text.length ≤ (text ++ '\n' :: (spaces count ++ more)).length + 1 := by
    simp only [List.length_append]
    omega
  exact readPlainWords_row next left (plainRow_of_allowsPlain nonempty allowed) enough inside
    ⟨[], mark, false⟩ []

end FfiBindings.Markup
