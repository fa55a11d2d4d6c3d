import FfiBindings.Proofs.DoubleQuotes
import FfiBindings.Proofs.Indentation

/-!
# Single quotes read back

Between single quotes a quote is written twice and everything else as it is. Only the two Unicode
separators can break lines there, which are kept when they are read; the indentation of the lines is
not, and as no space stands next to a line break, nothing else is lost with it.
-/

namespace FfiBindings.Markup

variable {text word rest tail : Text} {mark start : Mark} {indent fuel : Nat} {c : Char}

/-- A text with all its quotes written twice. -/
def doubled (text : Text) : Text := text.flatMap fun c => if c == '\'' then ['\'', '\''] else [c]

/-- What stands between the single quotes for a text. -/
def singleBody (indent : Nat) (text : Text) : Text :=
  indentLines indent false (doubled text) ++
    if text.getLast?.any isBreak then spaces indent else []

theorem printSingle_eq (indent : Nat) (text : Text) :
    printSingle indent text = '\'' :: (singleBody indent text ++ ['\'']) := by
  rw [printSingle, singleBody]
  rfl

/-- Neither a gap nor a line break. -/
def isSolid (c : Char) : Bool := !isGap c && !isBreak c

/-- A text that starts neither with a gap nor with a line break. -/
def StartsSolid (text : Text) : Prop := ∀ c, text.head? = some c → isSolid c = true

theorem isSolid_iff : isSolid c = true ↔ isGap c = false ∧ isBreak c = false := by
  simp [isSolid]

/-- The only gap that is printable is the space. -/
theorem isSolid_of_printable (printable : isPrintable c = true) (noSpace : c ≠ ' ')
    (noBreak : isBreak c = false) : isSolid c = true :=
  isSolid_iff.mpr ⟨Bool.eq_false_iff.mpr fun gap => noSpace (Cursor.eq_space_of_gap printable gap),
    noBreak⟩

/-- Words with spaces or line breaks between them. -/
inductive SingleRow : Text → Prop where
  | word {word : Text} (solid : ∀ c ∈ word, isSolid c = true) : SingleRow word
  | spaced {word rest : Text} (count : Nat) (solid : ∀ c ∈ word, isSolid c = true)
      (starts : StartsSolid rest) (row : SingleRow rest) :
      SingleRow (word ++ (spaces (count + 1) ++ rest))
  | broken {word rest : Text} (separator : Char) (separators : Text)
      (solid : ∀ c ∈ word, isSolid c = true)
      (breaks : ∀ c ∈ separator :: separators, isPrintable c = true ∧ isBreak c = true ∧ c ≠ '\n')
      (starts : StartsSolid rest) (row : SingleRow rest) :
      SingleRow (word ++ (separator :: separators ++ rest))

/-- A text without line feeds in which no space stands next to a line break is a row of words. -/
theorem singleRow_of_apart (printed : ∀ c ∈ text, isPrintable c = true ∧ c ≠ '\n')
    (before : hasNeighbours (· == ' ') isBreak text = false)
    (behind : hasNeighbours isBreak (· == ' ') text = false) : SingleRow text := by
  induction size : text.length using Nat.strong_induction_on generalizing text with
  | h total inductionHypothesis =>
    obtain ⟨word, later, rfl, solid, stops⟩ := exists_word isSolid text
    replace before := (hasNeighbours_append before).1
    replace behind := (hasNeighbours_append behind).1
    cases later with
    | nil =>
      rw [List.append_nil]
      exact .word solid
    | cons c later =>
      have loose : c = ' ' ∨ isBreak c = true := by
        have notSolid := stops c rfl
        simp only [isSolid, Bool.and_eq_false_iff, Bool.not_eq_false'] at notSolid
        exact notSolid.imp_left (Cursor.eq_space_of_gap (printed c (by simp)).1)
      rcases loose with rfl | isEnd
      · obtain ⟨count, rest, rfl, noSpace⟩ := exists_spaces later
        rw [← List.cons_append, ← spaces_succ] at *
        obtain ⟨restBefore, meets⟩ := hasNeighbours_append before
        have starts : StartsSolid rest := fun d isHead => by
          have apart := meets ' ' d (by simp [spaces, List.getLast?_replicate]) isHead
          have member := List.mem_of_mem_head? isHead
          exact isSolid_of_printable (printed d (by simp [member])).1
            (fun isSpace => noSpace (isSpace ▸ isHead)) (by simpa using apart)
        refine .spaced count solid starts (inductionHypothesis rest.length ?_
          (fun c member => printed c (by simp [member])) restBefore
            (hasNeighbours_append behind).1 rfl)
        simp [← size]
        omega
      · obtain ⟨separators, rest, rfl, breaks, noBreak⟩ := exists_breaks later
        rw [← List.cons_append] at *
        have ends : ∀ d ∈ c :: separators, isBreak d = true := List.forall_mem_cons.mpr ⟨isEnd, breaks⟩
        obtain ⟨restBehind, meets⟩ := hasNeighbours_append behind
        have starts : StartsSolid rest := fun d isHead => by
          have apart := meets _ d (List.getLast?_eq_some_getLast (List.cons_ne_nil c separators)) isHead
          rw [ends _ (List.getLast_mem _), Bool.true_and] at apart
          have member := List.mem_of_mem_head? isHead
          exact isSolid_of_printable (printed d (by simp [member])).1 (beq_eq_false_iff_ne.mp apart)
            (noBreak d isHead)
        refine .broken c separators solid (fun d member => ?_) starts
          (inductionHypothesis rest.length ?_ (fun c member => printed c (by simp [member]))
            (hasNeighbours_append before).1 restBehind rfl)
        · have known := printed d (List.mem_append_right _ (List.mem_append_left _ member))
          exact ⟨known.1, ends d member, known.2⟩
        · simp [← size]
          omega

/-- A text that is written in single quotes is a row of words. -/
theorem singleRow_of_allowsSingle (noLineFeed : text.contains '\n' = false)
    (allowed : allowsSingle text = true) : SingleRow text := by
  simp only [allowsSingle, Bool.and_eq_true, Bool.not_eq_true', List.all_eq_true] at allowed
  obtain ⟨⟨printed, behind⟩, before⟩ := allowed
  refine singleRow_of_apart (fun c member => ⟨printed c member, ?_⟩) before behind
  rintro rfl
  simp [member] at noLineFeed

theorem doubled_append (first second : Text) :
    doubled (first ++ second) = doubled first ++ doubled second := List.flatMap_append

theorem doubled_of_unquoted (unquoted : '\'' ∉ text) : doubled text = text := by
  induction text with
  | nil => rfl
  | cons c text inductionHypothesis =>
    rw [List.mem_cons, not_or] at unquoted
    have differs : (c == '\'') = false := beq_eq_false_iff_ne.mpr (Ne.symm unquoted.1)
    rw [doubled, List.flatMap_cons, ← doubled, inductionHypothesis unquoted.2, differs]
    rfl

theorem mem_doubled (member : c ∈ doubled text) : c ∈ text := by
  obtain ⟨d, found, isPart⟩ := List.mem_flatMap.mp member
  split at isPart
  · next quote => simp_all
  · simp_all

theorem head?_doubled (text : Text) : (doubled text).head? = text.head? := by
  cases text with
  | nil => rfl
  | cons c text =>
    rw [doubled, List.flatMap_cons]
    split
    · next quote => simp [beq_iff_eq.mp quote]
    · rfl

/-- What is on the same line is not indented. -/
theorem singleBody_line (indent : Nat) (line : ∀ c ∈ word, isBreak c = false) (rest : Text) :
    singleBody indent (word ++ rest) = doubled word ++ singleBody indent rest := by
  have sameEnd : (word ++ rest).getLast?.any isBreak = rest.getLast?.any isBreak := by
    rw [List.getLast?_append]
    cases isLast : rest.getLast? with
    | some c => rfl
    | none =>
      cases ends : word.getLast? with
      | none => rfl
      | some c => exact line c (List.mem_of_mem_getLast? ends)
  rw [singleBody, singleBody, sameEnd, doubled_append,
    indentLines_line (fun c member => line c (mem_doubled member)), List.append_assoc]

/-- What is behind a line break is. -/
theorem singleBody_breaks {separators : Text} (nonempty : separators ≠ [])
    (breaks : ∀ c ∈ separators, isBreak c = true) (starts : StartsSolid rest) :
    singleBody indent (separators ++ rest) =
      separators ++ (spaces indent ++ singleBody indent rest) := by
  have unquoted : '\'' ∉ separators := fun member => by simpa [isBreak] using breaks _ member
  rw [singleBody, singleBody, doubled_append, doubled_of_unquoted unquoted,
    indentLines_breaks nonempty breaks, List.append_assoc]
  cases rest with
  | nil =>
    have ends : (separators ++ []).getLast?.any isBreak = true := by
      rw [List.append_nil, List.getLast?_eq_some_getLast nonempty]
      exact breaks _ (List.getLast_mem nonempty)
    rw [if_pos ends]
    simp [doubled, indentLines]
  | cons c rest =>
    have isHead := head?_doubled (c :: rest)
    cases shape : doubled (c :: rest) with
    | nil => simp [shape] at isHead
    | cons d later =>
      obtain rfl : d = c := by simpa [shape] using isHead
      rw [indentLines_start ((isSolid_iff.mp (starts d rfl)).2), List.append_assoc,
        List.getLast?_append_of_ne_nil separators (List.cons_ne_nil d rest)]

/-- A word between single quotes is read up to what follows it. -/
theorem readSingleWord_append (solid : ∀ c ∈ word, isSolid c = true) (read : Text) :
    readSingleWord read mark (doubled word ++ tail) =
      readSingleWord (read ++ word) (mark.advance (doubled word)) tail := by
  induction word generalizing read mark with
  | nil => rw [List.append_nil]; rfl
  | cons c word inductionHypothesis =>
    obtain ⟨isWord, restSolid⟩ := List.forall_mem_cons.mp solid
    obtain ⟨noGap, noBreak⟩ := isSolid_iff.mp isWord
    rw [doubled, List.flatMap_cons, ← doubled]
    by_cases quote : c = '\''
    · subst quote
      rw [if_pos (by simp), List.append_assoc, List.cons_append, List.cons_append, List.nil_append,
        readSingleWord, inductionHypothesis restSolid, Mark.advance_advance, List.append_assoc]
      rfl
    · rw [if_neg (by simpa using quote), List.append_assoc, List.singleton_append, readSingleWord]
      · rw [noGap, noBreak, Bool.or_false, if_neg (by simp), if_neg (by simpa using quote),
          inductionHypothesis restSolid, Mark.advance_advance, List.append_assoc]
        rfl
      · exact fun _ same _ => quote same

theorem readSingleWord_loose (loose : (isGap c || isBreak c) = true) (word : Text) :
    readSingleWord word mark (c :: tail) = (word, .spacing, ⟨c :: tail, mark⟩) := by
  have unquoted : c ≠ '\'' := by
    rintro rfl
    simp [isGap, isBreak] at loose
  rw [readSingleWord, if_pos loose]
  exact fun _ same _ => unquoted same

theorem readSingleWord_quote (single : tail.head? ≠ some '\'') (word : Text) :
    readSingleWord word mark ('\'' :: tail) = (word, .closed, ⟨'\'' :: tail, mark⟩) := by
  rw [readSingleWord]
  · rfl
  · rintro rest - rfl
    exact single rfl

/-- Line breaks behind the first one are all taken in. -/
theorem readSpacing_breaks {spacing : Spacing} {separators : Text} (start : Mark) (tail : Text)
    (broken : spacing.isBroken = true)
    (breaks : ∀ c ∈ separators, isPrintable c = true ∧ isBreak c = true ∧ c ≠ '\n')
    (atStart : mark.column = 0) :
    ∃ after, after.column = 0 ∧ readSpacing 0 start spacing ⟨separators ++ tail, mark⟩ =
      readSpacing 0 start { spacing with laterBreaks := spacing.laterBreaks ++ separators }
        ⟨tail, after⟩ := by
  induction separators generalizing spacing mark with
  | nil => exact ⟨mark, atStart, by rw [List.append_nil]; rfl⟩
  | cons c separators inductionHypothesis =>
    obtain ⟨⟨printable, isEnd, -⟩, rest⟩ := List.forall_mem_cons.mp breaks
    have added : spacing.addBreak [c] =
        { spacing with laterBreaks := spacing.laterBreaks ++ [c] } := by
      rw [Spacing.addBreak, if_pos broken]
    have stillBroken : (spacing.addBreak [c]).isBroken = true := by
      rw [added]
      exact broken
    obtain ⟨after, column, read⟩ :=
      inductionHypothesis stillBroken rest (mark.column_nextLine c.utf8Size)
    refine ⟨after, column, ?_⟩
    rw [List.cons_append, readSpacing_break printable isEnd, read, added, List.append_assoc]
    rfl

/-- The white space of a row of separators is worth just these. -/
theorem readSpacing_separators {separator : Char} {separators : Text} (start mark : Mark)
    (indent : Nat)
    (breaks : ∀ c ∈ separator :: separators, isPrintable c = true ∧ isBreak c = true ∧ c ≠ '\n')
    (stops : ∀ c, tail.head? = some c → isGap c = false ∧ isBreak c = false) :
    ∃ spacing after, after.column = indent ∧ spacing.text = separator :: separators ∧
      readSpacing 0 start .none ⟨separator :: separators ++ (spaces indent ++ tail), mark⟩ =
        .ok (spacing, ⟨tail, after⟩) := by
  obtain ⟨⟨printable, isEnd, noLineFeed⟩, rest⟩ := List.forall_mem_cons.mp breaks
  have broken : (Spacing.none.addBreak [separator]).isBroken = true := rfl
  obtain ⟨after, column, read⟩ := readSpacing_breaks start (spaces indent ++ tail) broken rest
    (mark.column_nextLine separator.utf8Size)
  refine ⟨⟨[], true, [separator], separators⟩, after.advance (spaces indent), by simp [column], ?_, ?_⟩
  · simp [Spacing.text, noLineFeed]
  · rw [List.cons_append, readSpacing_break printable isEnd, read, readSpacing_spaces,
      readSpacing_stop stops]
    rfl

/-- What stands between single quotes for a text that starts with a word starts in the same way. -/
theorem head?_singleBody (starts : StartsSolid text) :
    ∀ c, (singleBody indent text ++ '\'' :: tail).head? = some c →
      isGap c = false ∧ isBreak c = false := by
  intro c isHead
  cases text with
  | nil =>
    obtain rfl : '\'' = c := Option.some.inj isHead
    decide
  | cons d text =>
    have solid := isSolid_iff.mp (starts d rfl)
    have first := singleBody_line indent (List.forall_mem_singleton.mpr solid.2) text
    have isFirst : (doubled [d]).head? = some d := head?_doubled [d]
    rw [← List.singleton_append, first, List.append_assoc, List.head?_append, isFirst,
      Option.some_or] at isHead
    obtain rfl := Option.some.inj isHead
    exact solid

/-- A word between single quotes is added to the value with the white space behind it. -/
theorem readQuotedWords_singleWord {next : Cursor} {spacing : Spacing}
    (solid : ∀ c ∈ word, isSolid c = true) (loose : (isGap c || isBreak c) = true)
    (moved : 0 < mark.column)
    (passed : readSpacing 0 start .none ⟨c :: tail, mark.advance (doubled word)⟩ =
      .ok (spacing, next)) (value : Text) :
    readQuotedWords true start (fuel + 1) value ⟨doubled word ++ c :: tail, mark⟩ =
      readQuotedWords true start fuel (value ++ word ++ spacing.text) next := by
  have read : readQuotedWord true start ⟨doubled word ++ c :: tail, mark⟩ =
      .ok (word, .spacing, ⟨c :: tail, mark.advance (doubled word)⟩) :=
    congrArg Except.ok ((readSingleWord_append solid []).trans (readSingleWord_loose loose word))
  refine readQuotedWords_spaced value moved (by simp) read ?_ passed
  rintro ⟨⟩
  simp [quoteMark, isGap, isBreak] at loose

theorem singleBody_word (indent : Nat) (solid : ∀ c ∈ word, isSolid c = true) :
    singleBody indent word = doubled word := by
  have line := singleBody_line indent (fun c member => (isSolid_iff.mp (solid c member)).2) []
  rw [List.append_nil] at line
  rw [line]
  exact List.append_nil _

theorem singleBody_spaces (indent count : Nat) (rest : Text) :
    singleBody indent (spaces count ++ rest) = spaces count ++ singleBody indent rest := by
  have unquoted : '\'' ∉ spaces count := fun member => by simpa using eq_of_mem_spaces member
  have line (c : Char) (member : c ∈ spaces count) : isBreak c = false := by
    rw [eq_of_mem_spaces member]
    rfl
  rw [singleBody_line indent line, doubled_of_unquoted unquoted]

/-- What stands between single quotes is read as the text that it stands for. -/
theorem readQuotedWords_single (row : SingleRow text) (single : tail.head? ≠ some '\'')
    (indented : 0 < indent) (enough : text.length < fuel) (moved : 0 < mark.column) (value : Text) :
    ∃ closed, readQuotedWords true start fuel value ⟨singleBody indent text ++ '\'' :: tail, mark⟩ =
      .ok (value ++ text, ⟨tail, closed⟩) := by
  obtain ⟨fuel, rfl⟩ : ∃ less, fuel = less + 1 := ⟨fuel - 1, by omega⟩
  induction row generalizing fuel mark value with
  | @word word solid =>
    have read : readQuotedWord true start ⟨doubled word ++ '\'' :: tail, mark⟩ =
        .ok (word, .closed, ⟨'\'' :: tail, mark.advance (doubled word)⟩) :=
      congrArg Except.ok ((readSingleWord_append solid []).trans (readSingleWord_quote single word))
    rw [singleBody_word indent solid]
    exact ⟨_, readQuotedWords_closed value moved (by simp) read⟩
  | @spaced word rest count solid starts row inductionHypothesis =>
    simp only [List.length_append, length_spaces] at enough
    obtain ⟨fuel, rfl⟩ : ∃ less, fuel = less + 1 := ⟨fuel - 1, by omega⟩
    have passed : readSpacing 0 start .none ⟨spaces (count + 1) ++
        (singleBody indent rest ++ '\'' :: tail), mark.advance (doubled word)⟩ =
          .ok (⟨spaces (count + 1), false, [], []⟩, ⟨singleBody indent rest ++ '\'' :: tail,
            (mark.advance (doubled word)).advance (spaces (count + 1))⟩) :=
      (readSpacing_spaces _ _ _).trans (readSpacing_stop (head?_singleBody starts))
    have further : 0 < ((mark.advance (doubled word)).advance (spaces (count + 1))).column := by simp
    have restEnough : rest.length < fuel + 1 := by omega
    obtain ⟨closed, goesOn⟩ :=
      inductionHypothesis further (value ++ word ++ spaces (count + 1)) fuel restEnough
    rw [singleBody_line indent fun c member => (isSolid_iff.mp (solid c member)).2,
      singleBody_spaces, List.append_assoc, List.append_assoc]
    exact ⟨closed, (readQuotedWords_singleWord solid rfl moved passed value).trans
      (by simpa using goesOn)⟩
  | @broken word rest separator separators solid breaks starts row inductionHypothesis =>
    simp only [List.length_append, List.length_cons] at enough
    obtain ⟨fuel, rfl⟩ : ∃ less, fuel = less + 1 := ⟨fuel - 1, by omega⟩
    obtain ⟨spacing, after, column, worth, passed⟩ := readSpacing_separators start
      (mark.advance (doubled word)) indent breaks (head?_singleBody starts)
    have loose : (isGap separator || isBreak separator) = true := by
      simp [(breaks separator (by simp)).2.1]
    have restEnough : rest.length < fuel + 1 := by omega
    obtain ⟨closed, goesOn⟩ :=
      inductionHypothesis (column ▸ indented) (value ++ word ++ spacing.text) fuel restEnough
    rw [singleBody_line indent fun c member => (isSolid_iff.mp (solid c member)).2,
      singleBody_breaks (List.cons_ne_nil _ _) (fun c member => (breaks c member).2.1) starts,
      List.append_assoc, List.append_assoc, List.append_assoc]
    exact ⟨closed, (readQuotedWords_singleWord solid loose moved passed value).trans
      (by simpa [worth] using goesOn)⟩

theorem length_le_singleBody (indent : Nat) (text : Text) :
    text.length ≤ (singleBody indent text).length := by
  have doubles : text.length ≤ (doubled text).length := by
    induction text with
    | nil => exact Nat.zero_le _
    | cons c text inductionHypothesis =>
      have first : 0 < (if c == '\'' then ['\'', '\''] else [c]).length := by split <;> simp
      rw [doubled, List.flatMap_cons, ← doubled, List.length_append, List.length_cons]
      omega
  have indents := length_le_indentLines indent false (doubled text)
  rw [singleBody, List.length_append]
  omega

/-- A text in single quotes is read back. -/
theorem readQuoted_single (noLineFeed : text.contains '\n' = false)
    (allowed : allowsSingle text = true) (indented : 0 < indent) (single : tail.head? ≠ some '\'') :
    ∃ closed, readQuoted true ⟨printSingle indent text ++ tail, mark⟩ =
      .ok (text, ⟨tail, closed⟩) := by
  have whole : printSingle indent text ++ tail = '\'' :: (singleBody indent text ++ '\'' :: tail) := by
    rw [printSingle_eq, List.cons_append, List.append_assoc]
    rfl
  have enough := length_le_singleBody indent text
  rw [readQuoted, whole, Cursor.advance_one]
  refine readQuotedWords_single (singleRow_of_allowsSingle noLineFeed allowed) single indented ?_
    (by simp) []
  simp only [List.length_cons, List.length_append]
  omega

end FfiBindings.Markup
