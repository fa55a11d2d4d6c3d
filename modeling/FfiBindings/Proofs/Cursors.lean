import FfiBindings.Markup.Printer
import Mathlib.Data.List.TakeWhile

/-!
# Passing over text

What a cursor stands at after it has passed over text that is known, and which token the scanner then
comes to.
-/

namespace FfiBindings.Markup

variable {passed rest : Text} {mark : Mark} {c : Char}

theorem spaces_succ (count : Nat) : spaces (count + 1) = ' ' :: spaces count :=
  List.replicate_succ

@[simp]
theorem length_spaces (count : Nat) : (spaces count).length = count := List.length_replicate

theorem eq_of_mem_spaces {count : Nat} (member : c ∈ spaces count) : c = ' ' :=
  List.eq_of_mem_replicate member

/-- Every text starts with a row of characters that pass a test, up to one that does not. -/
theorem exists_word (test : Char → Bool) (text : Text) :
    ∃ word later, text = word ++ later ∧ (∀ c ∈ word, test c = true) ∧
      ∀ c, later.head? = some c → test c = false := by
  refine ⟨text.takeWhile test, text.dropWhile test, List.takeWhile_append_dropWhile.symm,
    fun c => List.mem_takeWhile_imp, fun c isHead => ?_⟩
  have stops := List.head?_dropWhile_not test text
  rw [isHead] at stops
  simpa using stops

/-- Every text starts with a row of spaces. -/
theorem exists_spaces (text : Text) :
    ∃ count later, text = spaces count ++ later ∧ later.head? ≠ some ' ' := by
  obtain ⟨word, later, rfl, all, stops⟩ := exists_word (· == ' ') text
  refine ⟨word.length, later, ?_, fun isHead => by simpa using stops ' ' isHead⟩
  rw [spaces, ← List.eq_replicate_of_mem fun c member => by simpa using all c member]

/-- Every text starts with a word, at its end or in front of a row of spaces. -/
theorem exists_spaced_word (text : Text) :
    ∃ word, (∀ c ∈ word, c ≠ ' ') ∧ (text = word ∨
      ∃ count rest, text = word ++ (spaces (count + 1) ++ rest) ∧ rest.head? ≠ some ' ') := by
  obtain ⟨word, later, rfl, solid, stops⟩ := exists_word (· != ' ') text
  refine ⟨word, fun c member => by simpa using solid c member, ?_⟩
  obtain ⟨count, rest, rfl, noSpace⟩ := exists_spaces later
  cases count with
  | succ count => exact .inr ⟨count, rest, rfl, noSpace⟩
  | zero =>
    cases rest with
    | nil => exact .inl (List.append_nil word)
    | cons c rest =>
      have isSpace : c = ' ' := by simpa using stops c rfl
      exact absurd (congrArg some isSpace) noSpace

namespace Mark

@[simp]
theorem column_advance (mark : Mark) (passed : Text) :
    (mark.advance passed).column = mark.column + passed.length := rfl

@[simp]
theorem line_advance (mark : Mark) (passed : Text) : (mark.advance passed).line = mark.line := rfl

@[simp]
theorem advance_nil (mark : Mark) : mark.advance [] = mark := rfl

theorem advance_advance (mark : Mark) (first second : Text) :
    (mark.advance first).advance second = mark.advance (first ++ second) := by
  simp [advance, Nat.add_assoc]

@[simp]
theorem column_nextLine (mark : Mark) (width : Nat) : (mark.nextLine width).column = 0 := rfl

end Mark

namespace Cursor

@[simp]
theorem peek_zero (rest : Text) (mark : Mark) : Cursor.peek ⟨rest, mark⟩ 0 = rest.head? :=
  List.head?_eq_getElem?.symm

@[simp]
theorem peek_one (c : Char) (rest : Text) (mark : Mark) :
    Cursor.peek ⟨c :: rest, mark⟩ 1 = rest.head? :=
  List.head?_eq_getElem?.symm

theorem advance_append (passed rest : Text) (mark : Mark) :
    Cursor.advance ⟨passed ++ rest, mark⟩ passed.length = ⟨rest, mark.advance passed⟩ := by
  simp [advance]

theorem advance_one (c : Char) (rest : Text) (mark : Mark) :
    Cursor.advance ⟨c :: rest, mark⟩ 1 = ⟨rest, mark.advance [c]⟩ := rfl

/-- Characters that pass the test are passed over up to one that does not. -/
theorem takeWhile_append {test : Char → Bool} (all : ∀ c ∈ passed, test c = true)
    (stop : ∀ c, rest.head? = some c → test c = false) :
    Cursor.takeWhile test ⟨passed ++ rest, mark⟩ = passed := by
  have nothing : rest.takeWhile test = [] := by
    cases rest with
    | nil => rfl
    | cons c later => simp [stop c rfl]
  rw [takeWhile, List.takeWhile_append_of_pos all, nothing, List.append_nil]

theorem skipWhile_append {test : Char → Bool} (all : ∀ c ∈ passed, test c = true)
    (stop : ∀ c, rest.head? = some c → test c = false) :
    Cursor.skipWhile test ⟨passed ++ rest, mark⟩ = ⟨rest, mark.advance passed⟩ := by
  rw [skipWhile, takeWhile_append all stop, advance_append]

/-- Among what is printed as it is only spaces are gaps. -/
theorem eq_space_of_gap (printable : isPrintable c = true) (gap : isGap c = true) : c = ' ' := by
  unfold isGap at gap
  simp only [Bool.or_eq_true, beq_iff_eq] at gap
  rcases gap with rfl | rfl
  · rfl
  · simp [isPrintable] at printable

/-- The line breaks that are printed as they are. -/
theorem break_of_printable (printable : isPrintable c = true) (ends : isBreak c = true) :
    c = '\n' ∨ c = '\u2028' ∨ c = '\u2029' := by
  unfold isBreak at ends
  simp only [Bool.or_eq_true, beq_iff_eq] at ends
  rcases ends with (((rfl | rfl) | rfl) | rfl) | rfl
  · exact .inl rfl
  · simp [isPrintable] at printable
  · simp [isPrintable] at printable
  · exact .inr (.inl rfl)
  · exact .inr (.inr rfl)

/-- A line break that is printed as it is is read as it is. -/
theorem readBreak_of_printable (printable : isPrintable c = true) (ends : isBreak c = true)
    (rest : Text) (mark : Mark) :
    Cursor.readBreak ⟨c :: rest, mark⟩ = ([c], ⟨rest, mark.nextLine c.utf8Size⟩) := by
  rcases break_of_printable printable ends with rfl | rfl | rfl <;> rfl

end Cursor

/-! ### White space -/

section Spacing

variable {start : Mark} {spacing : Spacing} {indent : Nat}

namespace Spacing

/-- Gaps within a line are worth themselves. -/
@[simp]
theorem text_gaps (gaps : Text) : text ⟨gaps, false, [], []⟩ = gaps := rfl

/-- Take in a row of spaces. -/
def addSpaces (spacing : Spacing) (count : Nat) : Spacing :=
  if spacing.isBroken then spacing else { spacing with gaps := spacing.gaps ++ spaces count }

theorem addSpaces_succ (spacing : Spacing) (count : Nat) :
    (spacing.addGap ' ').addSpaces count = spacing.addSpaces (count + 1) := by
  unfold addGap addSpaces
  cases broken : spacing.isBroken <;> simp [broken, spaces, List.replicate_succ]

end Spacing

/-- White space ends in front of anything else. -/
theorem readSpacing_stop (stop : ∀ c, rest.head? = some c → isGap c = false ∧ isBreak c = false) :
    readSpacing indent start spacing ⟨rest, mark⟩ = .ok (spacing, ⟨rest, mark⟩) := by
  rw [readSpacing]
  split
  · rfl
  · next c later shape =>
    obtain ⟨noGap, noBreak⟩ := stop c (by rw [show rest = c :: later from shape]; rfl)
    simp [noGap, noBreak]

/-- A space is taken in. -/
theorem readSpacing_space (rest : Text) (mark : Mark) :
    readSpacing indent start spacing ⟨' ' :: rest, mark⟩ =
      readSpacing indent start (spacing.addGap ' ') ⟨rest, mark.advance [' ']⟩ := by
  rw [readSpacing]
  have isGap : isGap ' ' = true := rfl
  simp [isGap]
  rfl

/-- A line break is taken in. -/
theorem readSpacing_break (printable : isPrintable c = true) (ends : isBreak c = true)
    (rest : Text) (mark : Mark) :
    readSpacing indent start spacing ⟨c :: rest, mark⟩ =
      readSpacing indent start (spacing.addBreak [c]) ⟨rest, mark.nextLine c.utf8Size⟩ := by
  have noGap : isGap c = false := by
    rcases Cursor.break_of_printable printable ends with rfl | rfl | rfl <;> rfl
  rw [readSpacing]
  simp [noGap, ends, Cursor.readBreak_of_printable printable ends]

/-- A row of spaces is taken in. -/
theorem readSpacing_spaces (count : Nat) (rest : Text) (mark : Mark) :
    readSpacing indent start spacing ⟨spaces count ++ rest, mark⟩ =
      readSpacing indent start (spacing.addSpaces count) ⟨rest, mark.advance (spaces count)⟩ := by
  induction count generalizing spacing mark with
  | zero =>
    have same : spacing.addSpaces 0 = spacing := by
      unfold Spacing.addSpaces
      split <;> simp [spaces]
    rw [same]
    rfl
  | succ count inductionHypothesis =>
    rw [spaces_succ, List.cons_append, readSpacing_space, inductionHypothesis,
      Spacing.addSpaces_succ, Mark.advance_advance]
    rfl

end Spacing

/-! ### The next token -/

namespace Scanner

/-- A text that starts with a token, if anything, and not with what is passed over. -/
def StartsToken (rest : Text) : Prop :=
  ∀ c, rest.head? = some c → isBreak c = false ∧ isGap c = false ∧ c ≠ '#' ∧ c ≠ '\uFEFF'

variable {scanner : Scanner} {fuel count : Nat}

theorem StartsToken.not_passedOver (starts : StartsToken rest) :
    (rest.head? == some '#') = false ∧ rest.head?.any isBreak = false := by
  cases shape : rest.head? with
  | none => exact ⟨rfl, rfl⟩
  | some c =>
    obtain ⟨noBreak, -, noComment, -⟩ := starts c shape
    simp [noBreak, noComment]

theorem StartsToken.head?_spaces (starts : StartsToken rest) :
    ((spaces count ++ rest).head? == some '\uFEFF') = false := by
  cases count with
  | zero =>
    cases shape : rest.head? with
    | none => simp [spaces, shape]
    | some c => simp [spaces, shape, (starts c shape).2.2.2]
  | succ count => simp [spaces, List.replicate_succ]

/-- Spaces lead to the token behind them. -/
theorem skipToToken_spaces (starts : StartsToken rest)
    (here : scanner.cursor = ⟨spaces count ++ rest, mark⟩) :
    skipToToken (fuel + 1) scanner =
      { scanner with cursor := ⟨rest, mark.advance (spaces count)⟩ } := by
  have passed : Cursor.skipWhile (fun c => c == ' ' ||
      ((scanner.inFlow || !scanner.keyAllowed) && c == '\t')) ⟨spaces count ++ rest, mark⟩ =
      ⟨rest, mark.advance (spaces count)⟩ := by
    refine Cursor.skipWhile_append (fun c member => ?_) fun c isHead => ?_
    · simp [eq_of_mem_spaces member]
    · have noGap := (starts c isHead).2.1
      simp only [isGap, Bool.or_eq_false_iff] at noGap
      simp [noGap]
  obtain ⟨noComment, noBreak⟩ := starts.not_passedOver
  rw [skipToToken]
  simp only [here, Cursor.peek_zero, starts.head?_spaces, Bool.and_false, Bool.false_eq_true,
    if_false, passed, noComment, noBreak]

/-- A line feed outside of brackets leads to the next line, where a key may start. -/
theorem skipToToken_lineFeed (outside : scanner.inFlow = false)
    (here : scanner.cursor = ⟨'\n' :: rest, mark⟩) :
    skipToToken (fuel + 1) scanner =
      skipToToken fuel { scanner with cursor := ⟨rest, mark.nextLine 1⟩, keyAllowed := true } := by
  have nothing : Cursor.skipWhile (fun c => c == ' ' || (!scanner.keyAllowed && c == '\t'))
      ⟨'\n' :: rest, mark⟩ =
      ⟨'\n' :: rest, mark⟩ :=
    Cursor.skipWhile_append (List.forall_mem_nil _) (by simp)
  have noMark : (('\n' :: rest).head? == some '\uFEFF') = false := rfl
  have noComment : (('\n' :: rest).head? == some '#') = false := rfl
  have ends : ('\n' :: rest).head?.any isBreak = true := rfl
  rw [skipToToken]
  simp only [here, Cursor.peek_zero, noMark, Bool.and_false, Bool.false_eq_true, if_false, outside,
    Bool.false_or, nothing, noComment, ends, if_true, Bool.not_false, Bool.or_true]
  rfl

end Scanner

end FfiBindings.Markup
