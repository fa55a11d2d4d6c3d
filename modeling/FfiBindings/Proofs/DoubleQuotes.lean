import FfiBindings.Proofs.Cursors
import FfiBindings.Proofs.Encoding
import Mathlib.Tactic.IntervalCases

/-!
# Double quotes read back

Between double quotes every character but a space is written as itself or as an escape sequence that
is read as that character, so that no line breaks are left and all words stand on one line.
-/

namespace FfiBindings

namespace Text

/-- An uppercase hexadecimal digit has the value it was written for. -/
theorem hexValue?_digit {digit : Nat} (small : digit < 16) :
    hexValue? (Nat.digitChar digit).toUpper = some digit := by
  interval_cases digit <;> decide

/-- The digits of a number spell the number. -/
theorem foldlM_hexDigits (value : Nat) :
    ((Nat.toDigits 16 value).map Char.toUpper).foldlM
      (fun value c => (hexValue? c).map (value * 16 + ·)) 0 = some value := by
  induction value using Nat.strong_induction_on with
  | h value inductionHypothesis =>
    by_cases small : value < 16
    · simp [Nat.toDigits_of_lt_base small, hexValue?_digit small]
    · have least : 16 ≤ value := Nat.le_of_not_lt small
      have last := hexValue?_digit (Nat.mod_lt value (by decide : 0 < 16))
      rw [Nat.toDigits_of_base_le (by decide) least, List.map_append, List.foldlM_append,
        inductionHypothesis (value / 16) (by omega)]
      simp [last]
      omega

/-- Padding does not change the number that the digits spell, nor does it make them too many. -/
theorem hexNumber?_paddedHex {width value : Nat} (positive : 0 < width) (small : value < 16 ^ width) :
    (Markup.paddedHex width value).length = width ∧
      hexNumber? (Markup.paddedHex width value) = some value := by
  have short := (Nat.length_toDigits_le_iff (by decide : 1 < 16) positive).mpr small
  have zeros (count : Nat) : (List.replicate count '0').foldlM
      (fun value c => (hexValue? c).map (value * 16 + ·)) 0 = some 0 := by
    induction count with
    | zero => rfl
    | succ count inductionHypothesis =>
      rw [List.replicate_succ, List.foldlM_cons]
      exact inductionHypothesis
  unfold Markup.paddedHex hexNumber?
  refine ⟨by simp; omega, ?_⟩
  rw [List.foldlM_append, zeros]
  exact foldlM_hexDigits value

/-- The number of a character is a code point that a character can have. -/
theorem isCodePoint_toNat (c : Char) : isCodePoint c.toNat = true := by
  have valid := Utf8.toNat_scalar c
  unfold isCodePoint
  simp only [Bool.or_eq_true, Bool.and_eq_true, decide_eq_true_eq]
  omega

end Text

namespace Markup

open Text

variable {c letter : Char}

/-- Every letter that stands for a character after a backslash is read as that character. -/
theorem escape?_of_escapeLetter? (named : escapeLetter? c = some letter) :
    isBreak letter = false ∧ escape? letter = some (.char c) := by
  have same := Char.ofNat_toNat c
  unfold escapeLetter? at named
  split at named
  all_goals first
    | (next code => rw [code] at same; subst same; obtain rfl := Option.some.inj named; decide)
    | contradiction

/-- Whether a character stands between double quotes as it is. -/
theorem printDoubleChar_cases (c : Char) :
    (printDoubleChar c = [c] ∧ isPrintable c = true ∧ isBreak c = false ∧ c ≠ '"' ∧ c ≠ '\\') ∨
      (∃ letter, printDoubleChar c = ['\\', letter] ∧ isBreak letter = false ∧
        escape? letter = some (.char c)) ∨
      ∃ letter digits, printDoubleChar c = '\\' :: letter :: paddedHex digits c.toNat ∧
        isBreak letter = false ∧ escape? letter = some (.code digits) ∧ 0 < digits ∧
          c.toNat < 16 ^ digits := by
  unfold printDoubleChar
  split
  · next asIs =>
    simp only [Bool.and_eq_true, Bool.not_eq_true', bne_iff_ne, ne_eq] at asIs
    exact .inl ⟨rfl, asIs.1.1.1, asIs.1.1.2, asIs.1.2, asIs.2⟩
  · refine .inr ?_
    cases named : escapeLetter? c with
    | some letter => exact .inl ⟨letter, rfl, escape?_of_escapeLetter? named⟩
    | none =>
      refine .inr ?_
      dsimp only
      split
      · next small => exact ⟨'x', 2, rfl, by decide, by decide, by decide, by omega⟩
      · split
        · next small => exact ⟨'u', 4, rfl, by decide, by decide, by decide, by omega⟩
        · have valid := isCodePoint_toNat c
          simp only [isCodePoint, Bool.or_eq_true, Bool.and_eq_true, decide_eq_true_eq] at valid
          exact ⟨'U', 8, rfl, by decide, by decide, by decide, by omega⟩

variable {start mark : Mark} {tail : Text}

/-- What stands for a character between double quotes is read as the character, unless it is a
space. -/
theorem readDoubleWord_char (word : Text) (notSpace : c ≠ ' ') :
    readDoubleWord start word ⟨printDoubleChar c ++ tail, mark⟩ =
      readDoubleWord start (word ++ [c]) ⟨tail, mark.advance (printDoubleChar c)⟩ := by
  have backslash : (isGap '\\' || isBreak '\\') = false := by decide
  rcases printDoubleChar_cases c with ⟨asIs, printable, noBreak, notQuote, notBackslash⟩ |
    ⟨letter, escaped, noBreak, read⟩ | ⟨letter, digits, escaped, noBreak, read, positive, small⟩
  · have noGap : isGap c = false := by
      rw [Bool.eq_false_iff]
      exact fun gap => notSpace (Cursor.eq_space_of_gap printable gap)
    rw [asIs, List.singleton_append, readDoubleWord]
    simp [noGap, noBreak, notQuote, notBackslash]
    rfl
  · rw [escaped, List.cons_append, List.cons_append, readDoubleWord]
    simp [backslash, noBreak, read]
    rfl
  · obtain ⟨length, number⟩ := hexNumber?_paddedHex positive small
    rw [escaped, List.cons_append, List.cons_append, readDoubleWord]
    have taken : ((paddedHex digits c.toNat ++ tail).take digits) = paddedHex digits c.toNat :=
      List.take_left' length
    have behind : Cursor.advance ⟨'\\' :: letter :: (paddedHex digits c.toNat ++ tail), mark⟩
        (2 + digits) = ⟨tail, mark.advance ('\\' :: letter :: paddedHex digits c.toNat)⟩ := by
      have size : ('\\' :: letter :: paddedHex digits c.toNat).length = 2 + digits := by
        simp only [List.length_cons, length]
        omega
      rw [← size]
      exact Cursor.advance_append _ tail mark
    simp only [backslash, noBreak, read, taken, length, number, isCodePoint_toNat, behind,
      Char.ofNat_toNat, List.head?_cons, Option.any_some, Option.bind_some, List.drop_succ_cons,
      List.drop_zero, Bool.false_eq_true, if_false, if_true, beq_self_eq_true]
    simp

/-- A word between double quotes is read up to what follows it. -/
theorem readDoubleWord_append {word : Text} (solid : ∀ c ∈ word, c ≠ ' ') (read : Text) :
    readDoubleWord start read ⟨word.flatMap printDoubleChar ++ tail, mark⟩ =
      readDoubleWord start (read ++ word)
        ⟨tail, mark.advance (word.flatMap printDoubleChar)⟩ := by
  induction word generalizing read mark with
  | nil => rw [List.append_nil]; rfl
  | cons c word inductionHypothesis =>
    obtain ⟨notSpace, solid⟩ := List.forall_mem_cons.mp solid
    rw [List.flatMap_cons, List.append_assoc, readDoubleWord_char read notSpace,
      inductionHypothesis solid, Mark.advance_advance, List.append_assoc]
    rfl

theorem readDoubleWord_space (word : Text) :
    readDoubleWord start word ⟨' ' :: tail, mark⟩ = .ok (word, .spacing, ⟨' ' :: tail, mark⟩) := by
  rw [readDoubleWord]
  rfl

theorem readDoubleWord_quote (word : Text) :
    readDoubleWord start word ⟨'"' :: tail, mark⟩ = .ok (word, .closed, ⟨'"' :: tail, mark⟩) := by
  rw [readDoubleWord]
  rfl

/-! ### Words of quoted scalars -/

/-- The quote of a scalar. -/
def quoteMark (isSingle : Bool) : Char := if isSingle then '\'' else '"'

/-- Read one word of a quoted scalar. -/
def readQuotedWord (isSingle : Bool) (start : Mark) (cursor : Cursor) :
    Except Complaint (Text × WordEnd × Cursor) :=
  if isSingle then pure (readSingleWord [] cursor.mark cursor.rest)
  else readDoubleWord start [] cursor

variable {isSingle : Bool} {word rest : Text} {fuel : Nat} {after next : Cursor} {spacing : Spacing}

/-- Away from the start of a line a quoted scalar goes on with a word, and then ends or goes on with
white space. -/
theorem readQuotedWords_eq (value : Text) (moved : 0 < mark.column) (nonempty : rest ≠ []) :
    readQuotedWords isSingle start (fuel + 1) value ⟨rest, mark⟩ =
      readQuotedWord isSingle start ⟨rest, mark⟩ >>= fun read =>
        if read.2.2.peek 0 == some (quoteMark isSingle) then
          .ok (value ++ read.1, read.2.2.advance 1)
        else
          readSpacing 0 start (if read.2.1 == .escapedBreak then .escapedBreak else .none)
            read.2.2 >>= fun passed =>
              readQuotedWords isSingle start fuel (value ++ read.1 ++ passed.1.text) passed.2 := by
  have notFirst : (mark.column == 0) = false := beq_eq_false_iff_ne.mpr (Nat.ne_of_gt moved)
  have notEmpty : rest.isEmpty = false := by simpa using nonempty
  rw [readQuotedWords]
  simp only [Cursor.atDocumentMarker, notFirst, Bool.false_and, Bool.false_eq_true, if_false,
    notEmpty]
  cases isSingle <;> rfl

/-- A quoted scalar is closed by a quote behind a word. -/
theorem readQuotedWords_closed {ending : WordEnd} {closed : Mark} (value : Text)
    (moved : 0 < mark.column) (nonempty : rest ≠ [])
    (read : readQuotedWord isSingle start ⟨rest, mark⟩ =
      .ok (word, ending, ⟨quoteMark isSingle :: tail, closed⟩)) :
    readQuotedWords isSingle start (fuel + 1) value ⟨rest, mark⟩ =
      .ok (value ++ word, ⟨tail, closed.advance [quoteMark isSingle]⟩) := by
  rw [readQuotedWords_eq value moved nonempty, read]
  change (if (some (quoteMark isSingle) == some (quoteMark isSingle)) = true then _ else _) = _
  rw [if_pos (by simp)]
  rfl

/-- A quoted scalar goes on with the white space behind a word. -/
theorem readQuotedWords_spaced (value : Text) (moved : 0 < mark.column) (nonempty : rest ≠ [])
    (read : readQuotedWord isSingle start ⟨rest, mark⟩ = .ok (word, .spacing, after))
    (notClosed : after.peek 0 ≠ some (quoteMark isSingle))
    (passed : readSpacing 0 start .none after = .ok (spacing, next)) :
    readQuotedWords isSingle start (fuel + 1) value ⟨rest, mark⟩ =
      readQuotedWords isSingle start fuel (value ++ word ++ spacing.text) next := by
  rw [readQuotedWords_eq value moved nonempty, read]
  change (if (after.peek 0 == some (quoteMark isSingle)) = true then _ else _) = _
  rw [if_neg (by simpa using notClosed)]
  change (readSpacing 0 start .none after >>= _) = _
  rw [passed]
  rfl

/-! ### Double quotes -/

/-- What stands between double quotes for a text that starts with no space starts with neither a gap
nor a line break. -/
theorem head?_flatMap_printDoubleChar {text : Text} (noSpace : text.head? ≠ some ' ') :
    ∀ c, (text.flatMap printDoubleChar ++ '"' :: tail).head? = some c →
      isGap c = false ∧ isBreak c = false := by
  intro c isHead
  cases text with
  | nil =>
    obtain rfl : '"' = c := Option.some.inj isHead
    decide
  | cons d text =>
    rcases printDoubleChar_cases d with ⟨asIs, printable, noBreak, -⟩ | ⟨letter, escaped, -⟩ |
      ⟨letter, digits, escaped, -⟩
    · obtain rfl : d = c := by simpa [asIs] using isHead
      refine ⟨?_, noBreak⟩
      rw [Bool.eq_false_iff]
      exact fun gap => noSpace (congrArg some (Cursor.eq_space_of_gap printable gap))
    · obtain rfl : '\\' = c := by simpa [escaped] using isHead
      decide
    · obtain rfl : '\\' = c := by simpa [escaped] using isHead
      decide

theorem flatMap_spaces (count : Nat) : (spaces count).flatMap printDoubleChar = spaces count := by
  induction count with
  | zero => rfl
  | succ count inductionHypothesis =>
    rw [spaces_succ, List.flatMap_cons, inductionHypothesis]
    rfl

/-- What stands between double quotes is read as the text that it stands for. -/
theorem readQuotedWords_double {text : Text} (enough : text.length < fuel) (moved : 0 < mark.column)
    (value : Text) :
    ∃ closed, readQuotedWords false start fuel value
        ⟨text.flatMap printDoubleChar ++ '"' :: tail, mark⟩ =
      .ok (value ++ text, ⟨tail, closed⟩) := by
  induction fuel generalizing text mark value with
  | zero => exact absurd enough (Nat.not_lt_zero _)
  | succ fuel inductionHypothesis =>
    obtain ⟨word, solid, rfl | ⟨count, rest, rfl, noSpace⟩⟩ := exists_spaced_word text
    · have read : readQuotedWord false start ⟨text.flatMap printDoubleChar ++ '"' :: tail, mark⟩ =
          .ok (text, .closed, ⟨'"' :: tail, mark.advance (text.flatMap printDoubleChar)⟩) :=
        (readDoubleWord_append solid []).trans (readDoubleWord_quote text)
      exact ⟨_, readQuotedWords_closed value moved (by simp) read⟩
    · simp only [List.length_append, length_spaces] at enough
      have whole : (word ++ (spaces (count + 1) ++ rest)).flatMap printDoubleChar ++ '"' :: tail =
          word.flatMap printDoubleChar ++
            (spaces (count + 1) ++ (rest.flatMap printDoubleChar ++ '"' :: tail)) := by
        simp only [List.flatMap_append, flatMap_spaces, List.append_assoc]
      have read : readQuotedWord false start ⟨word.flatMap printDoubleChar ++
          (spaces (count + 1) ++ (rest.flatMap printDoubleChar ++ '"' :: tail)), mark⟩ =
          .ok (word, .spacing, ⟨spaces (count + 1) ++ (rest.flatMap printDoubleChar ++ '"' :: tail),
            mark.advance (word.flatMap printDoubleChar)⟩) :=
        (readDoubleWord_append solid []).trans (readDoubleWord_space word)
      have passed : readSpacing 0 start .none
          ⟨spaces (count + 1) ++ (rest.flatMap printDoubleChar ++ '"' :: tail),
            mark.advance (word.flatMap printDoubleChar)⟩ =
          .ok (⟨spaces (count + 1), false, [], []⟩, ⟨rest.flatMap printDoubleChar ++ '"' :: tail,
            (mark.advance (word.flatMap printDoubleChar)).advance (spaces (count + 1))⟩) :=
        (readSpacing_spaces _ _ _).trans (readSpacing_stop (head?_flatMap_printDoubleChar noSpace))
      have restEnough : rest.length < fuel := by omega
      have further : 0 < ((mark.advance (word.flatMap printDoubleChar)).advance
          (spaces (count + 1))).column := by simp
      obtain ⟨closed, goesOn⟩ := inductionHypothesis restEnough further
        (value ++ word ++ spaces (count + 1))
      rw [whole, readQuotedWords_spaced value moved (by simp [spaces_succ]) read
        (by simp [spaces_succ, quoteMark]) passed]
      exact ⟨closed, by simpa using goesOn⟩

theorem length_le_flatMap_printDoubleChar (text : Text) :
    text.length ≤ (text.flatMap printDoubleChar).length := by
  induction text with
  | nil => exact Nat.le_refl 0
  | cons c text inductionHypothesis =>
    have some : 0 < (printDoubleChar c).length := by
      rcases printDoubleChar_cases c with ⟨same, -⟩ | ⟨letter, same, -⟩ | ⟨letter, digits, same, -⟩ <;>
        simp [same]
    rw [List.flatMap_cons, List.length_append, List.length_cons]
    omega

/-- A text in double quotes is read back. -/
theorem readQuoted_double (text : Text) :
    ∃ closed, readQuoted false ⟨printDouble text ++ tail, mark⟩ = .ok (text, ⟨tail, closed⟩) := by
  have whole : printDouble text ++ tail = '"' :: (text.flatMap printDoubleChar ++ '"' :: tail) := by
    simp [printDouble]
  rw [readQuoted, whole, Cursor.advance_one]
  have enough := length_le_flatMap_printDoubleChar text
  refine readQuotedWords_double ?_ (by simp) []
  simp only [List.length_cons, List.length_append]
  omega

end Markup

end FfiBindings
