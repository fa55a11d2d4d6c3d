import FfiBindings.Proofs.LiteralBlocks
import FfiBindings.Proofs.SingleQuotes

/-!
# Printed scalars

Each of the four styles is chosen for texts of its own kind only. Whatever the text, what is printed for
it are printable characters: in double quotes all others are escaped, and the other styles are not
chosen for a text that has any. So there is nothing in it that a document may not hold.
-/

namespace FfiBindings.Markup

variable {c : Char} {text : Text}

/-- How a text is printed, and what is known of a text that is printed so. -/
theorem printScalar_cases (indent : Nat) (text : Text) :
    (text ≠ [] ∧ allowsPlain text = true ∧ printScalar indent text = text ++ ['\n']) ∨
    (text.contains '\n' = false ∧ allowsSingle text = true ∧
      printScalar indent text = printSingle indent text ++ ['\n']) ∨
    (text ≠ [] ∧ (∀ c ∈ text, isPrintable c = true) ∧ printScalar indent text =
      printLiteral indent text ++ if text.getLast?.any isBreak then [] else ['\n']) ∨
    printScalar indent text = printDouble text ++ ['\n'] := by
  unfold printScalar chooseStyle
  by_cases multiline : text.contains '\n' = true
  · rw [if_pos multiline]
    by_cases allowed : allowsLiteral text = true
    · have nonempty : text ≠ [] := by
        rintro rfl
        simp at multiline
      rw [if_pos allowed]
      simp only [allowsLiteral, Bool.and_eq_true, List.all_eq_true] at allowed
      exact .inr (.inr (.inl ⟨nonempty, allowed.1.1, rfl⟩))
    · rw [if_neg allowed]
      exact .inr (.inr (.inr rfl))
  · rw [if_neg multiline]
    by_cases plain : (meansText text && allowsPlain text) = true
    · obtain ⟨meaning, allowed⟩ := Bool.and_eq_true_iff.mp plain
      have nonempty : text ≠ [] := by
        rintro rfl
        exact absurd meaning (by decide)
      rw [if_pos plain]
      exact .inl ⟨nonempty, allowed, rfl⟩
    · rw [if_neg plain]
      by_cases allowed : allowsSingle text = true
      · rw [if_pos allowed]
        exact .inr (.inl ⟨Bool.eq_false_iff.mpr multiline, allowed, rfl⟩)
      · rw [if_neg allowed]
        exact .inr (.inr (.inr rfl))

/-! ### Characters -/

/-- A document may hold whatever is printed as it is. -/
theorem isAdmitted_of_isPrintable (printable : isPrintable c = true) : isAdmitted c = true := by
  simp only [isPrintable, Bool.or_eq_true, Bool.and_eq_true, beq_iff_eq, decide_eq_true_eq,
    bne_iff_ne] at printable
  simp only [isAdmitted, Bool.or_eq_true, Bool.and_eq_true, beq_iff_eq, decide_eq_true_eq]
  omega

theorem mem_indentLines {indent : Nat} {afterBreak : Bool}
    (member : c ∈ indentLines indent afterBreak text) : c = ' ' ∨ c ∈ text := by
  induction text generalizing afterBreak with
  | nil => simp [indentLines] at member
  | cons d text inductionHypothesis =>
    rw [indentLines] at member
    split at member
    · rcases List.mem_cons.mp member with rfl | later
      · exact .inr List.mem_cons_self
      · exact (inductionHypothesis later).imp_right (List.mem_cons_of_mem d)
    · rcases List.mem_append.mp member with indented | member
      · split at indented
        · exact .inl (eq_of_mem_spaces indented)
        · contradiction
      · rcases List.mem_cons.mp member with rfl | later
        · exact .inr List.mem_cons_self
        · exact (inductionHypothesis later).imp_right (List.mem_cons_of_mem d)

theorem isPrintable_of_mem_hexDigits {value : Nat}
    (member : c ∈ (Nat.toDigits 16 value).map Char.toUpper) : isPrintable c = true := by
  have digits : ∀ digit < 16, isPrintable (Nat.digitChar digit).toUpper = true := by decide
  induction value using Nat.strong_induction_on with
  | h value inductionHypothesis =>
    by_cases small : value < 16
    · rw [Nat.toDigits_of_lt_base small] at member
      obtain rfl := List.mem_singleton.mp member
      exact digits value small
    · have least : 16 ≤ value := Nat.le_of_not_lt small
      rw [Nat.toDigits_of_base_le (by decide) least, List.map_append] at member
      rcases List.mem_append.mp member with front | last
      · exact inductionHypothesis (value / 16) (by omega) front
      · obtain rfl := List.mem_singleton.mp last
        exact digits _ (Nat.mod_lt value (by decide))

theorem isPrintable_of_mem_paddedHex {width value : Nat} (member : c ∈ paddedHex width value) :
    isPrintable c = true := by
  rcases List.mem_append.mp member with zero | digit
  · rw [List.eq_of_mem_replicate zero]
    rfl
  · exact isPrintable_of_mem_hexDigits digit

theorem isPrintable_of_escapeLetter? {letter : Char} (named : escapeLetter? c = some letter) :
    isPrintable letter = true := by
  unfold escapeLetter? at named
  split at named
  all_goals first
    | (obtain rfl := Option.some.inj named; rfl)
    | contradiction

theorem isPrintable_of_mem_printDoubleChar {d : Char} (member : d ∈ printDoubleChar c) :
    isPrintable d = true := by
  unfold printDoubleChar at member
  split at member
  · next asIs =>
    simp only [Bool.and_eq_true] at asIs
    obtain rfl := List.mem_singleton.mp member
    exact asIs.1.1.1
  · have escaped (letter : Char) (isLetter : isPrintable letter = true) (digits : Nat)
        (member : d ∈ '\\' :: letter :: paddedHex digits c.toNat) : isPrintable d = true := by
      rcases List.mem_cons.mp member with rfl | member
      · rfl
      · rcases List.mem_cons.mp member with rfl | digit
        · exact isLetter
        · exact isPrintable_of_mem_paddedHex digit
    split at member
    · next letter named =>
      rcases List.mem_cons.mp member with rfl | member
      · rfl
      · obtain rfl := List.mem_singleton.mp member
        exact isPrintable_of_escapeLetter? named
    · dsimp only at member
      split at member
      · exact escaped 'x' rfl 2 member
      · split at member
        · exact escaped 'u' rfl 4 member
        · exact escaped 'U' rfl 8 member

theorem isPrintable_of_mem_literalHeader (member : c ∈ literalHeader text) : isPrintable c = true := by
  have digits : ∀ c ∈ Text.decimal indentStep, isPrintable c = true := List.all_eq_true.mp (by decide)
  have indicators (chomping : Chomping) : ∀ c ∈ chomping.indicator, isPrintable c = true :=
    List.all_eq_true.mp (by cases chomping <;> decide)
  rw [literalHeader_eq, List.mem_cons, List.mem_append] at member
  rcases member with rfl | indentation | chomping
  · rfl
  · unfold incrementFor at indentation
    split at indentation
    · exact digits c indentation
    · exact absurd indentation List.not_mem_nil
  · exact indicators (chompingFor text) c chomping

theorem isPrintable_of_mem_printSingle {indent : Nat} (printed : ∀ c ∈ text, isPrintable c = true)
    (member : c ∈ printSingle indent text) : isPrintable c = true := by
  rw [printSingle_eq, singleBody] at member
  simp only [List.mem_cons, List.mem_append, List.not_mem_nil, or_false] at member
  rcases member with rfl | (line | closing) | rfl
  · rfl
  · rcases mem_indentLines line with rfl | quoted
    · rfl
    · exact printed c (mem_doubled quoted)
  · split at closing
    · rw [eq_of_mem_spaces closing]
      rfl
    · contradiction
  · rfl

theorem isPrintable_of_mem_printDouble (member : c ∈ printDouble text) : isPrintable c = true := by
  simp only [printDouble, List.mem_cons, List.mem_append, List.not_mem_nil, or_false,
    List.mem_flatMap] at member
  rcases member with (rfl | ⟨d, -, printed⟩) | rfl
  · rfl
  · exact isPrintable_of_mem_printDoubleChar printed
  · rfl

theorem isPrintable_of_mem_printLiteral {indent : Nat} (printed : ∀ c ∈ text, isPrintable c = true)
    (member : c ∈ printLiteral indent text) : isPrintable c = true := by
  rw [printLiteral, List.mem_append, List.mem_cons] at member
  rcases member with header | rfl | line
  · exact isPrintable_of_mem_literalHeader header
  · rfl
  · rcases mem_indentLines line with rfl | inside
    · rfl
    · exact printed c inside

/-- A scalar is printed in printable characters. -/
theorem isPrintable_of_mem_printScalar {indent : Nat} (member : c ∈ printScalar indent text) :
    isPrintable c = true := by
  have ended {written : Text} (printed : ∀ c ∈ written, isPrintable c = true)
      (member : c ∈ written ++ ['\n']) : isPrintable c = true := by
    rcases List.mem_append.mp member with inside | ending
    · exact printed c inside
    · obtain rfl := List.mem_singleton.mp ending
      rfl
  rcases printScalar_cases indent text with ⟨-, allowed, shape⟩ | ⟨-, allowed, shape⟩ |
    ⟨-, printed, shape⟩ | shape
  · simp only [allowsPlain, Bool.and_eq_true, List.all_eq_true] at allowed
    exact ended (fun c member => (allowed.1.1.1 c member).1) (shape ▸ member)
  · simp only [allowsSingle, Bool.and_eq_true, List.all_eq_true] at allowed
    exact ended (fun _ => isPrintable_of_mem_printSingle allowed.1.1) (shape ▸ member)
  · rw [shape, List.mem_append] at member
    rcases member with inside | ending
    · exact isPrintable_of_mem_printLiteral printed inside
    · split at ending
      · contradiction
      · obtain rfl := List.mem_singleton.mp ending
        rfl
  · exact ended (fun _ => isPrintable_of_mem_printDouble) (shape ▸ member)

/-- So is a field. -/
theorem isPrintable_of_mem_printField {level : Nat} {name : Text}
    (printed : ∀ c ∈ name, isPrintable c = true) (member : c ∈ printField level name text) :
    isPrintable c = true := by
  have separator : ∀ c ∈ (": " : Text), isPrintable c = true := List.all_eq_true.mp (by decide)
  simp only [printField, List.mem_append] at member
  rcases member with ((indentation | inName) | colon) | inText
  · rw [eq_of_mem_spaces indentation]
    rfl
  · exact printed c inName
  · exact separator c colon
  · exact isPrintable_of_mem_printScalar inText

end FfiBindings.Markup
