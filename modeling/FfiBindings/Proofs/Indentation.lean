import FfiBindings.Proofs.Cursors

/-!
# Indented lines

Where a text is written over several lines, the lines are indented but blank ones stay empty. So a row
of line breaks is written as it is, and whatever follows it stands behind the indentation.
-/

namespace FfiBindings.Markup

variable {text first rest : Text} {indent : Nat}

/-- Within a line nothing is put in. -/
theorem indentLines_line (solid : ∀ c ∈ first, isBreak c = false) (rest : Text) :
    indentLines indent false (first ++ rest) = first ++ indentLines indent false rest := by
  induction first with
  | nil => rfl
  | cons c first inductionHypothesis =>
    obtain ⟨noBreak, solid⟩ := List.forall_mem_cons.mp solid
    rw [List.cons_append, indentLines, noBreak, if_neg (by simp), inductionHypothesis solid]
    rfl

/-- Line breaks are written as they are, and the line behind them is indented. -/
theorem indentLines_breaks {afterBreak : Bool} (nonempty : first ≠ [])
    (breaks : ∀ c ∈ first, isBreak c = true) (rest : Text) :
    indentLines indent afterBreak (first ++ rest) = first ++ indentLines indent true rest := by
  induction first generalizing afterBreak with
  | nil => contradiction
  | cons c first inductionHypothesis =>
    obtain ⟨isEnd, breaks⟩ := List.forall_mem_cons.mp breaks
    rw [List.cons_append, indentLines, if_pos isEnd]
    cases first with
    | nil => rfl
    | cons d first => rw [inductionHypothesis (by simp) breaks]; rfl

/-- A line that is not blank stands behind the indentation. -/
theorem indentLines_start {c : Char} (noBreak : isBreak c = false) (rest : Text) :
    indentLines indent true (c :: rest) = spaces indent ++ indentLines indent false (c :: rest) := by
  rw [indentLines, indentLines, noBreak]
  rfl

theorem length_le_indentLines (indent : Nat) (afterBreak : Bool) (text : Text) :
    text.length ≤ (indentLines indent afterBreak text).length := by
  induction text generalizing afterBreak with
  | nil => exact Nat.zero_le _
  | cons c text inductionHypothesis =>
    rw [indentLines]
    split
    · exact Nat.succ_le_succ (inductionHypothesis true)
    · have rest := inductionHypothesis false
      simp only [List.length_append, List.length_cons]
      omega

/-- Every text starts with a row of line breaks. -/
theorem exists_breaks (text : Text) :
    ∃ breaks rest, text = breaks ++ rest ∧ (∀ c ∈ breaks, isBreak c = true) ∧
      ∀ c, rest.head? = some c → isBreak c = false :=
  exists_word isBreak text

/-- Neighbours that do not occur in a text do not occur in its parts, nor where these meet. -/
theorem hasNeighbours_append {one other : Char → Bool} {front behind : Text}
    (absent : hasNeighbours one other (front ++ behind) = false) :
    hasNeighbours one other behind = false ∧
      ∀ a b, front.getLast? = some a → behind.head? = some b → (one a && other b) = false := by
  induction front with
  | nil => exact ⟨absent, by simp⟩
  | cons c front inductionHypothesis =>
    cases front with
    | nil =>
      cases behind with
      | nil => exact ⟨rfl, by simp⟩
      | cons d behind =>
        obtain ⟨here, later⟩ := Bool.or_eq_false_iff.mp absent
        refine ⟨later, ?_⟩
        rintro a b ⟨⟩ ⟨⟩
        exact here
    | cons d front =>
      obtain ⟨-, later⟩ := Bool.or_eq_false_iff.mp absent
      obtain ⟨apart, meets⟩ := inductionHypothesis later
      exact ⟨apart, fun a b isLast => meets a b (by simpa using isLast)⟩

end FfiBindings.Markup
