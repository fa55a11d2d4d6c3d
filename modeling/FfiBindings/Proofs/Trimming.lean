import FfiBindings.Text.Blank
import Mathlib.Data.List.DropRight

/-!
# Trimmed texts

A text is trimmed when no blank stands at either end; blanks inside do not matter. Trimming yields
such a text and changes nothing else, so a trimmed text is exactly one that trimming leaves alone.
Joining nonempty trimmed pieces gives a trimmed text whatever the separator is.
-/

namespace FfiBindings.Text

/-- No blank stands at either end of the text. The empty text is trimmed. -/
structure Trimmed (text : Text) : Prop where
  first : ∀ c ∈ text.head?, isBlank c = false
  last : ∀ c ∈ text.getLast?, isBlank c = false

/-- A text without blanks holds no blank character. -/
theorem not_mem_of_solid {text : Text} {c : Char} (blank : isBlank c = true)
    (solid : ∀ d ∈ text, isBlank d = false) : c ∉ text := by
  intro member
  exact Bool.false_ne_true ((solid c member).symm.trans blank)

/-- A text without blanks is trimmed. -/
theorem trimmed_of_solid {text : Text} (solid : ∀ c ∈ text, isBlank c = false) : Trimmed text where
  first := fun c isFirst => solid c (List.mem_of_mem_head? isFirst)
  last := fun c isLast => solid c (List.mem_of_getLast? isLast)

/-- Dropping blanks in front changes nothing where the text starts with another character. -/
theorem trimStart_eq_self {text : Text} (first : ∀ c ∈ text.head?, isBlank c = false) :
    trimStart text = text := by
  cases text with
  | nil => rfl
  | cons c rest => simp [trimStart, first c (by simp)]

/-- Dropping blanks at the end changes nothing where the text ends in another character. -/
theorem trimEnd_eq_self {text : Text} (last : ∀ c ∈ text.getLast?, isBlank c = false) :
    trimEnd text = text := by
  apply List.rdropWhile_eq_self_iff.mpr
  intro nonempty
  simpa using last _ (List.getLast?_eq_some_getLast nonempty)

/-- A trimmed text is not changed by trimming. -/
theorem trim_of_trimmed {text : Text} (trimmed : Trimmed text) : trim text = text := by
  rw [trim, trimStart_eq_self trimmed.first, trimEnd_eq_self trimmed.last]

/-- Trimming leaves no blank at either end. The first character is that of the text without its
leading blanks, since trimming the end keeps a prefix. -/
theorem trimmed_trim (text : Text) : Trimmed (trim text) := by
  constructor
  · intro c isFirst
    obtain ⟨ending, whole⟩ : trim text <+: trimStart text := List.rdropWhile_prefix isBlank _
    have startsWith : (trimStart text).head? = some c := by
      rw [← whole, List.head?_append, Option.mem_def.mp isFirst, Option.some_or]
    have nonempty : trimStart text ≠ [] := by
      intro empty
      simp [empty] at startsWith
    have notBlank := List.head_dropWhile_not isBlank nonempty
    rw [List.head?_eq_some_head nonempty, Option.some.injEq] at startsWith
    exact startsWith ▸ notBlank
  · intro c isLast
    have nonempty : trim text ≠ [] := by
      intro empty
      simp [empty] at isLast
    have notBlank := List.rdropWhile_last_not isBlank (trimStart text) nonempty
    rw [Option.mem_def, List.getLast?_eq_some_getLast nonempty, Option.some.injEq] at isLast
    change isBlank ((trim text).getLast nonempty) ≠ true at notBlank
    rwa [isLast, ne_eq, Bool.not_eq_true] at notBlank

/-- The trimmed texts are the fixed points of trimming. -/
theorem trim_eq_self_iff (text : Text) : trim text = text ↔ Trimmed text := by
  constructor
  · intro same
    exact same ▸ trimmed_trim text
  · exact trim_of_trimmed

/-- Blanks in front are dropped. -/
theorem trimStart_append_of_blank {front : Text} (blank : ∀ c ∈ front, isBlank c = true)
    (text : Text) : trimStart (front ++ text) = trimStart text :=
  List.dropWhile_append_of_pos blank

/-- Blanks behind are dropped. -/
theorem trimEnd_append_of_blank (text : Text) {back : Text} (blank : ∀ c ∈ back, isBlank c = true) :
    trimEnd (text ++ back) = trimEnd text := by
  have blankReverse : ∀ c ∈ back.reverse, isBlank c = true :=
    fun c member => blank c (List.mem_reverse.mp member)
  rw [trimEnd, List.reverse_append, List.dropWhile_append_of_pos blankReverse]
  rfl

/-- Nothing is left of a text of blanks, and of no other. -/
theorem trim_eq_nil_iff {text : Text} : trim text = [] ↔ ∀ c ∈ text, isBlank c = true := by
  constructor
  · intro nothing
    have behind : ∀ c ∈ trimStart text, isBlank c = true := by
      rw [trim, trimEnd, List.reverse_eq_nil_iff, List.dropWhile_eq_nil_iff] at nothing
      exact fun c member => nothing c (List.mem_reverse.mpr member)
    intro c member
    rw [← List.takeWhile_append_dropWhile (p := isBlank) (l := text)] at member
    rcases List.mem_append.mp member with inFront | after
    · exact List.mem_takeWhile_imp inFront
    · exact behind c after
  · intro blank
    rw [trim, trimStart, List.dropWhile_eq_nil_iff.mpr blank]
    rfl

/-- Blanks around a text make no difference to the trimmed text. -/
theorem trim_append_of_blank {front back : Text} (inside : Text)
    (blankFront : ∀ c ∈ front, isBlank c = true) (blankBack : ∀ c ∈ back, isBlank c = true) :
    trim (front ++ inside ++ back) = trim inside := by
  rw [trim, List.append_assoc, trimStart_append_of_blank blankFront]
  by_cases nothing : trimStart inside = []
  · have blankInside : ∀ c ∈ inside, isBlank c = true := List.dropWhile_eq_nil_iff.mp nothing
    have whole : ∀ c ∈ inside ++ back, isBlank c = true :=
      List.forall_mem_append.mpr ⟨blankInside, blankBack⟩
    rw [trimStart, List.dropWhile_eq_nil_iff.mpr whole, trim, nothing]
  · have notEmpty : ¬ (inside.dropWhile isBlank).isEmpty = true :=
      fun empty => nothing (List.isEmpty_iff.mp empty)
    have kept : trimStart (inside ++ back) = trimStart inside ++ back := by
      rw [trimStart, List.dropWhile_append, if_neg notEmpty]
      rfl
    rw [kept, trimEnd_append_of_blank _ blankBack]
    rfl

/-- A blank in front makes no difference. -/
theorem trim_cons_of_isBlank {c : Char} (text : Text) (blank : isBlank c = true) :
    trim (c :: text) = trim text := by
  have same := trim_append_of_blank text (List.forall_mem_singleton.mpr blank) (List.forall_mem_nil _)
  rwa [List.append_nil] at same

/-- A blank after a trimmed text is dropped. -/
theorem trim_concat_of_isBlank {text : Text} {c : Char} (trimmed : Trimmed text)
    (blank : isBlank c = true) : trim (text ++ [c]) = text := by
  have same := trim_append_of_blank text (List.forall_mem_nil _) (List.forall_mem_singleton.mpr blank)
  rw [List.nil_append] at same
  rw [same, trim_of_trimmed trimmed]

/-- What stands between two nonempty texts does not matter for the ends of the whole. -/
theorem trimmed_append {front back : Text} (middle : Text) (frontNonempty : front ≠ [])
    (backNonempty : back ≠ []) (first : ∀ c ∈ front.head?, isBlank c = false)
    (last : ∀ c ∈ back.getLast?, isBlank c = false) : Trimmed (front ++ middle ++ back) := by
  constructor
  · intro c isFirst
    obtain ⟨head, rest, rfl⟩ := List.exists_cons_of_ne_nil frontNonempty
    exact first c (by simpa using isFirst)
  · intro c isLast
    rw [List.getLast?_append_of_ne_nil _ backNonempty] at isLast
    exact last c isLast

/-- A text that starts with another character than a blank is trimmed if its end is. -/
theorem trimmed_cons_append {c : Char} {back : Text} (middle : Text) (first : isBlank c = false)
    (nonempty : back ≠ []) (last : ∀ d ∈ back.getLast?, isBlank d = false) :
    Trimmed (c :: (middle ++ back)) :=
  trimmed_append middle (List.cons_ne_nil c []) nonempty (by simpa using first) last

/-- A text between two characters that are not blank is trimmed together with them. -/
theorem trimmed_enclosed {c d : Char} (middle : Text) (first : isBlank c = false)
    (last : isBlank d = false) : Trimmed (c :: (middle ++ [d])) :=
  trimmed_cons_append middle first (List.cons_ne_nil d []) (by simpa using last)

/-- Pieces that are not empty join to a text that is not empty. -/
theorem join_ne_nil (separator : Text) {pieces : List Text} (some : pieces ≠ [])
    (nonempty : ∀ piece ∈ pieces, piece ≠ []) : join separator pieces ≠ [] := by
  cases pieces with
  | nil => exact absurd rfl some
  | cons piece rest =>
    have pieceNonempty : piece ≠ [] := nonempty piece (by simp)
    cases rest <;> simp [join, pieceNonempty]

/-- Nonempty trimmed pieces join to a trimmed text, whatever separates them: its ends are the first
piece's beginning and the last piece's end. -/
theorem trimmed_join (separator : Text) {pieces : List Text}
    (nonempty : ∀ piece ∈ pieces, piece ≠ []) (trimmed : ∀ piece ∈ pieces, Trimmed piece) :
    Trimmed (join separator pieces) := by
  induction pieces with
  | nil => exact ⟨by simp [join], by simp [join]⟩
  | cons piece rest inductionHypothesis =>
    cases rest with
    | nil => exact trimmed piece (by simp)
    | cons next later =>
      have restNonempty : ∀ piece ∈ next :: later, piece ≠ [] :=
        fun piece member => nonempty piece (List.mem_cons_of_mem _ member)
      have restTrimmed : Trimmed (join separator (next :: later)) :=
        inductionHypothesis restNonempty
          (fun piece member => trimmed piece (List.mem_cons_of_mem _ member))
      exact trimmed_append separator (nonempty piece (by simp))
        (join_ne_nil separator (by simp) restNonempty)
        (trimmed piece (by simp)).first restTrimmed.last

end FfiBindings.Text
