import FfiBindings.Proofs.Cutting
import Mathlib.Data.List.DropRight

/-!
# What pieces of a text are made of

Cutting and trimming take texts apart without adding anything: every character of a piece is one of
the whole. What a text was cut at is in none of its pieces, so entries hold no commas, fields no
blanks and lines no line feeds.
-/

namespace FfiBindings.Text

variable {text piece : Text} {c : Char}

/-- The pieces put together are the text without its separators. -/
theorem flatten_splitWhen (isSeparator : Char → Bool) (text : Text) :
    (splitWhen isSeparator text).flatten = text.filter (! isSeparator ·) := by
  fun_induction splitWhen isSeparator text with
  | case1 => rfl
  | case2 c rest separates inductionHypothesis => simp [separates, inductionHypothesis]
  | case3 c rest kept none inductionHypothesis =>
    rw [none] at inductionHypothesis
    simp [kept, ← inductionHypothesis]
  | case4 c rest kept piece pieces split inductionHypothesis =>
    rw [split] at inductionHypothesis
    simp [kept, ← inductionHypothesis]

/-- A character of a piece is one of the text, and no separator. -/
theorem mem_filter_of_mem_splitWhen {isSeparator : Char → Bool}
    (cut : piece ∈ splitWhen isSeparator text) (member : c ∈ piece) :
    c ∈ text.filter (! isSeparator ·) := by
  rw [← flatten_splitWhen]
  exact List.mem_flatten_of_mem cut member

theorem kept_of_mem_splitWhen {isSeparator : Char → Bool} (cut : piece ∈ splitWhen isSeparator text)
    (member : c ∈ piece) : isSeparator c = false := by
  simpa using (List.mem_filter.mp (mem_filter_of_mem_splitWhen cut member)).2

theorem mem_of_mem_splitWhen {isSeparator : Char → Bool} (cut : piece ∈ splitWhen isSeparator text)
    (member : c ∈ piece) : c ∈ text :=
  (List.mem_filter.mp (mem_filter_of_mem_splitWhen cut member)).1

/-- A field is not empty. -/
theorem ne_nil_of_mem_fields (cut : piece ∈ fields text) : piece ≠ [] := by
  simpa using (List.mem_filter.mp cut).2

/-- A field holds no blank. -/
theorem solid_of_mem_fields (cut : piece ∈ fields text) (member : c ∈ piece) :
    isBlank c = false :=
  kept_of_mem_splitWhen (List.mem_filter.mp cut).1 member

/-- A character of a field is one of the text. -/
theorem mem_of_mem_fields (cut : piece ∈ fields text) (member : c ∈ piece) : c ∈ text :=
  mem_of_mem_splitWhen (List.mem_filter.mp cut).1 member

/-- The fields put together are the text without its blanks. -/
theorem flatten_fields (text : Text) : (fields text).flatten = text.filter (! isBlank ·) := by
  rw [← flatten_splitWhen, fields]
  induction splitWhen isBlank text with
  | nil => rfl
  | cons piece pieces inductionHypothesis =>
    cases piece <;> simp [inductionHypothesis]

/-- Only a text of blanks has no fields. -/
theorem fields_eq_nil_iff {text : Text} : fields text = [] ↔ text.all isBlank = true := by
  have whole := flatten_fields text
  constructor
  · intro none
    rw [none] at whole
    simpa using whole.symm
  · intro blank
    have nothing : text.filter (! isBlank ·) = [] := by simpa using blank
    rw [nothing, List.flatten_eq_nil_iff] at whole
    exact List.eq_nil_iff_forall_not_mem.mpr fun field member =>
      ne_nil_of_mem_fields member (whole field member)

/-- A line holds no line feed. -/
theorem unbroken_of_mem_lines (cut : piece ∈ lines text) : '\n' ∉ piece := by
  intro member
  simpa using kept_of_mem_splitWhen (mem_split_of_mem_lines cut) member

/-- A character of a line is one of the text. -/
theorem mem_of_mem_lines (cut : piece ∈ lines text) (member : c ∈ piece) : c ∈ text :=
  mem_of_mem_splitWhen (mem_split_of_mem_lines cut) member

/-- A character of the trimmed text is one of the text. -/
theorem mem_of_mem_trim (member : c ∈ trim text) : c ∈ text := by
  have inStart : c ∈ trimStart text := (List.rdropWhile_prefix isBlank _).subset member
  exact (List.dropWhile_suffix isBlank).subset inStart

/-- What lacks a character of a text does not begin with that text. -/
theorem isPrefixOf?_eq_none_of_not_mem {front : Text} (inFront : c ∈ front) (absent : c ∉ text) :
    List.isPrefixOf? front text = none := by
  rw [Option.eq_none_iff_forall_ne_some]
  intro rest isPrefix
  rw [← List.append_eq_of_isPrefixOf?_eq_some isPrefix] at absent
  exact absent (List.mem_append_left rest inFront)

end FfiBindings.Text
