import FfiBindings.Text.Blank
import Mathlib.Data.List.Basic

/-!
# Cutting undoes joining

A text that was put together from pieces without the separator is cut into the same pieces again:
lines that end in line feeds, entries between commas, and words between single spaces. A blank in
front of a text makes no difference to its words.
-/

namespace FfiBindings.Text

theorem splitWhen_ne_nil (isSeparator : Char → Bool) (text : Text) :
    splitWhen isSeparator text ≠ [] := by
  cases text with
  | nil => exact List.cons_ne_nil _ _
  | cons c rest =>
    unfold splitWhen
    split
    · exact List.cons_ne_nil _ _
    · split <;> exact List.cons_ne_nil _ _

/-- Any other character goes with the first piece. -/
theorem splitWhen_cons_of_kept {isSeparator : Char → Bool} {c : Char} {rest piece : Text}
    {pieces : List Text} (kept : isSeparator c = false)
    (cut : splitWhen isSeparator rest = piece :: pieces) :
    splitWhen isSeparator (c :: rest) = (c :: piece) :: pieces := by
  simp [splitWhen, kept, cut]

/-- A text that is cut like its beginning at first is so behind one more character, too. -/
theorem splitWhen_cons_append {isSeparator : Char → Bool} {c : Char} {text beginning : Text}
    {pieces : List Text}
    (same : splitWhen isSeparator text = splitWhen isSeparator beginning ++ pieces) :
    splitWhen isSeparator (c :: text) = splitWhen isSeparator (c :: beginning) ++ pieces := by
  obtain ⟨first, later, cut⟩ := List.exists_cons_of_ne_nil (splitWhen_ne_nil isSeparator beginning)
  cases kept : isSeparator c with
  | true => simp [splitWhen, kept, same]
  | false =>
    rw [splitWhen_cons_of_kept kept cut, List.cons_append]
    exact splitWhen_cons_of_kept kept (by rw [same, cut, List.cons_append])

/-- Cutting at the first separator. -/
theorem splitWhen_append_cons {isSeparator : Char → Bool} {piece : Text} {c : Char} (rest : Text)
    (kept : ∀ d ∈ piece, isSeparator d = false) (separates : isSeparator c = true) :
    splitWhen isSeparator (piece ++ c :: rest) = piece :: splitWhen isSeparator rest := by
  induction piece with
  | nil => simp [splitWhen, separates]
  | cons d piece inductionHypothesis =>
    have tail := inductionHypothesis fun e member => kept e (List.mem_cons_of_mem d member)
    simp [splitWhen, kept d List.mem_cons_self, tail]

/-- A text without separators is one piece. -/
theorem splitWhen_of_kept {isSeparator : Char → Bool} {piece : Text}
    (kept : ∀ d ∈ piece, isSeparator d = false) : splitWhen isSeparator piece = [piece] := by
  induction piece with
  | nil => rfl
  | cons d piece inductionHypothesis =>
    have tail := inductionHypothesis fun e member => kept e (List.mem_cons_of_mem d member)
    simp [splitWhen, kept d List.mem_cons_self, tail]

/-- A blank-free word in front of a blank is the first field. -/
theorem fields_append_cons {word : Text} {c : Char} (rest : Text) (nonempty : word ≠ [])
    (solid : ∀ d ∈ word, isBlank d = false) (blank : isBlank c = true) :
    fields (word ++ c :: rest) = word :: fields rest := by
  rw [fields, splitWhen_append_cons rest solid blank]
  simp [fields, nonempty]

/-- A blank in front adds no field. -/
theorem fields_cons_of_isBlank {c : Char} (text : Text) (blank : isBlank c = true) :
    fields (c :: text) = fields text := by
  simp [fields, splitWhen, blank]

/-- A blank-free word is its own field. -/
theorem fields_of_solid {word : Text} (nonempty : word ≠ [])
    (solid : ∀ d ∈ word, isBlank d = false) : fields word = [word] := by
  rw [fields, splitWhen_of_kept solid]
  simp [nonempty]

/-- Words joined by spaces are the fields of the whole. -/
theorem fields_join {words : List Text} (nonempty : ∀ word ∈ words, word ≠ [])
    (solid : ∀ word ∈ words, ∀ c ∈ word, isBlank c = false) : fields (join " " words) = words := by
  induction words with
  | nil => rfl
  | cons word rest inductionHypothesis =>
    have wordNonempty := nonempty word List.mem_cons_self
    have wordSolid := solid word List.mem_cons_self
    have tail := inductionHypothesis
      (fun other member => nonempty other (List.mem_cons_of_mem word member))
      (fun other member => solid other (List.mem_cons_of_mem word member))
    cases rest with
    | nil => exact fields_of_solid wordNonempty wordSolid
    | cons next later =>
      have whole : join " " (word :: next :: later) = word ++ ' ' :: join " " (next :: later) := by
        simp [join]
      rw [whole, fields_append_cons _ wordNonempty wordSolid (by decide), tail]

/-- Entries without commas, joined by a comma and a space, are cut at the commas. The spaces stay
with the entries after them. -/
theorem split_join_comma (entry : Text) (entries : List Text)
    (kept : ∀ piece ∈ entry :: entries, ',' ∉ piece) :
    split ',' (join ", " (entry :: entries)) = entry :: entries.map (' ' :: ·) := by
  have isKept {piece : Text} (absent : ',' ∉ piece) : ∀ d ∈ piece, (d == ',') = false := by
    intro d member
    simp only [beq_eq_false_iff_ne, ne_eq]
    rintro rfl
    exact absent member
  induction entries generalizing entry with
  | nil => exact splitWhen_of_kept (isKept (kept entry List.mem_cons_self))
  | cons next later inductionHypothesis =>
    have whole : join ", " (entry :: next :: later) =
        entry ++ ',' :: ' ' :: join ", " (next :: later) := by simp [join]
    have tail := inductionHypothesis next fun piece member =>
      kept piece (List.mem_cons_of_mem entry member)
    have spaced : splitWhen (· == ',') (' ' :: join ", " (next :: later)) =
        (' ' :: next) :: later.map (' ' :: ·) := by
      rw [split] at tail
      rw [splitWhen, tail]
      rfl
    rw [whole, split, splitWhen_append_cons _ (isKept (kept entry List.mem_cons_self)) (by decide),
      spaced, List.map_cons]

/-- A character that neither the separator nor a piece holds is not in the whole. -/
theorem not_mem_join {c : Char} {separator : Text} {pieces : List Text} (between : c ∉ separator)
    (absent : ∀ piece ∈ pieces, c ∉ piece) : c ∉ join separator pieces := by
  induction pieces with
  | nil => exact List.not_mem_nil
  | cons piece rest inductionHypothesis =>
    cases rest with
    | nil => exact absent piece List.mem_cons_self
    | cons next later =>
      have tail := inductionHypothesis fun other member =>
        absent other (List.mem_cons_of_mem piece member)
      simp only [join, List.mem_append, not_or]
      exact ⟨⟨absent piece List.mem_cons_self, between⟩, tail⟩

/-- A line that ends in a line feed is the first line. -/
theorem lines_append_cons {line : Text} (rest : Text) (whole : '\n' ∉ line) :
    lines (line ++ '\n' :: rest) = line :: lines rest := by
  induction line with
  | nil => simp [lines]
  | cons c line inductionHypothesis =>
    have notBreak : (c == '\n') = false := by
      simp only [beq_eq_false_iff_ne, ne_eq]
      rintro rfl
      exact whole List.mem_cons_self
    have tail := inductionHypothesis fun member => whole (List.mem_cons_of_mem c member)
    simp [lines, notBreak, tail]

/-- Lines that each end in a line feed are read back as they were. -/
theorem lines_flatMap {texts : List Text} (whole : ∀ line ∈ texts, '\n' ∉ line) :
    lines (texts.flatMap (· ++ ['\n'])) = texts := by
  induction texts with
  | nil => rfl
  | cons line rest inductionHypothesis =>
    have tail := inductionHypothesis fun other member =>
      whole other (List.mem_cons_of_mem line member)
    have first : (line :: rest).flatMap (· ++ ['\n']) =
        line ++ '\n' :: rest.flatMap (· ++ ['\n']) := by simp
    rw [first, lines_append_cons _ (whole line List.mem_cons_self), tail]

/-- The pieces between the line feeds are the lines, and behind a final line feed an empty piece. -/
theorem split_eq_lines (text : Text) :
    split '\n' text = lines text ∨ split '\n' text = lines text ++ [[]] := by
  induction text with
  | nil => exact .inr rfl
  | cons c rest inductionHypothesis =>
    by_cases breaks : c = '\n'
    · subst breaks
      have cut : split '\n' ('\n' :: rest) = [] :: split '\n' rest := rfl
      have broken : lines ('\n' :: rest) = [] :: lines rest := rfl
      rw [cut, broken]
      exact inductionHypothesis.imp (congrArg _) (congrArg _)
    · have kept : (c == '\n') = false := beq_false_of_ne breaks
      obtain ⟨piece, pieces, cut⟩ := List.exists_cons_of_ne_nil (splitWhen_ne_nil (· == '\n') rest)
      have whole : split '\n' (c :: rest) = (c :: piece) :: pieces := splitWhen_cons_of_kept kept cut
      rw [split, cut] at inductionHypothesis
      rw [whole, lines, kept, if_neg Bool.false_ne_true]
      cases below : lines rest with
      | nil =>
        have single : piece = [] ∧ pieces = [] := by simpa [below] using inductionHypothesis
        exact .inl (by rw [single.1, single.2])
      | cons line later =>
        simp only [below, List.cons_append, List.cons.injEq] at inductionHypothesis
        refine inductionHypothesis.imp ?_ ?_
        · rintro ⟨rfl, rfl⟩
          rfl
        · rintro ⟨rfl, rfl⟩
          rfl

/-- A line is a piece between line feeds. -/
theorem mem_split_of_mem_lines {text line : Text} (cut : line ∈ lines text) :
    line ∈ split '\n' text := by
  rcases split_eq_lines text with same | same
  · exact same ▸ cut
  · exact same ▸ List.mem_append_left [[]] cut

/-- A text that is not empty has a first line. -/
theorem lines_cons_ne_nil (c : Char) (rest : Text) : lines (c :: rest) ≠ [] := by
  unfold lines
  split
  · exact List.cons_ne_nil _ _
  · split <;> exact List.cons_ne_nil _ _

/-- A line feed parts the lines that end there from those behind. -/
theorem lines_append_break (front back : Text) :
    lines (front ++ '\n' :: back) = lines (front ++ ['\n']) ++ lines back := by
  induction front with
  | nil => simp [lines]
  | cons c rest inductionHypothesis =>
    rw [List.cons_append, lines, inductionHypothesis, List.cons_append, lines]
    split
    · rfl
    · cases first : lines (rest ++ ['\n']) with
      | nil => cases rest <;> exact absurd first (lines_cons_ne_nil _ _)
      | cons line later => rfl

/-- The lines of a text that ends in a line feed are followed by those of what stands behind it. -/
theorem lines_append_of_ended {front : Text} (ended : front.getLast? = some '\n') (back : Text) :
    lines (front ++ back) = lines front ++ lines back := by
  obtain ⟨texts, rfl⟩ := List.getLast?_eq_some_iff.mp ended
  rw [List.append_assoc, List.singleton_append, lines_append_break]

/-- Lines that each end in a line feed are cut apart from what follows, also where they hold line
feeds of their own. -/
theorem lines_flatMap_append (texts : List Text) (back : Text) :
    lines (texts.flatMap (· ++ ['\n']) ++ back) =
      lines (texts.flatMap (· ++ ['\n'])) ++ lines back := by
  rcases texts.eq_nil_or_concat with rfl | ⟨front, last, rfl⟩
  · rfl
  · have ended : (front.concat last).flatMap (· ++ ['\n']) =
        (front.flatMap (· ++ ['\n']) ++ last) ++ ['\n'] := by simp
    rw [ended, List.append_assoc, List.singleton_append, lines_append_break]

end FfiBindings.Text
