import FfiBindings.Text.Basic
import Mathlib.Data.List.Basic

/-!
# Block comments

A block comment runs from `/*` to the first `*/` behind it. Comments do not nest, and an opening
without a terminator behind it is no comment. Stripping takes all of them out of a text and keeps
everything else.

What matters about a place in a text is whether a comment is open there. No scan needs to be carried
along for that: once the opening of a documentation comment stands on a line of its own, a comment
is open behind it whatever came before, and everything up to the next terminator is then lost. So
two texts behind such an opening are told apart only by what follows their first terminators.
-/

namespace FfiBindings.Text

/-- What stands behind the first `*/` of a text, if it holds one. -/
def afterTerminator? : Text → Option Text
  | [] => none
  | '*' :: '/' :: rest => some rest
  | _ :: rest => afterTerminator? rest

/-- Less than the whole text stands behind a terminator. -/
theorem length_lt_of_afterTerminator? {text after : Text}
    (found : afterTerminator? text = some after) : after.length < text.length := by
  fun_induction afterTerminator? text with
  | case1 => contradiction
  | case2 rest =>
    cases found
    simp only [List.length_cons]
    omega
  | case3 c rest _ inductionHypothesis => exact Nat.lt_succ_of_lt (inductionHypothesis found)

/-- A text without its block comments, taken from the left. The terminator is looked for behind both
    characters of the opening, so `/*/` does not end the comment that it opens. An opening that
    nothing terminates stays, and then so does all that follows it. -/
def stripComments : Text → Text
  | [] => []
  | '/' :: '*' :: rest =>
      match _ : afterTerminator? rest with
      | some after => stripComments after
      | none => '/' :: '*' :: rest
  | c :: rest => c :: stripComments rest
termination_by text => text.length
decreasing_by
  · have shorter := length_lt_of_afterTerminator? ‹_›
    simp only [List.length_cons]
    omega
  · exact Nat.lt_succ_self _

example : stripComments "a /* b */ c /*/ d */ e /* f" = ("a  c  e /* f" : Text) := by cbv

variable {c : Char} {text rest front back after : Text}

/-- A character that does not begin a terminator is passed over. -/
theorem afterTerminator?_cons (apart : c = '*' → rest.head? ≠ some '/') :
    afterTerminator? (c :: rest) = afterTerminator? rest := by
  apply afterTerminator?.eq_3
  intro tail isStar isSlash
  exact apart isStar (by rw [isSlash, List.head?_cons])

/-- What stands behind the first terminator grows with the text. -/
theorem afterTerminator?_append_of_some (found : afterTerminator? front = some after) :
    afterTerminator? (front ++ back) = some (after ++ back) := by
  fun_induction afterTerminator? front with
  | case1 => contradiction
  | case2 rest =>
    cases found
    rfl
  | case3 c rest apart inductionHypothesis =>
    have nonempty : rest ≠ [] := by
      rintro rfl
      contradiction
    rw [List.cons_append, afterTerminator?_cons, inductionHypothesis found]
    intro isStar isSlash
    rw [List.head?_append_of_ne_nil _ nonempty] at isSlash
    exact apart _ isStar (List.eq_cons_of_mem_head? isSlash)

/-- A text without a terminator is passed over, unless one is formed where the next text begins. -/
theorem afterTerminator?_append_of_none (none : afterTerminator? front = none)
    (seam : front.getLast? = some '*' → back.head? ≠ some '/') :
    afterTerminator? (front ++ back) = afterTerminator? back := by
  fun_induction afterTerminator? front with
  | case1 => rfl
  | case2 rest => contradiction
  | case3 c rest apart inductionHypothesis =>
    cases rest with
    | nil =>
      apply afterTerminator?_cons
      rintro rfl
      exact seam rfl
    | cons d tail =>
      rw [List.cons_append, afterTerminator?_cons, inductionHypothesis none]
      · exact fun isLast => seam (by rw [List.getLast?_cons_cons, isLast])
      · intro isStar isSlash
        exact apart tail isStar (by simpa using isSlash)

/-- Stripping keeps a character that does not begin an opening. -/
theorem stripComments_cons (apart : c = '/' → rest.head? ≠ some '*') :
    stripComments (c :: rest) = c :: stripComments rest := by
  apply stripComments.eq_3
  intro tail isSlash isStar
  exact apart isSlash (by rw [isStar, List.head?_cons])

/-- Stripping goes on behind the terminator of a comment. -/
theorem stripComments_of_terminated (found : afterTerminator? rest = some after) :
    stripComments ('/' :: '*' :: rest) = stripComments after := by
  rw [stripComments]
  split
  · next other sameRest => rw [found] at sameRest; exact congrArg _ (Option.some.inj sameRest).symm
  · next none => rw [found] at none; contradiction

/-- An opening of a documentation comment, set off by a space and alone on the rest of its line. -/
def documentationOpening : Text := [' ', '/', '*', '*', '\n']

/-- The opening itself holds no terminator, and none is formed at its ends. -/
theorem afterTerminator?_documentationOpening (text : Text) :
    afterTerminator? (documentationOpening ++ text) = afterTerminator? text := rfl

/-- Behind the opening of a documentation comment a comment is open, whatever came before: either it
was opened here, or an earlier one is still open. Of the text that follows, stripping loses
everything up to the first terminator; what it keeps of the text before does not depend on it.

The induction is on what came before, one case for each step of stripping. -/
theorem stripComments_documentation (front : Text) :
    ∃ kept, ∀ text after, afterTerminator? text = some after →
      stripComments (front ++ (documentationOpening ++ text)) = kept ++ stripComments after := by
  fun_induction stripComments front with
  | case1 =>
    refine ⟨[' '], fun text after found => ?_⟩
    have opened : stripComments ('/' :: '*' :: '*' :: '\n' :: text) = stripComments after :=
      stripComments_of_terminated found
    have spaced : stripComments (' ' :: '/' :: '*' :: '*' :: '\n' :: text) =
        ' ' :: stripComments ('/' :: '*' :: '*' :: '\n' :: text) := stripComments_cons (by simp)
    exact spaced.trans (congrArg _ opened)
  | case2 rest behind closed inductionHypothesis =>
    obtain ⟨kept, strips⟩ := inductionHypothesis
    refine ⟨kept, fun text after found => ?_⟩
    rw [← strips text after found]
    exact stripComments_of_terminated (afterTerminator?_append_of_some closed)
  | case3 rest unclosed =>
    refine ⟨[], fun text after found => ?_⟩
    have passed : afterTerminator? (rest ++ (documentationOpening ++ text)) = some after := by
      rw [afterTerminator?_append_of_none unclosed fun _ => by simp [documentationOpening],
        afterTerminator?_documentationOpening, found]
    exact stripComments_of_terminated passed
  | case4 c rest apart inductionHypothesis =>
    obtain ⟨kept, strips⟩ := inductionHypothesis
    refine ⟨c :: kept, fun text after found => ?_⟩
    rw [List.cons_append, stripComments_cons, strips text after found, List.cons_append]
    intro isSlash isStar
    cases rest with
    | nil => simp [documentationOpening] at isStar
    | cons d tail => exact apart tail isSlash (by simpa using isStar)

end FfiBindings.Text
