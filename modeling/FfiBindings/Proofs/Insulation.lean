import FfiBindings.Proofs.BlockComments
import FfiBindings.Proofs.ServiceLines

/-!
# Comments stay comments

The comment of a function is copied into the documentation of its method. There it has no influence
on the code of the class: two lists of functions that differ in their comments alone are rendered to
classes that are the same without their block comments. Comments may be any texts. Nothing is asked
of names, types and identifiers either, so a comment that one of them opens or closes by accident
does not weaken the law.

Two facts carry this. A softened text holds no terminator, and the line it stands on forms none at
its ends. And behind the opening of a documentation block a comment is open in any case, so what
stands there up to the end of the block is lost.
-/

namespace FfiBindings.Text

/-- Some terminator comes first where there is one at all. -/
theorem exists_afterTerminator? (front back : Text) :
    ∃ after, afterTerminator? (front ++ '*' :: '/' :: back) = some after := by
  cases found : afterTerminator? front with
  | some after => exact ⟨_, afterTerminator?_append_of_some found⟩
  | none => exact ⟨back, afterTerminator?_append_of_none found (by simp)⟩

end FfiBindings.Text

namespace FfiBindings.Service

open Source (ExportedFunction)

/-- Softening keeps the first character. -/
theorem head?_softenTerminators (text : Text) : (softenTerminators text).head? = text.head? := by
  fun_cases softenTerminators text <;> rfl

/-- A softened text holds no terminator. Where one stood, its characters are set apart, and none is
formed anew, since softening keeps every first character. -/
theorem afterTerminator?_softenTerminators (text : Text) :
    Text.afterTerminator? (softenTerminators text) = none := by
  fun_induction softenTerminators text with
  | case1 => rfl
  | case2 rest inductionHypothesis =>
    have apart : Text.afterTerminator? ('*' :: '\\' :: '/' :: softenTerminators rest) =
        Text.afterTerminator? (softenTerminators rest) := rfl
    rw [apart, inductionHypothesis]
  | case3 c rest apart inductionHypothesis =>
    rw [Text.afterTerminator?_cons, inductionHypothesis]
    intro isStar isSlash
    rw [head?_softenTerminators] at isSlash
    exact apart _ isStar (List.eq_cons_of_mem_head? isSlash)

/-- The function without its comment. -/
def undocumented (function : ExportedFunction) : ExportedFunction := { function with comment := [] }

/-- The lines of a documentation block that do not depend on the comment, without the last. -/
def tagged (function : ExportedFunction) : Text :=
  (function.parameters.map parameterTag ++ [resultTag function]).flatMap docLine

/-- A documentation block is its opening, the line of the comment, and lines that do not depend on
the comment, the last of which is a terminator. -/
theorem docBlock_parts (function : ExportedFunction) :
    docBlock function = "   " ++ (Text.documentationOpening ++
      ((summary function.comment).flatMap docLine ++ (tagged function ++ "     */\n"))) := by
  simp only [docBlock_eq, docLines, tagged, List.flatMap_cons, List.flatMap_append,
    List.flatMap_nil, List.append_assoc, List.append_nil]
  rfl

/-- The line of a comment is passed over when a terminator is looked for: none is in it, and the
line feed at its end keeps it apart from what follows. -/
theorem afterTerminator?_summary (comment rest : Text) :
    Text.afterTerminator? ((summary comment).flatMap docLine ++ rest) =
      Text.afterTerminator? rest := by
  unfold summary
  split
  · rfl
  · have ended : Text.afterTerminator? (softenTerminators comment ++ '\n' :: rest) =
        Text.afterTerminator? rest :=
      Text.afterTerminator?_append_of_none (afterTerminator?_softenTerminators comment) (by simp)
    have line : [(" * " ++ softenTerminators comment : Text)].flatMap docLine ++ rest =
        "     * " ++ (softenTerminators comment ++ '\n' :: rest) := by
      simp [docLine, indent]
    have margin : Text.afterTerminator? ("     * " ++ (softenTerminators comment ++ '\n' :: rest)) =
        Text.afterTerminator? (softenTerminators comment ++ '\n' :: rest) :=
      Text.afterTerminator?_append_of_none (by decide) (fun isStar => absurd isStar (by decide))
    rw [line, margin, ended]

/-- What is left of a class does not depend on the comment in a documentation block, wherever the
block stands. The comment of the block ends at the first terminator behind the summary, and that is
the same for every summary. -/
theorem stripComments_docBlock (front back : Text) (function : ExportedFunction) :
    Text.stripComments (front ++ (docBlock function ++ back)) =
      Text.stripComments (front ++ (docBlock (undocumented function) ++ back)) := by
  obtain ⟨after, found⟩ : ∃ after,
      Text.afterTerminator? (tagged function ++ "     */\n" ++ back) = some after := by
    have shape : tagged function ++ "     */\n" ++ back =
        (tagged function ++ "     ") ++ '*' :: '/' :: '\n' :: back := by
      rw [List.append_assoc, List.append_assoc]
      rfl
    rw [shape]
    exact Text.exists_afterTerminator? _ _
  obtain ⟨kept, strips⟩ := Text.stripComments_documentation (front ++ "   ")
  have blocks (comment : Text) : Text.stripComments
      (front ++ (docBlock { function with comment } ++ back)) =
        kept ++ Text.stripComments after := by
    have parts := docBlock_parts { function with comment }
    have sameTags : tagged { function with comment } = tagged function := rfl
    have passed := (afterTerminator?_summary comment _).trans found
    rw [← strips _ after passed, parts, sameTags]
    simp only [List.append_assoc]
  exact (blocks function.comment).trans (blocks []).symm

/-- What is left of a class does not depend on any comment in it. The induction is on the functions:
the blocks in front already have no comments, so the next one can be replaced where it stands. -/
theorem stripComments_wrappers (front back : Text) (functions : List ExportedFunction) :
    Text.stripComments (front ++ (functions.flatMap wrapper ++ back)) =
      Text.stripComments (front ++ ((functions.map undocumented).flatMap wrapper ++ back)) := by
  induction functions generalizing front with
  | nil => rfl
  | cons function rest inductionHypothesis =>
    have sameMethod : method (undocumented function) = method function := rfl
    rw [List.map_cons, List.flatMap_cons, List.flatMap_cons, wrapper, wrapper, sameMethod]
    have first := stripComments_docBlock front
      (method function ++ "\n" ++ (rest.flatMap wrapper ++ back)) function
    have others := inductionHypothesis
      (front ++ (docBlock (undocumented function) ++ (method function ++ "\n")))
    simp only [List.append_assoc] at first others ⊢
    rw [first, others]

/-- Comments of functions cannot influence the code of a class: functions that agree on everything
but their comments are rendered to classes that agree on everything but their block comments. -/
theorem stripComments_render (names : Names) (first second : List ExportedFunction)
    (agree : first.map undocumented = second.map undocumented) :
    Text.stripComments (render first names) = Text.stripComments (render second names) := by
  have uncommented (functions : List ExportedFunction) :
      Text.stripComments (render functions names) =
        Text.stripComments (render (functions.map undocumented) names) := by
    rw [render, render, List.append_assoc, List.append_assoc]
    exact stripComments_wrappers (opening names) _ functions
  rw [uncommented first, agree, ← uncommented second]

/-- Two functions whose comments try to leave their blocks: by a terminator with code behind it, by
one over the ends of the text, by one that softening might form anew, and by line feeds. -/
def escaping : List ExportedFunction :=
  [{ name := "Odd", comment := "/ ends */ echo 1; /*", parameters := [⟨"a", "int"⟩],
     result := "int", line := 3 },
   { name := "Even", comment := "**//\n*\\/\n    */ /*/ *", parameters := [], result := "void",
     line := 7 }]

/-- The same functions, one without a comment and one with a harmless one. -/
def harmless : List ExportedFunction :=
  [{ name := "Odd", comment := "", parameters := [⟨"a", "int"⟩], result := "int", line := 3 },
   { name := "Even", comment := "evens out", parameters := [], result := "void", line := 7 }]

/-- The law at these functions, in a class whose namespace opens a comment by accident. -/
theorem stripComments_render_escaping :
    escaping.map undocumented = harmless.map undocumented ∧
      Text.stripComments (render escaping ⟨"odd/*", "Odd"⟩) =
        Text.stripComments (render harmless ⟨"odd/*", "Odd"⟩) :=
  ⟨rfl, stripComments_render ⟨"odd/*", "Odd"⟩ escaping harmless rfl⟩

end FfiBindings.Service
