import FfiBindings.Proofs.Cutting
import FfiBindings.Proofs.DeclarationForm
import Mathlib.Data.List.Basic

/-!
# Printed declarations

The printed form of an exported function: its comment on a line of its own when there is one, the
marker, the declaration and the brace that ends the body. Each of these lines is read back as what
it was printed from. For a declaration this takes three steps. The balanced parameter list is closed
by the parenthesis behind it, the commas and spaces of the list separate names and types as they
were, and the parentheses around the result are the ones that are dropped.
-/

namespace FfiBindings.Source

/-- A parameter in print: the name, a space and the type. -/
def printedParameter (parameter : Parameter) : Text := parameter.name ++ ' ' :: parameter.type

/-- The parameter list in print, between its parentheses. -/
def printedParameters (parameters : List Parameter) : Text :=
  Text.join ", " (parameters.map printedParameter)

/-- The line of the declaration. -/
def printedDeclaration (function : ExportedFunction) : Text :=
  "func " ++ function.name ++ "(" ++ printedParameters function.parameters ++ ") (" ++
    function.result ++ ") \x7b"

/-- The line of the marker. -/
def printedMarker (function : ExportedFunction) : Text := "//export " ++ function.name

/-- The line of the comment, when there is one. -/
def printedComment (function : ExportedFunction) : List Text :=
  if function.comment.isEmpty then [] else ["// " ++ function.comment]

/-- All lines of a function, with the empty body closed on a line of its own. -/
def printedLines (function : ExportedFunction) : List Text :=
  printedComment function ++ [printedMarker function, printedDeclaration function, "\x7d"]

/-- The functions one after the other, every line ended by a line feed. -/
def print (functions : List ExportedFunction) : Text :=
  (functions.flatMap printedLines).flatMap (· ++ ['\n'])

/-- A parameter that can be told from its neighbours in print. The name is one field without commas
and brackets. The type consists of fields with single spaces between them; it may hold brackets,
when they are balanced, but no commas. -/
structure PrintableParameter (parameter : Parameter) : Prop where
  nameNonempty : parameter.name ≠ []
  nameSolid : ∀ c ∈ parameter.name, Text.isBlank c = false
  nameWhole : ',' ∉ parameter.name
  nameNeutral : ∀ c ∈ parameter.name, Bracket.role c = .neutral
  typeFields : ∃ words, words ≠ [] ∧ parameter.type = Text.join " " words ∧
    ∀ word ∈ words, word ≠ [] ∧ ∀ c ∈ word, Text.isBlank c = false
  typeWhole : ',' ∉ parameter.type
  typeBalanced : Bracket.Balanced parameter.type

/-- A function whose printed lines can be told apart. The line number is not printed. -/
structure Printable (function : ExportedFunction) : Prop where
  nameNonempty : function.name ≠ []
  nameWord : ∀ c ∈ function.name, Text.isWord c = true
  parameters : ∀ parameter ∈ function.parameters, PrintableParameter parameter
  resultNonempty : function.result ≠ []
  resultTrimmed : Text.trim function.result = function.result
  resultBodiless : '\x7b' ∉ function.result
  resultUnbroken : '\n' ∉ function.result
  commentTrimmed : Text.trim function.comment = function.comment
  commentUnbroken : '\n' ∉ function.comment

namespace PrintableParameter

variable {parameter : Parameter}

/-- A printed parameter holds no comma. -/
theorem whole (printable : PrintableParameter parameter) : ',' ∉ printedParameter parameter := by
  simp [printedParameter, printable.nameWhole, printable.typeWhole]

/-- A printed parameter is balanced, since only its type may hold brackets. -/
theorem balanced (printable : PrintableParameter parameter) :
    Bracket.Balanced (printedParameter parameter) := by
  have space : Bracket.Balanced [' '] := by decide
  exact (Bracket.balanced_of_neutral printable.nameNeutral).append
    (space.append printable.typeBalanced)

/-- A printed parameter is read as the segment of its name and type. -/
theorem parse (printable : PrintableParameter parameter) :
    Segment.parse? (printedParameter parameter) =
      some { name := parameter.name, type := some parameter.type } := by
  obtain ⟨words, nonempty, type, solid⟩ := printable.typeFields
  have typeFields : Text.fields parameter.type = words := by
    rw [type, Text.fields_join (fun word member => (solid word member).1)
      (fun word member => (solid word member).2)]
  have allFields : Text.fields (printedParameter parameter) = parameter.name :: words := by
    rw [printedParameter, Text.fields_append_cons _ printable.nameNonempty printable.nameSolid
      (by decide), typeFields]
  obtain ⟨first, rest, rfl⟩ := List.exists_cons_of_ne_nil nonempty
  rw [Segment.parse?, allFields, type]

/-- The space that follows a comma makes no difference to a segment. -/
theorem parse_spaced (printable : PrintableParameter parameter) :
    Segment.parse? (' ' :: printedParameter parameter) =
      some { name := parameter.name, type := some parameter.type } := by
  rw [← printable.parse, Segment.parse?, Text.fields_cons_of_isBlank _ (by decide), Segment.parse?]

/-- A printed parameter stays on its line, since only single spaces separate its fields. -/
theorem unbroken (printable : PrintableParameter parameter) :
    '\n' ∉ printedParameter parameter := by
  obtain ⟨words, _, type, solid⟩ := printable.typeFields
  have inName : '\n' ∉ parameter.name := Text.not_mem_of_solid (by decide) printable.nameSolid
  have inType : '\n' ∉ parameter.type := by
    rw [type]
    exact Text.not_mem_join (by decide) fun word member =>
      Text.not_mem_of_solid (by decide) (solid word member).2
  simp [printedParameter, inName, inType]

end PrintableParameter

/-- Segments that all state a type keep it. -/
theorem resolveTypes_of_typed (parameters : List Parameter) :
    resolveTypes (parameters.map fun parameter =>
      { name := parameter.name, type := some parameter.type }) = .ok parameters := by
  induction parameters with
  | nil => rfl
  | cons parameter rest inductionHypothesis =>
    rw [List.map_cons, resolveTypes, inductionHypothesis]
    rfl

section Parameters

variable {parameters : List Parameter}
  (printable : ∀ parameter ∈ parameters, PrintableParameter parameter)

include printable

/-- The segments of a printed list are its parameters. -/
theorem segments_printed : segments (printedParameters parameters) =
    parameters.map fun parameter => { name := parameter.name, type := some parameter.type } := by
  cases parameters with
  | nil => rfl
  | cons first rest =>
    have restPrintable : ∀ parameter ∈ rest, PrintableParameter parameter :=
      fun parameter member => printable parameter (List.mem_cons_of_mem first member)
    have cut : Text.split ',' (printedParameters (first :: rest)) =
        printedParameter first :: (rest.map printedParameter).map (' ' :: ·) := by
      apply Text.split_join_comma
      rw [← List.map_cons]
      exact List.forall_mem_map.mpr fun parameter member => (printable parameter member).whole
    have read : (rest.map fun parameter => ' ' :: printedParameter parameter).filterMap
        Segment.parse? =
          rest.map fun parameter => { name := parameter.name, type := some parameter.type } := by
      rw [List.filterMap_map, ← List.filterMap_eq_map]
      exact List.filterMap_congr
        fun parameter member => (restPrintable parameter member).parse_spaced
    rw [segments, cut, List.map_map, List.filterMap_cons,
      (printable first List.mem_cons_self).parse, List.map_cons]
    exact congrArg _ read

/-- The parameters of a printed list are read back, whatever the function and the line are. -/
theorem parseParameters_printed (function : Text) (line : Nat) :
    parseParameters (printedParameters parameters) function line = .ok parameters := by
  rw [parseParameters, segments_printed printable, resolveTypes_of_typed]

/-- A printed list is balanced. -/
theorem balanced_printed : Bracket.Balanced (printedParameters parameters) := by
  apply Bracket.balanced_join (by decide)
  exact List.forall_mem_map.mpr fun parameter member => (printable parameter member).balanced

/-- A printed list stays on its line. -/
theorem unbroken_printed : '\n' ∉ printedParameters parameters := by
  apply Text.not_mem_join (by decide)
  exact List.forall_mem_map.mpr fun parameter member => (printable parameter member).unbroken

end Parameters

/-- The parentheses around a printed result are dropped, and the body with them. -/
theorem parseResult_printed {result : Text} (nonempty : result ≠ [])
    (trimmed : Text.trim result = result) (bodiless : '\x7b' ∉ result) :
    parseResult (" (" ++ result ++ ") \x7b") = result := by
  have parenthesized : Text.Trimmed ('(' :: (result ++ [')'])) :=
    Text.trimmed_enclosed result (by decide) (by decide)
  have beforeBody : (" (" ++ result ++ ") \x7b" : Text).takeWhile (· != '\x7b') =
      ' ' :: ('(' :: (result ++ [')']) ++ [' ']) := by
    have kept : ∀ c ∈ ' ' :: ('(' :: (result ++ [')']) ++ [' ']), (c != '\x7b') = true := by
      intro c member
      rw [bne_iff_ne]
      rintro rfl
      simp [bodiless] at member
    have shape : (" (" ++ result ++ ") \x7b" : Text) =
        ' ' :: ('(' :: (result ++ [')']) ++ [' ']) ++ ['\x7b'] := by simp
    rw [shape, List.takeWhile_append_of_pos kept, List.takeWhile_cons_of_neg (by decide),
      List.append_nil]
  have declared : Text.trim ((" (" ++ result ++ ") \x7b" : Text).takeWhile (· != '\x7b')) =
      '(' :: (result ++ [')']) := by
    rw [beforeBody, Text.trim_cons_of_isBlank _ (by decide),
      Text.trim_concat_of_isBlank parenthesized (by decide)]
  have bare : dropLast ')' (dropFirst '(' ('(' :: (result ++ [')']))) = result := by
    simp [dropFirst, dropLast]
  rw [parseResult, declared]
  simp only [bare, trimmed]
  simp [nonempty]

/-- The parts of a printed declaration in the order in which they are read. -/
theorem printedDeclaration_eq (function : ExportedFunction) : printedDeclaration function =
    "func" ++ ' ' :: (function.name ++ '(' :: (printedParameters function.parameters ++
      ')' :: (" (" ++ function.result ++ ") \x7b"))) := by
  unfold printedDeclaration
  simp only [String.reduceToList, List.cons_append, List.nil_append, List.append_assoc]

/-- A printed declaration is not changed by trimming. -/
theorem trim_printedDeclaration (function : ExportedFunction) :
    Text.trim (printedDeclaration function) = printedDeclaration function := by
  have ends : printedDeclaration function =
      'f' :: ("unc " ++ function.name ++ "(" ++ printedParameters function.parameters ++ ") (" ++
        function.result ++ ") " ++ ['\x7b']) := by
    unfold printedDeclaration
    simp only [String.reduceToList, List.cons_append, List.nil_append, List.append_assoc]
  rw [ends]
  exact Text.trim_of_trimmed (Text.trimmed_enclosed _ (by decide) (by decide))

/-- A printed declaration starts a function. -/
theorem classify_printedDeclaration (function : ExportedFunction) :
    classify (Text.trim (printedDeclaration function)) = .function := by
  rw [trim_printedDeclaration, printedDeclaration_eq, classify_function _ (by decide)]

namespace Printable

variable {function : ExportedFunction}

/-- A printed declaration is split into the name, the printed list and the rest. -/
theorem split (printable : Printable function) :
    splitDeclaration? (printedDeclaration function) =
      some
        { name := function.name
          parameters := printedParameters function.parameters
          result := " (" ++ function.result ++ ") \x7b" } := by
  let line : DeclarationLine :=
    { gap := " "
      name := function.name
      space := []
      parameters := printedParameters function.parameters
      result := " (" ++ function.result ++ ") \x7b"
      gapNonempty := by decide
      gapBlank := List.all_eq_true.mp (by decide)
      nameNonempty := printable.nameNonempty
      nameWord := printable.nameWord
      spaceBlank := List.all_eq_true.mp (by decide)
      balanced := balanced_printed printable.parameters }
  have written : printedDeclaration function = line.text := by
    rw [printedDeclaration_eq, DeclarationLine.text, DeclarationOpening.text_append, line.list_eq]
    rfl
  rw [written]
  exact line.splitDeclaration?_text

/-- A printed comment line tells its comment. -/
theorem comment_line (printable : Printable function) (nonempty : function.comment ≠ []) :
    classify (Text.trim ("// " ++ function.comment)) = .comment function.comment := by
  have last := ((Text.trim_eq_self_iff function.comment).mp printable.commentTrimmed).last
  have trimmed : Text.Trimmed ('/' :: ("/ " ++ function.comment)) :=
    Text.trimmed_cons_append _ (by decide) nonempty last
  have whole : Text.trim ("// " ++ function.comment) = "// " ++ function.comment :=
    Text.trim_of_trimmed trimmed
  rw [whole, classify_comment printable.commentTrimmed]

/-- A printed marker announces the name. -/
theorem marker_line (printable : Printable function) :
    classify (Text.trim (printedMarker function)) = .marker function.name := by
  have last := (Text.trimmed_of_word printable.nameWord).last
  have trimmed : Text.Trimmed ('/' :: ("/export " ++ function.name)) :=
    Text.trimmed_cons_append _ (by decide) printable.nameNonempty last
  have whole : Text.trim (printedMarker function) = printedMarker function :=
    Text.trim_of_trimmed trimmed
  rw [whole]
  exact classify_marker printable.nameNonempty printable.nameWord

/-- No printed line is broken. -/
theorem unbroken (printable : Printable function) :
    ∀ line ∈ printedLines function, '\n' ∉ line := by
  have inName : '\n' ∉ function.name := Text.not_mem_of_solid (by decide)
    fun c member => Text.isBlank_of_isWord (printable.nameWord c member)
  have inParameters := unbroken_printed printable.parameters
  intro line member
  rw [printedLines, List.mem_append] at member
  rcases member with isComment | isLater
  · rw [printedComment] at isComment
    split at isComment
    · contradiction
    · rw [List.mem_singleton.mp isComment]
      simp [printable.commentUnbroken]
  · simp only [List.mem_cons, List.not_mem_nil, or_false] at isLater
    rcases isLater with rfl | rfl | rfl
    · unfold printedMarker
      simp [inName]
    · rw [printedDeclaration_eq]
      simp [inName, inParameters, printable.resultUnbroken]
    · decide

end Printable

end FfiBindings.Source
