import FfiBindings.Proofs.ServiceLines
import FfiBindings.Proofs.TypeTables
import Mathlib.Data.List.Forall2

/-!
# What a method says of its function

A method mentions each parameter three times: in the documentation with its documented type, in the
signature with its hint, and in the call. All three lists are told from the same parameters, one by one,
so they agree in length and order, and the mentions that stand at one place are of one parameter.

Whether a mention contradicts itself is a matter of the two type tables. Their hint goes with their
documented type on every token, if only as `array` goes with `mixed`. It is the same with the result:
no hint goes with a result that is documented as nothing, and just such a result is not returned. So a
method that declares a result returns one.
-/

namespace FfiBindings.Service

open Source (Parameter ExportedFunction)

/-- How a hint can stand beside a documented type. -/
inductive GoesWith : ValueType → Option ValueType → Prop where
  | same {type : ValueType} (notVoid : type ≠ .void) (notMixed : type ≠ .mixed) :
      GoesWith type (some type)
  | missing {type : ValueType} (untyped : type = .void ∨ type = .mixed) : GoesWith type none
  | pointer : GoesWith .mixed (some .array)

/-- The hint of a token goes with its documented type. -/
theorem goesWith (token : Text) : GoesWith (docType token) (hintType token) := by
  rcases types_cases token with ⟨-, hint, doc⟩ | ⟨-, hint, untyped⟩ | ⟨-, notVoid, notMixed, hint⟩
  · rw [hint, doc]
    exact .pointer
  · rw [hint]
    exact .missing untyped
  · rw [hint]
    exact .same notVoid notMixed

/-- No hint goes with nothing. -/
theorem GoesWith.ne_void {type hint : ValueType} (goes : GoesWith type (some hint)) :
    type ≠ .void := by
  cases goes with
  | same notVoid _ => exact notVoid
  | pointer => decide

/-- What is written of one parameter: its tag in the documentation, its position in the signature and
its argument in the call. -/
structure Mention where
  tag : Text
  position : Text
  argument : Text

/-- The mention is of the parameter: it is named alike in all three places, and its hint goes with its
documented type. -/
structure Mentions (parameter : Parameter) (mention : Mention) : Prop where
  tag : mention.tag = " * @param " ++ (docType parameter.type).name ++ " " ++ '$' :: parameter.name
  position : mention.position = hintInFront (hintType parameter.type) ++ '$' :: parameter.name
  argument : mention.argument = '$' :: parameter.name
  goes : GoesWith (docType parameter.type) (hintType parameter.type)

/-- The documentation with the given mentions, line by line. -/
def documentationLines (function : ExportedFunction) (mentions : List Mention) : List Text :=
  let ending : List Text := [" * @return " ++ (docType function.result).name, " */"]
  let block : List Text := "/**" :: (summary function.comment ++ mentions.map Mention.tag ++ ending)
  block.map (indent ++ ·)

/-- The method with the given mentions and body, line by line. -/
def codeLines (function : ExportedFunction) (mentions : List Mention) (body : Text) : List Text :=
  [indent ++ "public function " ++ function.name ++ "(" ++
      Text.join ", " (mentions.map Mention.position) ++ ")" ++ hintBehind (hintType function.result) ++
      " \x7b",
    indent ++ indent ++ body,
    indent ++ "\x7d"]

/-- The call of the library with the given mentions. -/
def callWith (function : ExportedFunction) (mentions : List Mention) : Text :=
  "$this->ffi->" ++ function.name ++ "(" ++ Text.join ", " (mentions.map Mention.argument) ++ ")"

/-- What the documented method of a function holds: one mention of each parameter, in order, and a body
that is nothing but the call. The call is returned unless the result is documented as nothing, and where
a hint declares the result it is returned in any case. -/
structure WrapperForm (function : ExportedFunction) (mentions : List Mention) (body : Text) : Prop where
  mentioned : List.Forall₂ Mentions function.parameters mentions
  documentation : docBlock function = (documentationLines function mentions).flatMap (· ++ ['\n'])
  code : method function = (codeLines function mentions body).flatMap (· ++ ['\n'])
  goes : GoesWith (docType function.result) (hintType function.result)
  bare_iff : body = callWith function mentions ++ ";" ↔ docType function.result = .void
  returned_iff : body = "return " ++ callWith function mentions ++ ";" ↔
    docType function.result ≠ .void
  returned_of_hint : hintType function.result ≠ none →
    body = "return " ++ callWith function mentions ++ ";"

/-- The mention of a parameter. -/
def mention (parameter : Parameter) : Mention :=
  { tag := parameterTag parameter
    position := signaturePosition parameter
    argument := variableName parameter.name }

/-- A parameter is mentioned by its mention. -/
theorem mentions_mention (parameter : Parameter) : Mentions parameter (mention parameter) where
  tag := rfl
  position := signaturePosition_eq parameter
  argument := rfl
  goes := goesWith parameter.type

variable (function : ExportedFunction)

/-- The parameters of a function with their mentions. -/
theorem forall₂_mention : List.Forall₂ Mentions function.parameters (function.parameters.map mention) :=
  List.forall₂_map_right_iff.mpr (List.forall₂_same.mpr fun parameter _ => mentions_mention parameter)

/-- The documentation has a tag for each parameter. -/
theorem documentationLines_mention :
    documentationLines function (function.parameters.map mention) =
      (docLines function).map (indent ++ ·) := by
  have tags : (function.parameters.map mention).map Mention.tag = function.parameters.map parameterTag :=
    List.map_map
  unfold documentationLines docLines resultTag
  rw [tags]

/-- The method has a position for each parameter. -/
theorem codeLines_mention :
    codeLines function (function.parameters.map mention) (statement function) =
      methodLines function := by
  have positions : (function.parameters.map mention).map Mention.position =
      function.parameters.map signaturePosition := List.map_map
  unfold codeLines methodLines signature
  rw [positions, resultHint_eq]

/-- The call has an argument for each parameter. -/
theorem callWith_mention :
    callWith function (function.parameters.map mention) = libraryCall function := by
  have arguments : (function.parameters.map mention).map Mention.argument =
      function.parameters.map fun parameter => variableName parameter.name := List.map_map
  unfold callWith libraryCall
  rw [arguments]

/-- A bare call is not a returned one. -/
theorem bare_ne_returned (call : Text) : call ++ ";" ≠ "return " ++ call ++ ";" := by
  intro same
  have lengths := congrArg List.length same
  simp only [List.length_append] at lengths
  have longer : 0 < List.length ("return " : Text) := by decide
  omega

/-- The body is a bare call just for a result that is documented as nothing. -/
theorem statement_eq_bare_iff :
    statement function = libraryCall function ++ ";" ↔ docType function.result = .void := by
  unfold statement
  split
  · next nothing => exact iff_of_true rfl nothing
  · next something => exact iff_of_false (bare_ne_returned _).symm something

/-- The body returns the call for every other result. -/
theorem statement_eq_returned_iff :
    statement function = "return " ++ libraryCall function ++ ";" ↔
      docType function.result ≠ .void := by
  unfold statement
  split
  · next nothing => exact iff_of_false (bare_ne_returned _) (not_not_intro nothing)
  · next something => exact iff_of_true rfl something

/-- A method that declares its result returns the call. -/
theorem statement_of_hint (hinted : hintType function.result ≠ none) :
    statement function = "return " ++ libraryCall function ++ ";" := by
  obtain ⟨hint, declared⟩ := Option.ne_none_iff_exists'.mp hinted
  have goes := goesWith function.result
  rw [declared] at goes
  exact (statement_eq_returned_iff function).mpr goes.ne_void

/-- The documented method of every function has this form: one mention of each parameter in the
documentation, the signature and the call, in the same order, with a hint that goes with the documented
type, and a body that returns the call unless the result is documented as nothing, hence always where the
result is declared. Where no name and no comment brings a line feed, these are the lines of the text. -/
theorem wrapper_form :
    WrapperForm function (function.parameters.map mention) (statement function) ∧
      (Unbroken function → Text.lines (wrapper function) =
        documentationLines function (function.parameters.map mention) ++
          codeLines function (function.parameters.map mention) (statement function) ++ [[]]) := by
  have call := callWith_mention function
  refine ⟨?_, fun unbroken => ?_⟩
  · constructor
    case mentioned => exact forall₂_mention function
    case documentation =>
      rw [documentationLines_mention, docBlock_eq, List.flatMap_map]
      rfl
    case code => rw [codeLines_mention, method_eq]
    case goes => exact goesWith function.result
    case bare_iff => exact call ▸ statement_eq_bare_iff function
    case returned_iff => exact call ▸ statement_eq_returned_iff function
    case returned_of_hint => exact fun hinted => call ▸ statement_of_hint function hinted
  · rw [documentationLines_mention, codeLines_mention, wrapper_eq,
      Text.lines_flatMap (break_notMem_wrapperLines unbroken), wrapperLines]

/-- A function with parameters of all three kinds, and a result that is declared. -/
def sampleFunction : ExportedFunction :=
  { name := "Wrap"
    comment := "Wrap wraps"
    parameters := [⟨"err", "error"⟩, ⟨"p", "*int"⟩, ⟨"s", "*C.char"⟩]
    result := "[]int"
    line := 7 }

/-- The law at this function: a parameter without a hint, one with `array` beside `mixed`, and one whose
hint is its documented type. -/
theorem wrapper_form_sample :
    WrapperForm sampleFunction (sampleFunction.parameters.map mention) (statement sampleFunction) ∧
      Unbroken sampleFunction ∧
      Text.lines (wrapper sampleFunction) =
        ["    /**", "     * Wrap wraps", "     * @param mixed $err", "     * @param mixed $p",
          "     * @param string $s", "     * @return array", "     */",
          "    public function Wrap($err, array $p, string $s): array \x7b",
          "        return $this->ffi->Wrap($err, $p, $s);", "    \x7d", ""] := by
  have unbroken : Unbroken sampleFunction := ⟨by decide, by decide, by decide⟩
  obtain ⟨form, lines⟩ := wrapper_form sampleFunction
  refine ⟨form, unbroken, (lines unbroken).trans ?_⟩
  decide +kernel

end FfiBindings.Service
