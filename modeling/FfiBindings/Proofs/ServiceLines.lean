import FfiBindings.Service.Document
import FfiBindings.Proofs.Cutting

/-!
# The lines of a service class

A service class is told line by line: those of the opening, then for each function those of its
documentation and its method with an empty line behind them, and the closing brace. Where no text
that goes into a line brings a line feed of its own, cutting the class at its line feeds gives these
lines back.
-/

namespace FfiBindings.Service

open Source (Parameter ExportedFunction)

/-- The summary of a documentation block: its comment, where there is one. -/
def summary (comment : Text) : List Text :=
  if comment.isEmpty then [] else [" * " ++ softenTerminators comment]

/-- The tag of a parameter. -/
def parameterTag (parameter : Parameter) : Text :=
  " * @param " ++ (docType parameter.type).name ++ " " ++ variableName parameter.name

/-- The tag of the result. -/
def resultTag (function : ExportedFunction) : Text :=
  " * @return " ++ (docType function.result).name

/-- The lines of a documentation block, before they are indented. -/
def docLines (function : ExportedFunction) : List Text :=
  let ending : List Text := [resultTag function, " */"]
  "/**" :: (summary function.comment ++ function.parameters.map parameterTag ++ ending)

/-- The line that declares a method. -/
def signature (function : ExportedFunction) : Text :=
  indent ++ "public function " ++ function.name ++ "(" ++
    Text.join ", " (function.parameters.map signaturePosition) ++ ")" ++ resultHint function ++
    " \x7b"

/-- The lines of a method. -/
def methodLines (function : ExportedFunction) : List Text :=
  [signature function, indent ++ indent ++ statement function, indent ++ "\x7d"]

/-- All lines for one function, with an empty one at the end. -/
def wrapperLines (function : ExportedFunction) : List Text :=
  (docLines function).map (indent ++ ·) ++ methodLines function ++ [[]]

/-- All lines of a class. -/
def classLines (functions : List ExportedFunction) (names : Names) : List Text :=
  openingLines names ++ functions.flatMap wrapperLines ++ [['\x7d']]

/-- A documentation block consists of its lines. -/
theorem docBlock_eq (function : ExportedFunction) :
    docBlock function = (docLines function).flatMap docLine := rfl

/-- A method consists of its lines. -/
theorem method_eq (function : ExportedFunction) :
    method function = (methodLines function).flatMap (· ++ ['\n']) := by
  have opened : (" \x7b\n" : Text) = " \x7b" ++ ['\n'] := by decide
  have closed : ("\x7d\n" : Text) = "\x7d" ++ ['\n'] := by decide
  have ended : ("\n" : Text) = ['\n'] := by decide
  simp only [method, methodLines, signature, opened, closed, ended, List.flatMap_cons,
    List.flatMap_nil, List.append_assoc, List.append_nil]

/-- Everything for one function consists of its lines. -/
theorem wrapper_eq (function : ExportedFunction) :
    wrapper function = (wrapperLines function).flatMap (· ++ ['\n']) := by
  have documentation : docBlock function =
      ((docLines function).map (indent ++ ·)).flatMap (· ++ ['\n']) := by
    rw [docBlock_eq, List.flatMap_map]
    rfl
  rw [wrapper, documentation, method_eq, wrapperLines, List.flatMap_append, List.flatMap_append]
  rfl

/-- A class consists of its lines. -/
theorem render_eq (functions : List ExportedFunction) (names : Names) :
    render functions names = (classLines functions names).flatMap (· ++ ['\n']) := by
  have wrappers : functions.flatMap wrapper =
      (functions.flatMap wrapperLines).flatMap (· ++ ['\n']) := by
    rw [List.flatMap_assoc]
    exact List.flatMap_congr fun function _ => wrapper_eq function
  rw [render, wrappers, opening, classLines, List.flatMap_append, List.flatMap_append]
  rfl

/-- A function that brings no line feed into its lines. The result and the types of parameters go
into them as names of types only. -/
structure Unbroken (function : ExportedFunction) : Prop where
  name : '\n' ∉ function.name
  comment : '\n' ∉ function.comment
  parameters : ∀ parameter ∈ function.parameters, '\n' ∉ parameter.name

/-- The name of a type is made of lowercase letters. -/
theorem isLower_of_mem_typeName {type : ValueType} : ∀ c ∈ type.name, c.isLower = true := by
  have letters : type.name.all Char.isLower = true := by cases type <;> decide
  exact List.all_eq_true.mp letters

/-- The name of a type stays on its line. -/
theorem break_notMem_typeName (type : ValueType) : '\n' ∉ type.name :=
  fun member => absurd (isLower_of_mem_typeName '\n' member) (by decide)

/-- A hint as it stands in front of a variable. -/
def hintInFront : Option ValueType → Text
  | some hint => hint.name ++ " "
  | none => []

/-- A hint as it stands behind the parameters. -/
def hintBehind : Option ValueType → Text
  | some hint => ": " ++ hint.name
  | none => []

/-- The position of a parameter is its variable, behind the hint. -/
theorem signaturePosition_eq (parameter : Parameter) : signaturePosition parameter =
    hintInFront (hintType parameter.type) ++ variableName parameter.name := by
  unfold signaturePosition
  cases hintType parameter.type <;> rfl

/-- The declared result is the hint. -/
theorem resultHint_eq (function : ExportedFunction) :
    resultHint function = hintBehind (hintType function.result) := by
  unfold resultHint
  cases hintType function.result <;> rfl

/-- A hint in front of a variable is made of lowercase letters and spaces. -/
theorem mem_hintInFront {hint : Option ValueType} :
    ∀ c ∈ hintInFront hint, c.isLower = true ∨ c = ' ' := by
  intro c member
  cases hint with
  | none => contradiction
  | some type =>
    rcases List.mem_append.mp member with inName | isSpace
    · exact .inl (isLower_of_mem_typeName c inName)
    · exact .inr (List.mem_singleton.mp isSpace)

/-- A hint behind the parameters is made of lowercase letters, a colon and a space. -/
theorem mem_hintBehind {hint : Option ValueType} :
    ∀ c ∈ hintBehind hint, c.isLower = true ∨ c = ':' ∨ c = ' ' := by
  intro c member
  cases hint with
  | none => contradiction
  | some type =>
    rcases List.mem_append.mp member with isColon | inName
    · exact .inr (by simpa using isColon)
    · exact .inl (isLower_of_mem_typeName c inName)

/-- Softening adds nothing but backslashes. -/
theorem break_notMem_softenTerminators {text : Text} (whole : '\n' ∉ text) :
    '\n' ∉ softenTerminators text := by
  fun_induction softenTerminators text with
  | case1 => exact List.not_mem_nil
  | case2 rest inductionHypothesis =>
    have tail := inductionHypothesis fun member => whole (by simp [member])
    simpa using tail
  | case3 c rest _ inductionHypothesis =>
    rw [List.mem_cons, not_or] at whole ⊢
    exact ⟨whole.1, inductionHypothesis whole.2⟩

variable {function : ExportedFunction}

/-- A variable holds no line feed when its name holds none. -/
theorem break_notMem_variableName {name : Text} (whole : '\n' ∉ name) :
    '\n' ∉ variableName name := by
  simpa [variableName] using whole

/-- The lines of the documentation hold no line feeds. -/
theorem break_notMem_docLines (unbroken : Unbroken function) :
    ∀ line ∈ docLines function, '\n' ∉ line := by
  have started : '\n' ∉ (" * " : Text) := by decide
  have tagged : '\n' ∉ (" * @param " : Text) := by decide
  have returned : '\n' ∉ (" * @return " : Text) := by decide
  intro line member
  simp only [docLines, summary, List.mem_cons, List.mem_append, List.mem_map, List.not_mem_nil,
    or_false] at member
  rcases member with rfl | (summarised | ⟨parameter, bound, rfl⟩) | rfl | rfl
  · decide
  · split at summarised
    · contradiction
    · rw [List.mem_singleton.mp summarised]
      exact List.not_mem_append started (break_notMem_softenTerminators unbroken.comment)
  · have typed := List.not_mem_append tagged (break_notMem_typeName (docType parameter.type))
    exact List.not_mem_append (List.not_mem_append typed (by decide))
      (break_notMem_variableName (unbroken.parameters parameter bound))
  · exact List.not_mem_append returned (break_notMem_typeName _)
  · decide

/-- A parameter stays on the line in which it is listed. -/
theorem break_notMem_signaturePosition {parameter : Parameter} (whole : '\n' ∉ parameter.name) :
    '\n' ∉ signaturePosition parameter := by
  rw [signaturePosition_eq]
  exact List.not_mem_append (fun member => absurd (mem_hintInFront '\n' member) (by decide))
    (break_notMem_variableName whole)

/-- The signature holds no line feed. -/
theorem break_notMem_signature (unbroken : Unbroken function) : '\n' ∉ signature function := by
  have start : '\n' ∉ indent ++ "public function " := by decide
  have listed : '\n' ∉ Text.join ", " (function.parameters.map signaturePosition) := by
    apply Text.not_mem_join (by decide)
    intro position member
    obtain ⟨parameter, bound, rfl⟩ := List.mem_map.mp member
    exact break_notMem_signaturePosition (unbroken.parameters parameter bound)
  have hinted : '\n' ∉ resultHint function := by
    rw [resultHint_eq]
    exact fun member => absurd (mem_hintBehind '\n' member) (by decide)
  have ending : '\n' ∉ (" \x7b" : Text) := by decide
  have positions : '\n' ∉ indent ++ "public function " ++ function.name ++ "(" ++
      Text.join ", " (function.parameters.map signaturePosition) ++ ")" :=
    List.not_mem_append (List.not_mem_append (List.not_mem_append (List.not_mem_append start
      unbroken.name) (by decide)) listed) (by decide)
  exact List.not_mem_append (List.not_mem_append positions hinted) ending

/-- The statement holds no line feed. -/
theorem break_notMem_statement (unbroken : Unbroken function) : '\n' ∉ statement function := by
  have handle : '\n' ∉ ("$this->ffi->" : Text) := by decide
  have arguments : '\n' ∉ Text.join ", "
      (function.parameters.map fun parameter => variableName parameter.name) := by
    apply Text.not_mem_join (by decide)
    intro argument member
    obtain ⟨parameter, bound, rfl⟩ := List.mem_map.mp member
    exact break_notMem_variableName (unbroken.parameters parameter bound)
  have call : '\n' ∉ libraryCall function :=
    List.not_mem_append (List.not_mem_append (List.not_mem_append (List.not_mem_append handle
      unbroken.name) (by decide)) arguments) (by decide)
  unfold statement
  split
  · exact List.not_mem_append call (by decide)
  · exact List.not_mem_append (List.not_mem_append (by decide) call) (by decide)

/-- All lines for the function hold no line feeds. -/
theorem break_notMem_wrapperLines (unbroken : Unbroken function) :
    ∀ line ∈ wrapperLines function, '\n' ∉ line := by
  have indented : '\n' ∉ indent := by decide
  intro line member
  simp only [wrapperLines, methodLines, List.mem_append, List.mem_map, List.mem_cons,
    List.not_mem_nil, or_false] at member
  rcases member with (⟨documented, inBlock, rfl⟩ | rfl | rfl | rfl) | rfl
  · exact List.not_mem_append indented (break_notMem_docLines unbroken documented inBlock)
  · exact break_notMem_signature unbroken
  · exact List.not_mem_append (List.not_mem_append indented indented)
      (break_notMem_statement unbroken)
  · decide
  · exact List.not_mem_nil

end FfiBindings.Service
