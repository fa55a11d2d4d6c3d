import FfiBindings.Source.Declaration
import FfiBindings.Service.Name
import FfiBindings.Service.TypeMap

/-!
# The service class

The text of the PHP class that wraps a shared library: a fixed opening, one documented method for
each exported function, which hands its arguments on unchanged, and the closing brace.
-/

namespace FfiBindings.Service

open Source (Parameter ExportedFunction)

/-- One step of indentation. -/
def indent : Text := "    "

/-- A text without its terminators of comments: each `*/`, taken from the left, becomes `*\/`. -/
def softenTerminators : Text → Text
  | [] => []
  | '*' :: '/' :: rest => '*' :: '\\' :: '/' :: softenTerminators rest
  | c :: rest => c :: softenTerminators rest

/-- A variable of the given name. -/
def variableName (name : Text) : Text := '$' :: name

/-- The lines of the opening of the class, up to and including the method that every service has. -/
def openingLines (names : Names) : List Text :=
  ["<?php",
    "/**",
    " * FFI Bindings Service",
    " * Auto-generated by Go-PHP FFI Code Generator",
    " *",
    " * Provides PHP interface to Go shared library functions",
    " */",
    "",
    "namespace " ++ names.namespaceName ++ ";",
    "",
    "use Wuwuseo\\PhpffiGoLibrary\\GoLibraryBase;",
    "",
    "class " ++ names.className ++ " extends GoLibraryBase \x7b",
    "",
    "    /**",
    "     * Get the base directory",
    "     * @return string",
    "     */",
    "    protected function getBaseDir(): string",
    "    \x7b",
    "        return dirname(__DIR__);",
    "    \x7d",
    ""]

/-- The opening of the class. -/
def opening (names : Names) : Text := (openingLines names).flatMap (· ++ "\n")

/-- An indented line. -/
def docLine (line : Text) : Text := indent ++ line ++ "\n"

/-- The documentation of a method: the comment of its function when there is one, a line for each
    parameter and a line for the result. -/
def docBlock (function : ExportedFunction) : Text :=
  let summary : List Text :=
    if function.comment.isEmpty then [] else [" * " ++ softenTerminators function.comment]
  let parameters : List Text := function.parameters.map fun parameter =>
    " * @param " ++ (docType parameter.type).name ++ " " ++ variableName parameter.name
  let result : Text := " * @return " ++ (docType function.result).name
  let lines : List Text := "/**" :: (summary ++ parameters ++ [result, " */"])
  lines.flatMap docLine

/-- The position of a parameter in a signature, with its type hint when it has one. -/
def signaturePosition (parameter : Parameter) : Text :=
  match hintType parameter.type with
  | some hint => hint.name ++ " " ++ variableName parameter.name
  | none => variableName parameter.name

/-- The call that a method hands on to the library. -/
def libraryCall (function : ExportedFunction) : Text :=
  "$this->ffi->" ++ function.name ++ "(" ++
    Text.join ", " (function.parameters.map fun parameter => variableName parameter.name) ++ ")"

/-- The only statement of a method. The call's result is returned unless it is documented as
    nothing. -/
def statement (function : ExportedFunction) : Text :=
  if docType function.result = .void then libraryCall function ++ ";"
  else "return " ++ libraryCall function ++ ";"

/-- The declared result of a method, empty where the result stays untyped. -/
def resultHint (function : ExportedFunction) : Text :=
  match hintType function.result with
  | some hint => ": " ++ hint.name
  | none => []

/-- A method with its body. -/
def method (function : ExportedFunction) : Text :=
  indent ++ "public function " ++ function.name ++ "(" ++
    Text.join ", " (function.parameters.map signaturePosition) ++ ")" ++ resultHint function ++
    " \x7b\n" ++ indent ++ indent ++ statement function ++ "\n" ++ indent ++ "\x7d\n"

/-- All that the class holds for one function. -/
def wrapper (function : ExportedFunction) : Text := docBlock function ++ method function ++ "\n"

/-- The whole class for a list of functions. -/
def render (functions : List ExportedFunction) (names : Names) : Text :=
  opening names ++ functions.flatMap wrapper ++ "\x7d\n"

end FfiBindings.Service
