import FfiBindings.Text.Blank
import FfiBindings.Text.Case

/-!
# Names of a service

The base name of a source file gives two identifiers: a segment of the namespace in lowercase with
underscores, and the beginning of the class name in capitalised parts.
-/

namespace FfiBindings.Service

/-- Put an underscore before every capital letter of ASCII. -/
def separateCapitals (text : Text) : Text :=
  text.flatMap fun c => if c.isUpper then ['_', c] else [c]

/-- Lowercase with underscores: one goes before every capital letter of ASCII except the first
    character, and then everything is lowercased. -/
def snakeCase (name : Text) : Text :=
  Text.lower (name.take 1 ++ separateCapitals (name.drop 1))

/-- Uppercase the first character and leave the rest alone. -/
def capitalise : Text → Text
  | [] => []
  | c :: rest => Text.upperChar c ++ rest

/-- Capitalised parts: the underscores are dropped and each part between them is capitalised. -/
def pascalCase (name : Text) : Text :=
  (Text.split '_' name).flatMap capitalise

/-- The identifiers of one service. -/
structure Names where
  /-- The middle segment of the namespace. -/
  snake : Text
  /-- The class name without its ending. -/
  pascal : Text
  deriving Repr, DecidableEq

namespace Names

/-- The identifiers that belong to a base name. -/
def ofBaseName (base : Text) : Names := ⟨snakeCase base, pascalCase base⟩

/-- The name of the service class. -/
def className (names : Names) : Text := names.pascal ++ "Service"

/-- The name of the file that holds the service class. -/
def fileName (names : Names) : Text := names.className ++ ".php"

/-- The namespace of the service class. -/
def namespaceName (names : Names) : Text := "app\\" ++ names.snake ++ "\\service"

end Names

end FfiBindings.Service
