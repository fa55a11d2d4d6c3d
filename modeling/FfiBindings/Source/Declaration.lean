import FfiBindings.Text.Basic

/-!
# Exported declarations

What one pass over a Go source file recovers: the functions that an `//export` marker makes
visible to C, each with its signature and the comment above it, and the marked places from which
no signature could be taken.
-/

namespace FfiBindings.Source

/-- A parameter, with the type it was given or shares with a later one. -/
structure Parameter where
  name : Text
  type : Text
  deriving Repr, DecidableEq

/-- A marked function. The result type is `void` when the declaration states none, and the line is
    that of the declaration, counted from one. -/
structure ExportedFunction where
  name : Text
  comment : Text
  parameters : List Parameter
  result : Text
  line : Nat
  deriving Repr, DecidableEq

/-- Why a marked place gave no function. -/
inductive SkipReason where
  /-- A marked `func` line without a readable signature. -/
  | malformedDeclaration
  /-- A marker that no declaration follows. -/
  | markerWithoutDeclaration
  deriving Repr, DecidableEq

/-- The reason in words. -/
def SkipReason.message : SkipReason → Text
  | .malformedDeclaration => "unrecognised declaration"
  | .markerWithoutDeclaration => "export marker without declaration"

/-- A marked place that gave no function: its line, counted from one, and the trimmed text there. -/
structure SkippedLine where
  line : Nat
  text : Text
  reason : SkipReason
  deriving Repr, DecidableEq

/-- All that one pass found, each list in the order in which its entries were recorded. -/
structure Extraction where
  functions : List ExportedFunction
  skipped : List SkippedLine
  deriving Repr, DecidableEq

/-- Why a source gives no bindings at all. -/
inductive ExtractionError where
  /-- Two marked declarations bear one name. -/
  | duplicateExport (name : Text) (firstLine line : Nat)
  /-- A parameter has no type, and none after it has one to share. -/
  | untypedParameter (function parameter : Text) (line : Nat)
  deriving Repr, DecidableEq

/-- The error in words. -/
def ExtractionError.message : ExtractionError → Text
  | .duplicateExport name firstLine line =>
      "Function '" ++ name ++ "' is exported twice (lines " ++ Text.decimal firstLine ++ " and " ++
        Text.decimal line ++ ")"
  | .untypedParameter function parameter line =>
      "Parameter '" ++ parameter ++ "' of '" ++ function ++ "' (line " ++ Text.decimal line ++
        ") has no type"

end FfiBindings.Source
