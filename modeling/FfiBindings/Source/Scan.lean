import FfiBindings.Source.Line
import FfiBindings.Source.Signature

/-!
# The pass over a source

One pass over the lines keeps two things in mind: the comment gathered so far and the marker that
waits for its declaration. A declaration is bound only when a marker waits, and only comment lines,
directives and blank lines may stand between the two. Everything recorded on the way is also
reported as a notice, in order; a failed pass keeps the notices that came before the failure.
-/

namespace FfiBindings.Source

/-- What the pass reports while it runs. -/
inductive Notice where
  /-- A marker was given up. -/
  | markerDropped (name : Text) (line : Nat)
  /-- A marked declaration could not be read. -/
  | declarationSkipped (line : Nat) (text : Text)
  /-- A marker announces another name than the declaration bears. -/
  | nameMismatch (marker : Text) (markerLine : Nat) (name : Text)
  /-- A function was bound. -/
  | extracted (name : Text) (parameters : Nat) (result : Text)
  deriving Repr, DecidableEq

/-- Whether the notice warns of something the author should look at. -/
def Notice.isWarning : Notice → Bool
  | .nameMismatch .. => true
  | _ => false

/-- The notice in words. -/
def Notice.message : Notice → Text
  | .markerDropped name line =>
      "Export marker for '" ++ name ++ "' on line " ++ Text.decimal line ++ " has no declaration"
  | .declarationSkipped line text =>
      "Skipping unrecognised declaration on line " ++ Text.decimal line ++ ": " ++ text
  | .nameMismatch marker markerLine name =>
      "Export marker '" ++ marker ++ "' (line " ++ Text.decimal markerLine ++
        ") precedes function '" ++ name ++ "'"
  | .extracted name parameters result =>
      "Extracted '" ++ name ++ "' with " ++ Text.decimal parameters ++ " params returning " ++ result

/-- A marker that waits for its declaration: the announced name, the line and its trimmed text. -/
structure PendingMarker where
  name : Text
  line : Nat
  text : Text
  deriving Repr, DecidableEq

/-- What the pass has in mind between two lines. -/
structure Scan where
  /-- The texts of the comment lines gathered since the buffer was last cleared. -/
  comment : List Text
  marker : Option PendingMarker
  extraction : Extraction
  notices : List Notice
  deriving Repr, DecidableEq

/-- A pass that ended early, with the notices up to the failure. -/
structure Failure where
  error : ExtractionError
  notices : List Notice
  deriving Repr, DecidableEq

namespace Scan

/-- Before the first line nothing is gathered, awaited or found. -/
def start : Scan := ⟨[], none, ⟨[], []⟩, []⟩

/-- Add a notice at the end. -/
def report (scan : Scan) (notice : Notice) : Scan :=
  { scan with notices := scan.notices ++ [notice] }

/-- Record a marked place that gave no function. -/
def skip (scan : Scan) (entry : SkippedLine) : Scan :=
  { scan with extraction :=
      { scan.extraction with skipped := scan.extraction.skipped ++ [entry] } }

/-- Record a bound function. -/
def bind (scan : Scan) (function : ExportedFunction) : Scan :=
  { scan with extraction :=
      { scan.extraction with functions := scan.extraction.functions ++ [function] } }

/-- Forget the gathered comment. -/
def clearComment (scan : Scan) : Scan := { scan with comment := [] }

/-- Give up the marker that waits, if one does. It is recorded under its own line. -/
def dropMarker (scan : Scan) : Scan :=
  match scan.marker with
  | none => scan
  | some marker =>
      ({ scan with marker := none }.report (.markerDropped marker.name marker.line)).skip
        { line := marker.line, text := marker.text, reason := .markerWithoutDeclaration }

/-- The line of the bound function with the given name. -/
def boundLine? (scan : Scan) (name : Text) : Option Nat :=
  (scan.extraction.functions.find? (·.name == name)).map (·.line)

/-- Bind the declaration that a marker announced. A repeated name is found before the parameters
    are looked at, and a mismatch of names is reported before either. -/
def declaration (scan : Scan) (marker : PendingMarker) (line : Nat) (text : Text) :
    Except Failure Scan :=
  match splitDeclaration? text with
  | none =>
      .ok ((scan.report (.declarationSkipped line text)).skip
        { line, text, reason := .malformedDeclaration })
  | some head =>
      let scan :=
        if marker.name == head.name then scan
        else scan.report (.nameMismatch marker.name marker.line head.name)
      match scan.boundLine? head.name with
      | some firstLine =>
          .error ⟨.duplicateExport head.name firstLine line, scan.notices⟩
      | none =>
          match parseParameters head.parameters head.name line with
          | .error error => .error ⟨error, scan.notices⟩
          | .ok parameters =>
              let result := parseResult head.result
              .ok ((scan.report (.extracted head.name parameters.length result)).bind
                { name := head.name, comment := Text.join " " scan.comment, parameters, result,
                  line })

/-- Take in one line. An unmarked function leaves everything as it is; every other line that is
    neither comment, directive nor blank ends the gathered comment and uses up the marker. -/
def line (scan : Scan) (number : Nat) (raw : Text) : Except Failure Scan :=
  let text := Text.trim raw
  match classify text with
  | .marker name => .ok { scan.dropMarker with marker := some ⟨name, number, text⟩ }
  | .directive => .ok scan
  | .blank => .ok scan
  | .comment note =>
      .ok (if note.isEmpty then scan else { scan with comment := scan.comment ++ [note] })
  | .function =>
      match scan.marker with
      | none => .ok scan
      | some marker =>
          (declaration { scan with marker := none } marker number text).map clearComment
  | .other => .ok scan.dropMarker.clearComment

/-- Take in the lines that follow one another from a given number on. -/
def run (scan : Scan) (number : Nat) : List Text → Except Failure Scan
  | [] => .ok scan
  | raw :: rest => do (← scan.line number raw).run (number + 1) rest

end Scan

/-- Run the whole pass: every line in order, and at the end the marker still waiting is given up. -/
def scanText (source : Text) : Except Failure Scan :=
  (Scan.start.run 1 (Text.lines source)).map Scan.dropMarker

/-- The functions and skipped places of a source. -/
def extract (source : Text) : Except ExtractionError Extraction :=
  match scanText source with
  | .ok scan => .ok scan.extraction
  | .error failure => .error failure.error

/-- The notices of a pass over a source, whether it succeeds or fails. -/
def notices (source : Text) : List Notice :=
  match scanText source with
  | .ok scan => scan.notices
  | .error failure => failure.notices

end FfiBindings.Source
