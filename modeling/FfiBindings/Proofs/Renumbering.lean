import FfiBindings.Proofs.Steps

/-!
# The pass under other line numbers

A pass reads the number of a line only to write it down: in what it records, in what it reports, and in
the error that it ends with. So the same lines under other numbers give the same outcome with the other
numbers in it. Any numbering will do under which the lines at hand still follow one another; what was
recorded above may be numbered in any way.

Renumbering commutes with every step, and therefore with a run.
-/

namespace FfiBindings.Source

variable (numbering : Nat → Nat)

/-- The marker with its line under another number. -/
def PendingMarker.renumber (marker : PendingMarker) : PendingMarker :=
  { marker with line := numbering marker.line }

/-- The function with its line under another number. -/
def ExportedFunction.renumber (function : ExportedFunction) : ExportedFunction :=
  { function with line := numbering function.line }

/-- The skipped place with its line under another number. -/
def SkippedLine.renumber (place : SkippedLine) : SkippedLine :=
  { place with line := numbering place.line }

/-- All that was found, with every line under another number. -/
def Extraction.renumber (found : Extraction) : Extraction :=
  ⟨found.functions.map (·.renumber numbering), found.skipped.map (·.renumber numbering)⟩

/-- The error with every line that it quotes under another number. -/
def ExtractionError.renumber : ExtractionError → ExtractionError
  | .duplicateExport name firstLine line =>
      .duplicateExport name (numbering firstLine) (numbering line)
  | .untypedParameter function parameter line =>
      .untypedParameter function parameter (numbering line)

/-- The notice with every line that it quotes under another number. -/
def Notice.renumber : Notice → Notice
  | .markerDropped name line => .markerDropped name (numbering line)
  | .declarationSkipped line text => .declarationSkipped (numbering line) text
  | .nameMismatch marker markerLine name => .nameMismatch marker (numbering markerLine) name
  | .extracted name parameters result => .extracted name parameters result

/-- The failure with every line under another number. -/
def Failure.renumber (failure : Failure) : Failure :=
  ⟨failure.error.renumber numbering, failure.notices.map (·.renumber numbering)⟩

/-- The scan with every line under another number. -/
def Scan.renumber (scan : Scan) : Scan where
  comment := scan.comment
  marker := scan.marker.map (·.renumber numbering)
  extraction := scan.extraction.renumber numbering
  notices := scan.notices.map (·.renumber numbering)

/-- What an extraction comes to with every line under another number. -/
def renumberOutcome (outcome : Except ExtractionError Extraction) :
    Except ExtractionError Extraction :=
  (outcome.map (·.renumber numbering)).mapError (·.renumber numbering)

/-- What a pass comes to with every line under another number. -/
def renumberPass (pass : Except Failure Scan) : Except Failure Scan :=
  (pass.map (·.renumber numbering)).mapError (·.renumber numbering)

variable {numbering}

@[simp]
theorem renumberPass_ok (scan : Scan) :
    renumberPass numbering (.ok scan) = .ok (scan.renumber numbering) := rfl

@[simp]
theorem renumberPass_error (failure : Failure) :
    renumberPass numbering (.error failure) = .error (failure.renumber numbering) := rfl

/-- The number of a line shows only in an error about parameters. -/
theorem parseParameters_renumber (list function : Text) (number : Nat) :
    parseParameters list function (numbering number) =
      (parseParameters list function number).mapError (·.renumber numbering) := by
  unfold parseParameters
  split <;> rfl

/-- A mismatch of names is reported with the line of the marker. -/
theorem mismatch_renumber (marker : PendingMarker) (name : Text) :
    mismatch (marker.renumber numbering) name =
      (mismatch marker name).map (·.renumber numbering) := by
  unfold mismatch
  split <;> simp_all [PendingMarker.renumber, Notice.renumber]

namespace Scan

/-- Giving up a marker commutes with renumbering. -/
theorem dropMarker_renumber (scan : Scan) :
    (scan.renumber numbering).dropMarker = scan.dropMarker.renumber numbering := by
  obtain ⟨comment, marker, ⟨functions, skipped⟩, notices⟩ := scan
  cases marker with
  | none => rfl
  | some marker =>
    simp [dropMarker, renumber, report, skip, Extraction.renumber, PendingMarker.renumber,
      SkippedLine.renumber, Notice.renumber]

/-- A name is bound on the same line under its other number. -/
theorem boundLine?_renumber (scan : Scan) (name : Text) :
    (scan.renumber numbering).boundLine? name = (scan.boundLine? name).map numbering := by
  unfold boundLine? renumber Extraction.renumber
  rw [List.find?_map, Option.map_map, Option.map_map]
  rfl

/-- A declaration is bound, recorded or refused alike under other numbers. -/
theorem declaration_renumber (scan : Scan) (marker : PendingMarker) (number : Nat) (text : Text) :
    (scan.renumber numbering).declaration (marker.renumber numbering) (numbering number) text =
      renumberPass numbering (scan.declaration marker number text) := by
  cases parts : splitDeclaration? text with
  | none =>
    rw [declaration_of_unreadable parts, declaration_of_unreadable parts]
    simp [renumber, report, skip, Extraction.renumber, SkippedLine.renumber, Notice.renumber]
  | some head =>
    have parameters := @parseParameters_renumber numbering head.parameters head.name number
    rw [declaration_of_parts parts, declaration_of_parts parts, boundLine?_renumber,
      mismatch_renumber]
    cases scan.boundLine? head.name with
    | some firstLine => simp [Failure.renumber, renumber, ExtractionError.renumber]
    | none =>
      cases parsed : parseParameters head.parameters head.name number with
      | error error =>
        rw [parsed] at parameters
        change _ = Except.error (error.renumber numbering) at parameters
        simp [parameters, Failure.renumber, renumber]
      | ok found =>
        rw [parsed] at parameters
        change _ = Except.ok found at parameters
        simp [parameters, renumber, Extraction.renumber, ExportedFunction.renumber, Notice.renumber]

/-- A step commutes with renumbering: one case for each kind of line. -/
theorem line_renumber (scan : Scan) (number : Nat) (raw : Text) :
    (scan.renumber numbering).line (numbering number) raw =
      renumberPass numbering (scan.line number raw) := by
  cases kind : classify (Text.trim raw) with
  | marker name =>
    rw [line_of_marker kind, line_of_marker kind, dropMarker_renumber]
    rfl
  | directive =>
    rw [line_of_directive kind, line_of_directive kind]
    rfl
  | blank =>
    rw [line_of_blank kind, line_of_blank kind]
    rfl
  | comment note =>
    rw [line_of_comment kind, line_of_comment kind]
    by_cases empty : note.isEmpty = true
    · rw [if_pos empty, if_pos empty]
      rfl
    · rw [if_neg empty, if_neg empty]
      rfl
  | other =>
    rw [line_of_other kind, line_of_other kind, dropMarker_renumber]
    rfl
  | function =>
    cases waits : scan.marker with
    | none =>
      have unmarked : (scan.renumber numbering).marker = none := by
        rw [renumber, waits, Option.map_none]
      rw [line_of_unmarked kind waits, line_of_unmarked kind unmarked]
      rfl
    | some marker =>
      have marked : (scan.renumber numbering).marker = some (marker.renumber numbering) := by
        rw [renumber, waits, Option.map_some]
      have declared := @declaration_renumber numbering { scan with marker := none }
        marker number (Text.trim raw)
      rw [line_of_marked kind waits, line_of_marked kind marked]
      change ((renumber numbering { scan with marker := none }).declaration _ _ _).map clearComment = _
      rw [declared]
      cases declaration { scan with marker := none } marker number (Text.trim raw) <;> rfl

/-- A run commutes with renumbering, as long as the lines still follow one another. The induction is on
the lines, one step for each. -/
theorem run_renumber {lines : List Text} {number first : Nat} (scan : Scan)
    (numbered : ∀ index < lines.length, numbering (number + index) = first + index) :
    (scan.renumber numbering).run first lines = renumberPass numbering (scan.run number lines) := by
  induction lines generalizing scan number first with
  | nil => rfl
  | cons raw rest inductionHypothesis =>
    have here : numbering number = first := numbered 0 (Nat.succ_pos _)
    have behind : ∀ index < rest.length, numbering (number + 1 + index) = first + 1 + index := by
      intro index inside
      have there := numbered (index + 1) (Nat.succ_lt_succ inside)
      rwa [Nat.add_comm index, ← Nat.add_assoc, ← Nat.add_assoc] at there
    have stepped := @line_renumber numbering scan number raw
    rw [here] at stepped
    cases moved : scan.line number raw with
    | error failure =>
      rw [moved] at stepped
      rw [run_cons_of_error moved, run_cons_of_error stepped]
      rfl
    | ok next =>
      rw [moved] at stepped
      rw [run_cons_of_ok moved, run_cons_of_ok stepped]
      exact inductionHypothesis next behind

end Scan

end FfiBindings.Source
