import FfiBindings.Source.Scan

/-!
# One step of the pass

What the pass does with one line, said once for every kind of line and every outcome of a
declaration. The laws about whole runs use these equations and look no further into the pass.
-/

namespace FfiBindings.Source

/-- What is reported of a marker that announces another name than its declaration bears. -/
def mismatch (marker : PendingMarker) (name : Text) : List Notice :=
  if marker.name == name then [] else [.nameMismatch marker.name marker.line name]

namespace Scan

variable (scan : Scan)

@[simp] theorem dropMarker_marker : scan.dropMarker.marker = none := by
  unfold dropMarker
  split
  · assumption
  · rfl

@[simp] theorem dropMarker_comment : scan.dropMarker.comment = scan.comment := by
  unfold dropMarker
  split <;> rfl

@[simp] theorem dropMarker_functions :
    scan.dropMarker.extraction.functions = scan.extraction.functions := by
  unfold dropMarker
  split <;> rfl

/-- A marker that is given up is recorded as a skipped place of its own line. -/
theorem dropMarker_skipped :
    scan.dropMarker.extraction.skipped = scan.extraction.skipped ++
      (scan.marker.map fun marker =>
        { line := marker.line, text := marker.text,
          reason := .markerWithoutDeclaration }).toList := by
  unfold dropMarker
  split
  · simp_all
  · simp_all [skip, report]

variable {scan} {marker : PendingMarker} {number : Nat} {text : Text} {head : Head}

/-- A declaration that cannot be split is recorded as a skipped place. -/
theorem declaration_of_unreadable (unreadable : splitDeclaration? text = none) :
    scan.declaration marker number text =
      .ok ((scan.report (.declarationSkipped number text)).skip
        { line := number, text, reason := .malformedDeclaration }) := by
  simp [declaration, unreadable]

/-- A declaration that can be split is bound, or fails the pass by its name or else by its
parameters. In each case a mismatch has been reported before. -/
theorem declaration_of_parts (parts : splitDeclaration? text = some head) :
    scan.declaration marker number text =
      match scan.boundLine? head.name with
      | some firstLine =>
          .error ⟨.duplicateExport head.name firstLine number,
            scan.notices ++ mismatch marker head.name⟩
      | none =>
          match parseParameters head.parameters head.name number with
          | .error error => .error ⟨error, scan.notices ++ mismatch marker head.name⟩
          | .ok parameters =>
              .ok { scan with
                extraction := { scan.extraction with
                  functions := scan.extraction.functions ++
                    [{ name := head.name, comment := Text.join " " scan.comment, parameters,
                       result := parseResult head.result, line := number }] }
                notices := scan.notices ++ mismatch marker head.name ++
                  [.extracted head.name parameters.length (parseResult head.result)] } := by
  cases same : marker.name == head.name with
  | true =>
    have noNotice : mismatch marker head.name = [] := by simp [mismatch, same]
    simp only [declaration, parts, same, noNotice, ite_true, List.append_nil]
    rfl
  | false =>
    have oneNotice : mismatch marker head.name =
        [.nameMismatch marker.name marker.line head.name] := by simp [mismatch, same]
    simp only [declaration, parts, same, oneNotice, Bool.false_eq_true, ite_false]
    rfl

variable {raw : Text}

/-- A step in terms of the trimmed line, from which each of the equations below is read. -/
theorem line_eq :
    scan.line number raw =
      match classify (Text.trim raw) with
      | .marker name => .ok { scan.dropMarker with marker := some ⟨name, number, Text.trim raw⟩ }
      | .directive => .ok scan
      | .blank => .ok scan
      | .comment note =>
          .ok (if note.isEmpty then scan else { scan with comment := scan.comment ++ [note] })
      | .function =>
          match scan.marker with
          | none => .ok scan
          | some marker =>
              (declaration { scan with marker := none } marker number (Text.trim raw)).map clearComment
      | .other => .ok scan.dropMarker.clearComment := rfl

/-- A marker takes the place of the one that waited. -/
theorem line_of_marker {name : Text} (kind : classify (Text.trim raw) = .marker name) :
    scan.line number raw =
      .ok { scan.dropMarker with marker := some ⟨name, number, Text.trim raw⟩ } := by
  rw [line_eq, kind]

/-- A comment line adds its text, if it has one. -/
theorem line_of_comment {note : Text} (kind : classify (Text.trim raw) = .comment note) :
    scan.line number raw =
      .ok (if note.isEmpty then scan else { scan with comment := scan.comment ++ [note] }) := by
  rw [line_eq, kind]

/-- A directive changes nothing. -/
theorem line_of_directive (kind : classify (Text.trim raw) = .directive) :
    scan.line number raw = .ok scan := by
  rw [line_eq, kind]

/-- A blank line changes nothing. -/
theorem line_of_blank (kind : classify (Text.trim raw) = .blank) :
    scan.line number raw = .ok scan := by
  rw [line_eq, kind]

/-- A statement gives up the marker and forgets the comment. -/
theorem line_of_other (kind : classify (Text.trim raw) = .other) :
    scan.line number raw = .ok scan.dropMarker.clearComment := by
  rw [line_eq, kind]

/-- An unmarked function changes nothing. -/
theorem line_of_unmarked (kind : classify (Text.trim raw) = .function)
    (unmarked : scan.marker = none) : scan.line number raw = .ok scan := by
  rw [line_eq, kind, unmarked]

/-- A marked function is declared, uses up the marker and forgets the comment. -/
theorem line_of_marked (kind : classify (Text.trim raw) = .function)
    (marked : scan.marker = some marker) :
    scan.line number raw =
      (declaration { scan with marker := none } marker number (Text.trim raw)).map
        clearComment := by
  rw [line_eq, kind, marked]

variable {next : Scan} {rest : List Text}

/-- A run goes on from what the first line leaves. -/
theorem run_cons_of_ok (stepped : scan.line number raw = .ok next) :
    scan.run number (raw :: rest) = next.run (number + 1) rest := by
  rw [run, stepped]
  rfl

/-- A run ends where the first line fails. -/
theorem run_cons_of_error {failure : Failure} (stepped : scan.line number raw = .error failure) :
    scan.run number (raw :: rest) = .error failure := by
  rw [run, stepped]
  rfl

/-- A run over lines one after the other is a run over the first and then over the others. -/
theorem run_append (front rest : List Text) :
    scan.run number (front ++ rest) =
      (scan.run number front).bind fun next => next.run (number + front.length) rest := by
  induction front generalizing scan number with
  | nil => rfl
  | cons raw front inductionHypothesis =>
    cases stepped : scan.line number raw with
    | error failure =>
      rw [List.cons_append, run_cons_of_error stepped, run_cons_of_error stepped]
      rfl
    | ok middle =>
      rw [List.cons_append, run_cons_of_ok stepped, run_cons_of_ok stepped, inductionHypothesis,
        List.length_cons, Nat.add_assoc, Nat.add_comm 1]

/-- A run goes on from what the lines in front leave. -/
theorem run_append_of_ok {front : List Text} (ran : scan.run number front = .ok next) :
    scan.run number (front ++ rest) = next.run (number + front.length) rest := by
  rw [run_append, ran]
  rfl

end Scan

end FfiBindings.Source
