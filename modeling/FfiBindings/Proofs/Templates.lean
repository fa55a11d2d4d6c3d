import FfiBindings.Command.Init
import FfiBindings.Proofs.Concatenation
import FfiBindings.Proofs.RoundTrip

/-!
# Sources for new services

The source that is written for a new service is extracted with its two functions, whatever the service
is called. The name stands behind a directive, and it may bring lines of its own. As it holds no slash,
none of these is a comment or a marker, so each finds the pass at rest and leaves it at rest. What
stands below them is then extracted as it would be alone, further down.
-/

namespace FfiBindings

namespace Text

/-- A text that a line feed ends has one line more than line feeds within it. -/
theorem length_lines_ended (text : Text) :
    (lines (text ++ ['\n'])).length = text.count '\n' + 1 := by
  induction text with
  | nil => rfl
  | cons c text inductionHypothesis =>
    rw [List.cons_append, lines, List.count_cons]
    split
    · simp [inductionHypothesis]
    · cases shape : lines (text ++ ['\n']) with
      | nil => cases text <;> exact absurd shape (lines_cons_ne_nil _ _)
      | cons line later =>
        rw [shape] at inductionHypothesis
        simpa using inductionHypothesis

/-- Trimming keeps what stands at the start up to a character that is not blank. -/
theorem exists_trim_append {front : Text} (nonempty : front ≠ []) (trimmed : Trimmed front)
    (behind : Text) : ∃ rest, trim (front ++ behind) = front ++ rest := by
  have first : ∀ c ∈ (front ++ behind).head?, isBlank c = false := by
    rw [List.head?_append_of_ne_nil _ nonempty]
    exact trimmed.first
  rw [trim, trimStart_eq_self first, trimEnd, List.reverse_append, List.dropWhile_append]
  split
  · refine ⟨[], ?_⟩
    have kept : trimEnd front = front := trimEnd_eq_self trimmed.last
    rw [trimEnd] at kept
    rw [kept, List.append_nil]
  · exact ⟨(behind.reverse.dropWhile isBlank).reverse, by simp⟩

end Text

namespace Source

variable {line : Text}

/-- A line without slashes is a function, a blank line or a statement. -/
theorem classify_of_slashless (slashless : '/' ∉ line) :
    classify line = .function ∨ classify line = .blank ∨ classify line = .other := by
  have noComment : List.isPrefixOf? ("//" : Text) line = none :=
    Text.isPrefixOf?_eq_none_of_not_mem (by decide) slashless
  have unmarked : List.isPrefixOf? ("//export" : Text) line = none :=
    Text.isPrefixOf?_eq_none_of_not_mem (by decide) slashless
  have noMarker : markerName? line = none := by
    rw [markerName?, unmarked]
    rfl
  rw [classify, noMarker, noComment]
  cases List.isPrefixOf? ("func" : Text) line with
  | some after => cases blank : after.head?.any Text.isBlank <;> simp [blank]
  | none => cases line.isEmpty <;> simp

/-- A line for the tools stays one whatever follows its first word. -/
theorem classify_generate (behind : Text) : classify (Text.trim ("//go:" ++ behind)) = .directive := by
  have trimmed : Text.Trimmed "//go:" := (Text.trim_eq_self_iff _).mp (by decide)
  obtain ⟨rest, kept⟩ := Text.exists_trim_append (by decide) trimmed behind
  rw [kept]
  rfl

namespace Scan

variable {bound : List ExportedFunction} {scan : Scan}

/-- A line without slashes finds the pass at rest and leaves it at rest. -/
theorem Resting.slashless (resting : Resting bound scan) (number : Nat) {raw : Text}
    (slashless : '/' ∉ raw) : ∃ next, scan.line number raw = .ok next ∧ Resting bound next := by
  have kept : scan.dropMarker = scan := by rw [dropMarker, resting.marker]
  rcases classify_of_slashless fun member => slashless (Text.mem_of_mem_trim member) with
    isFunction | isBlank | isOther
  · exact ⟨scan, line_of_unmarked isFunction resting.marker, resting⟩
  · exact ⟨scan, line_of_blank isBlank, resting⟩
  · refine ⟨_, line_of_other isOther, ?_⟩
    rw [kept]
    exact ⟨rfl, resting.marker, resting.found⟩

/-- Lines without slashes leave the pass at rest. -/
theorem Resting.slashlessLines (resting : Resting bound scan) (number : Nat) {lines : List Text}
    (slashless : ∀ line ∈ lines, '/' ∉ line) :
    ∃ final, scan.run number lines = .ok final ∧ Resting bound final := by
  induction lines generalizing scan number with
  | nil => exact ⟨scan, rfl, resting⟩
  | cons raw rest inductionHypothesis =>
    obtain ⟨here, later⟩ := List.forall_mem_cons.mp slashless
    obtain ⟨next, stepped, nextResting⟩ := resting.slashless number here
    obtain ⟨final, ran, finalResting⟩ := inductionHypothesis nextResting (number + 1) later
    exact ⟨final, (run_cons_of_ok stepped).trans ran, finalResting⟩

/-- A source below a pass at rest that has found nothing yet is extracted as it is alone. -/
theorem Resting.source (resting : Resting [] scan) (above : Nat) {lines : List Text} {final : Scan}
    (ran : start.run 1 lines = .ok final) :
    ∃ moved, scan.run (above + 1) lines = .ok moved ∧
      moved.dropMarker.extraction = final.dropMarker.extraction.below above := by
  have continues : Continues above ⟨[], []⟩ start scan :=
    ⟨resting.comment, resting.marker, by rw [resting.found]; rfl, by rw [resting.found]; rfl⟩
  obtain ⟨new, -, ⟨-, moved, movedRan, alongside⟩ | ⟨_, _, _, _, _, _, _, impossible, _⟩⟩ :=
    continues.run ran
  · exact ⟨moved, movedRan, alongside.dropMarker.extraction⟩
  · contradiction

end Scan

end Source

namespace Command

open Source (Scan)

/-- The lines above the directive. -/
def templateOpening : List Text :=
  ["package main", "", "/*", "#include <stdlib.h>", "*/", "import \"C\"", ""]

/-- The lines below the directive, which hold the functions. -/
def templateFunctions : List Text := (templateLines []).drop 8

theorem templateLines_eq (sourceFile : Text) : templateLines sourceFile =
    templateOpening ++ (("//go:generate gophpffi generate " ++ sourceFile) :: templateFunctions) := rfl

/-- The functions in the source for a new service, when a number of lines stands above them and the
blank line in front. -/
def templateExtraction (above : Nat) : Source.Extraction :=
  { functions := [
      { name := "Add", comment := "Add is a simple addition function for demonstration",
        parameters := [⟨"a", "int"⟩, ⟨"b", "int"⟩], result := "int", line := above + 5 },
      { name := "Echo", comment := "Echo returns the input string",
        parameters := [⟨"s", "string"⟩], result := "string", line := above + 12 }]
    skipped := [] }

/-- Where they stand alone they are extracted with nothing above them. -/
theorem run_templateFunctions : ∃ final, Scan.start.run 1 templateFunctions = .ok final ∧
    final.dropMarker.extraction = templateExtraction 0 := by
  have computed : (Scan.start.run 1 templateFunctions).toOption.map (·.dropMarker.extraction) =
      some (templateExtraction 0) := by decide +kernel
  cases ran : Scan.start.run 1 templateFunctions with
  | error error => simp [ran, Except.toOption] at computed
  | ok final => exact ⟨final, rfl, by simpa [ran, Except.toOption] using computed⟩

/-- The lines that a text brings with it from behind the directive: the rest of that line and others
that hold nothing but what the text holds. -/
theorem lines_directive (text : Text) :
    ∃ (rest : Text) (later : List Text),
      Text.lines ("//go:generate gophpffi generate " ++ text ++ ['\n']) =
        ("//go:" ++ rest) :: later ∧ later.length = text.count '\n' ∧
      ∀ line ∈ later, ∀ c ∈ line, c ∈ text ++ ['\n'] := by
  obtain ⟨first, behind, shape, whole⟩ :=
    List.eq_append_cons_of_mem (List.mem_append_right text (List.mem_singleton_self '\n'))
  have cut : Text.lines ("//go:generate gophpffi generate " ++ text ++ ['\n']) =
      ("//go:generate gophpffi generate " ++ first) :: Text.lines behind := by
    rw [List.append_assoc, shape, ← List.append_assoc]
    refine Text.lines_append_cons behind ?_
    rw [List.mem_append, not_or]
    exact ⟨by decide, whole⟩
  have size := Text.length_lines_ended ("//go:generate gophpffi generate " ++ text)
  have unbroken : ("//go:generate gophpffi generate " : Text).count '\n' = 0 := by decide
  rw [cut, List.length_cons, List.count_append, unbroken, Nat.zero_add] at size
  refine ⟨_, _, cut, ?_, fun line member c inLine => ?_⟩
  · exact Nat.succ.inj size
  · rw [shape]
    simp [Text.mem_of_mem_lines member inLine]

/-- The lines of the source for a new service are those of the template, with the ones that the name
brings in the middle. -/
theorem lines_template (sourceFile : Text) : Text.lines (template sourceFile) =
    templateOpening ++ (Text.lines ("//go:generate gophpffi generate " ++ sourceFile ++ ['\n']) ++
      templateFunctions) := by
  have opening : Text.lines (templateOpening.flatMap (· ++ ['\n'])) = templateOpening :=
    Text.lines_flatMap (by decide)
  have functions : Text.lines (templateFunctions.flatMap (· ++ ['\n'])) = templateFunctions :=
    Text.lines_flatMap (by decide)
  have whole : template sourceFile = templateOpening.flatMap (· ++ ['\n']) ++
      ("//go:generate gophpffi generate " ++ sourceFile ++
        '\n' :: templateFunctions.flatMap (· ++ ['\n'])) := by
    rw [template, templateLines_eq, List.flatMap_append, List.flatMap_cons, List.append_assoc _ _
      (List.flatMap _ _)]
    rfl
  rw [whole, Text.lines_flatMap_append, opening, Text.lines_append_break, functions]

/-- The source for a new service is extracted with its two functions and nothing else, each under its
own comment and with its own parameters and result, whatever the service is called. The name only
moves them down, by as many lines as it has line feeds. -/
theorem extract_template (name : Text) (accepted : isServiceName name = true) :
    Source.extract (template (sourceFileName name)) =
      .ok (templateExtraction (8 + name.count '\n')) := by
  have slashless : '/' ∉ sourceFileName name ++ ['\n'] := by
    simp only [isServiceName, Bool.and_eq_true, Bool.not_eq_true', List.contains_eq_mem,
      decide_eq_false_iff_not] at accepted
    simp [sourceFileName, accepted.1.2]
  have breaks : (sourceFileName name).count '\n' = name.count '\n' := by
    rw [sourceFileName, List.count_append]
    rfl
  obtain ⟨rest, later, directive, size, held⟩ := lines_directive (sourceFileName name)
  have start : Scan.Resting [] Scan.start := ⟨rfl, rfl, rfl⟩
  have opening : Scan.start.run 1 templateOpening = .ok Scan.start := rfl
  have isDirective : Scan.start.line 8 ("//go:" ++ rest) = .ok Scan.start :=
    Scan.line_of_directive (Source.classify_generate rest)
  obtain ⟨reached, spliced, resting⟩ := start.slashlessLines 9
    fun line member slash => slashless (held line member _ slash)
  obtain ⟨final, ran, found⟩ := run_templateFunctions
  obtain ⟨moved, movedRan, extraction⟩ := resting.source (8 + later.length) ran
  have whole : Scan.start.run 1 (Text.lines (template (sourceFileName name))) = .ok moved := by
    rw [lines_template, directive, Scan.run_append_of_ok opening, List.cons_append]
    refine (Scan.run_cons_of_ok isDirective).trans ((Scan.run_append_of_ok spliced).trans ?_)
    rwa [Nat.add_right_comm] at movedRan
  rw [Source.extract, Source.scanText, whole]
  refine congrArg Except.ok (extraction.trans ?_)
  rw [found, size, breaks]
  rfl

/-- A name that brings a function with an open brace and a marker without slashes. -/
def splicing : Text := "x\nfunc main() \x7b\nexport Sub\n"

/-- The law at this name. -/
theorem extract_template_splicing :
    isServiceName splicing = true ∧
      Source.extract (template (sourceFileName splicing)) = .ok (templateExtraction 11) := by
  have accepted : isServiceName splicing = true := by decide
  exact ⟨accepted, extract_template splicing accepted⟩

end Command

end FfiBindings
