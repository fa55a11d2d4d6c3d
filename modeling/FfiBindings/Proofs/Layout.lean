import FfiBindings.Proofs.Classification
import FfiBindings.Proofs.Cutting
import FfiBindings.Proofs.Renumbering
import Mathlib.Data.List.Forall2

/-!
# Layout of a source

Lines are told apart and read by their trimmed texts, so blanks around a line make no difference, and
neither does the carriage return in front of a line feed. A blank line, a `//go:` line and an `//export`
without a name pass through the scan without a trace, whatever was gathered or awaited there. So one more
such line only moves the lines from there on down by one, in what is found and in what is quoted by an
error.

Both edits are told on texts: the one by the pieces between the line feeds, the other by the lines.
-/

namespace FfiBindings.Source

open Text (isBlank trim trimStart trimEnd)

/-! ### Blanks around lines -/

/-- Two lines that differ in nothing but the blanks in front and behind. -/
def DiffersInMargins (line other : Text) : Prop :=
  ∃ front inside back front' back' : Text, line = front ++ inside ++ back ∧
    other = front' ++ inside ++ back' ∧
    ∀ c ∈ front ++ back ++ front' ++ back', isBlank c = true

/-- Two texts whose lines differ in nothing but the blanks in front and behind. The pieces between the
line feeds are compared one by one, so no line is added or lost. -/
def Repadded (source other : Text) : Prop :=
  List.Forall₂ DiffersInMargins (Text.split '\n' source) (Text.split '\n' other)

/-- The text with a carriage return put before every line feed. -/
def withReturns (text : Text) : Text :=
  text.flatMap fun c => if c == '\n' then ['\r', '\n'] else [c]

/-- Lines that differ in their margins have the same trimmed text. -/
theorem DiffersInMargins.trim_eq {line other : Text} (margins : DiffersInMargins line other) :
    trim line = trim other := by
  obtain ⟨front, inside, back, front', back', rfl, rfl, blank⟩ := margins
  simp only [List.forall_mem_append] at blank
  obtain ⟨⟨⟨blankFront, blankBack⟩, blankFront'⟩, blankBack'⟩ := blank
  rw [Text.trim_append_of_blank inside blankFront blankBack,
    Text.trim_append_of_blank inside blankFront' blankBack']

/-- The pieces of a text with carriage returns are those of the text with a blank behind, but for the
last. -/
theorem repadded_withReturns (text : Text) : Repadded text (withReturns text) := by
  have behind : List.Forall₂ (fun piece other => ∃ back, other = piece ++ back ∧
      ∀ c ∈ back, isBlank c = true) (Text.split '\n' text) (Text.split '\n' (withReturns text)) := by
    induction text with
    | nil => exact .cons ⟨[], rfl, List.forall_mem_nil _⟩ .nil
    | cons c rest inductionHypothesis =>
      by_cases breaks : c = '\n'
      · subst breaks
        exact .cons ⟨['\r'], rfl, List.all_eq_true.mp (by decide)⟩ inductionHypothesis
      · have kept : (c == '\n') = false := beq_false_of_ne breaks
        have whole : withReturns (c :: rest) = c :: withReturns rest := by
          rw [withReturns, List.flatMap_cons, kept]
          rfl
        obtain ⟨piece, pieces, cut⟩ :=
          List.exists_cons_of_ne_nil (Text.splitWhen_ne_nil (· == '\n') rest)
        obtain ⟨other, others, cutOther⟩ :=
          List.exists_cons_of_ne_nil (Text.splitWhen_ne_nil (· == '\n') (withReturns rest))
        have first : Text.split '\n' (c :: rest) = (c :: piece) :: pieces :=
          Text.splitWhen_cons_of_kept kept cut
        have second : Text.split '\n' (c :: withReturns rest) = (c :: other) :: others :=
          Text.splitWhen_cons_of_kept kept cutOther
        rw [Text.split, Text.split, cut, cutOther] at inductionHypothesis
        rw [whole, first, second]
        cases inductionHypothesis with
        | cons ended later =>
          obtain ⟨back, rfl, blank⟩ := ended
          exact .cons ⟨back, rfl, blank⟩ later
  refine List.Forall₂.imp ?_ behind
  rintro piece other ⟨back, rfl, blank⟩
  exact ⟨[], piece, [], [], back, by simp, by simp, by simpa using blank⟩

/-! ### Lines that say nothing -/

/-- Whether a line says nothing to the scan: it is blank, a `//go:` line, or an `//export` that no name
follows. -/
inductive IsSilent (line : Text) : Prop where
  | blank (empty : trim line = [])
  | toolLine (rest : Text) (shape : trim line = "//go:" ++ rest)
  | nameless (rest : Text) (shape : trim line = "//export" ++ rest)
      (unnamed : ∀ c ∈ (trimStart rest).head?, Text.isWord c = false)

/-- A text with one more line: the new line stands above those of the text from the given number on,
which may be one past the last. Lines are counted from one. -/
def Inserted (line : Text) (number : Nat) (source edited : Text) : Prop :=
  ∃ before after, Text.lines source = before ++ after ∧
    Text.lines edited = before ++ line :: after ∧ number = before.length + 1

/-- A line that is written in front of another, or behind the last line feed, is inserted there. -/
theorem inserted_of_text {before line : Text} (starts : before = [] ∨ before.getLast? = some '\n')
    (whole : '\n' ∉ line) (after : Text) :
    Inserted line ((Text.lines before).length + 1) (before ++ after)
      (before ++ (line ++ '\n' :: after)) := by
  have cut (behind : Text) : Text.lines (before ++ behind) = Text.lines before ++ Text.lines behind := by
    rcases starts with rfl | ended
    · rfl
    · exact Text.lines_append_of_ended ended behind
  refine ⟨Text.lines before, Text.lines after, cut after, ?_, rfl⟩
  rw [cut, Text.lines_append_cons after whole]

/-- The number of a line after one more line was put above those from a given number on. -/
def movedDown (start line : Nat) : Nat := if start ≤ line then line + 1 else line

/-- Silent lines are the blank lines and the directives. -/
theorem isSilent_iff (line : Text) :
    IsSilent line ↔ classify (trim line) = .blank ∨ classify (trim line) = .directive := by
  constructor
  · intro silent
    cases silent with
    | blank empty =>
      rw [empty]
      exact .inl rfl
    | toolLine rest shape =>
      rw [shape]
      exact .inr rfl
    | nameless rest shape unnamed =>
      rw [shape]
      exact .inr ((classify_export_eq_directive_iff rest).mpr unnamed)
  · rintro (isBlank | isDirective)
    · exact .blank (eq_nil_of_classify_blank isBlank)
    · obtain ⟨rest, tool | begun⟩ := shape_of_classify_directive isDirective
      · exact .toolLine rest tool
      · rw [begun] at isDirective
        exact .nameless rest begun ((classify_export_eq_directive_iff rest).mp isDirective)

/-! ### Edits and the pass -/

namespace Scan

variable {scan : Scan} {number : Nat}

/-- A step looks at the trimmed line only. -/
theorem line_congr {line other : Text} (same : trim line = trim other) :
    scan.line number line = scan.line number other := by
  unfold Scan.line
  rw [same]

/-- A run looks at the trimmed lines only. -/
theorem run_congr {lines others : List Text}
    (same : List.Forall₂ (fun line other => trim line = trim other) lines others) :
    scan.run number lines = scan.run number others := by
  induction same generalizing scan number with
  | nil => rfl
  | @cons line other lines others here _ inductionHypothesis =>
    have steps : scan.line number line = scan.line number other := line_congr here
    cases stepped : scan.line number line with
    | error failure =>
      rw [run_cons_of_error stepped, run_cons_of_error (steps.symm.trans stepped)]
    | ok next =>
      rw [run_cons_of_ok stepped, run_cons_of_ok (steps.symm.trans stepped)]
      exact inductionHypothesis

/-- A silent line leaves everything as it is. -/
theorem line_of_silent {line : Text} (silent : IsSilent line) :
    scan.line number line = .ok scan := by
  rcases (isSilent_iff line).mp silent with isBlank | isDirective
  · exact line_of_blank isBlank
  · exact line_of_directive isDirective

/-- A run over the pieces between line feeds is a run over the lines: behind a final line feed there is
one more piece, which is empty. -/
theorem run_split (text : Text) :
    scan.run number (Text.split '\n' text) = scan.run number (Text.lines text) := by
  rcases Text.split_eq_lines text with same | longer
  · rw [same]
  · rw [longer, run_append]
    cases scan.run number (Text.lines text) with
    | error failure => rfl
    | ok next => exact run_cons_of_ok (line_of_silent (.blank rfl))

/-- Where lines differ in their margins only, the passes are the same. -/
theorem run_of_repadded {source other : Text} (repadded : Repadded source other) :
    scan.run number (Text.lines other) = scan.run number (Text.lines source) := by
  rw [← run_split other, ← run_split source]
  exact (run_congr (List.Forall₂.imp (fun _ _ margins => margins.trim_eq) repadded)).symm

/-- A silent line moves the lines behind it down by one and has no other effect on the pass. The lines in
front keep their numbers, so what they leave is not renumbered; the run over the lines behind is the old
one with its numbers moved. -/
theorem run_insert {line : Text} (silent : IsSilent line) (before after : List Text) :
    start.run 1 (before ++ line :: after) =
      renumberPass (movedDown (before.length + 1)) (start.run 1 (before ++ after)) := by
  have front : start.run 1 before =
      renumberPass (movedDown (before.length + 1)) (start.run 1 before) := by
    apply run_renumber start
    intro index inside
    rw [movedDown, if_neg (by omega)]
  rw [run_append, run_append]
  cases ran : start.run 1 before with
  | error failure =>
    rw [ran] at front
    exact front
  | ok scan =>
    rw [ran] at front
    have kept : scan = scan.renumber (movedDown (before.length + 1)) := Except.ok.inj front
    have behind : (scan.renumber (movedDown (before.length + 1))).run (1 + before.length + 1) after =
        renumberPass (movedDown (before.length + 1)) (scan.run (1 + before.length) after) := by
      apply run_renumber scan
      intro index inside
      rw [movedDown, if_pos (by omega)]
      omega
    rw [← kept] at behind
    exact (run_cons_of_ok (line_of_silent silent)).trans behind

end Scan

/-- The result of an extraction is told from the run over the lines. -/
theorem extract_congr {source other : Text}
    (same : Scan.start.run 1 (Text.lines other) = Scan.start.run 1 (Text.lines source)) :
    extract other = extract source := by
  rw [extract, extract, scanText, scanText, same]

/-- The result of an extraction is renumbered with the run over the lines. -/
theorem extract_renumber {numbering : Nat → Nat} {source edited : Text}
    (renumbered : Scan.start.run 1 (Text.lines edited) =
      renumberPass numbering (Scan.start.run 1 (Text.lines source))) :
    extract edited = renumberOutcome numbering (extract source) := by
  rw [extract, extract, scanText, scanText, renumbered]
  cases Scan.start.run 1 (Text.lines source) with
  | error failure => rfl
  | ok final =>
    change Except.ok (final.renumber numbering).dropMarker.extraction = _
    rw [Scan.dropMarker_renumber]
    rfl

/-- Layout makes no difference to an extraction. Carriage returns before the line feeds and blanks around
the lines leave its result as it is. A silent line, put in anywhere, moves the lines below it down, and
this is all that changes: in the functions, in the skipped places, and in the error. -/
theorem extract_of_layout (source edited : Text) :
    extract (withReturns source) = extract source ∧
      (Repadded source edited → extract edited = extract source) ∧
      ∀ line number, IsSilent line → Inserted line number source edited →
        extract edited = renumberOutcome (movedDown number) (extract source) := by
  refine ⟨?_, ?_, ?_⟩
  · exact extract_congr (Scan.run_of_repadded (repadded_withReturns source))
  · intro repadded
    exact extract_congr (Scan.run_of_repadded repadded)
  · rintro line number silent ⟨before, after, isSource, isEdited, rfl⟩
    apply extract_renumber
    rw [isSource, isEdited]
    exact Scan.run_insert silent before after

/-- The upper part of a source, up to a marker. -/
def announcing : Text := "//export Lost\n\n// steps\n//export Step\n"

/-- The lower part of that source, from the declaration on. -/
def declaring : Text := "func Step(by int) int \x7b\n\x7d\n//export End\n"

/-- A marked function. -/
def ticking : Text := "//export Tick\nfunc Tick()\n"

/-- The law at a source with a function and two skipped places and at one that binds a name twice. A
nameless `//export` between the marker and the declaration moves the function and the place below it. A
`//go:` line between the two functions moves the second of the lines that the error quotes. -/
theorem extract_of_layout_moved :
    IsSilent " //export" ∧
      Inserted " //export" 5 (announcing ++ declaring)
        (announcing ++ (" //export" ++ '\n' :: declaring)) ∧
      extract (announcing ++ (" //export" ++ '\n' :: declaring)) = .ok
        { functions := [
            { name := "Step", comment := "steps", parameters := [⟨"by", "int"⟩], result := "int",
              line := 6 }]
          skipped := [
            { line := 1, text := "//export Lost", reason := .markerWithoutDeclaration },
            { line := 8, text := "//export End", reason := .markerWithoutDeclaration }] } ∧
      extract (withReturns (ticking ++ ticking)) = .error (.duplicateExport "Tick" 2 4) ∧
      Repadded ticking "\t//export Tick \nfunc Tick()\r\n  " ∧
      extract "\t//export Tick \nfunc Tick()\r\n  " = extract ticking ∧
      IsSilent "//go:noinline" ∧
      Inserted "//go:noinline" 3 (ticking ++ ticking)
        (ticking ++ ("//go:noinline" ++ '\n' :: ticking)) ∧
      extract (ticking ++ ("//go:noinline" ++ '\n' :: ticking)) =
        .error (.duplicateExport "Tick" 2 5) := by
  have nameless : IsSilent " //export" := .nameless [] (by decide) (by simp [trimStart])
  have fifth : (Text.lines announcing).length + 1 = 5 := by decide
  have below : Inserted " //export" ((Text.lines announcing).length + 1) (announcing ++ declaring)
      (announcing ++ (" //export" ++ '\n' :: declaring)) :=
    inserted_of_text (.inr (by decide)) (by decide) declaring
  rw [fifth] at below
  have found := (extract_of_layout (announcing ++ declaring) _).2.2 _ _ nameless below
  have returned := (extract_of_layout (ticking ++ ticking) []).1
  have repadded : Repadded ticking "\t//export Tick \nfunc Tick()\r\n  " :=
    .cons ⟨[], "//export Tick", [], "\t", " ", rfl, rfl, List.all_eq_true.mp (by decide)⟩
      (.cons ⟨[], "func Tick()", [], [], "\r", rfl, rfl, List.all_eq_true.mp (by decide)⟩
        (.cons ⟨[], [], [], "  ", [], rfl, rfl, List.all_eq_true.mp (by decide)⟩ .nil))
  have padded := (extract_of_layout ticking _).2.1 repadded
  have tool : IsSilent "//go:noinline" := .toolLine "noinline" (by decide)
  have third : (Text.lines ticking).length + 1 = 3 := by decide
  have between : Inserted "//go:noinline" ((Text.lines ticking).length + 1) (ticking ++ ticking)
      (ticking ++ ("//go:noinline" ++ '\n' :: ticking)) :=
    inserted_of_text (.inr (by decide)) (by decide) ticking
  rw [third] at between
  have failed := (extract_of_layout (ticking ++ ticking) _).2.2 _ _ tool between
  exact ⟨nameless, below, found.trans rfl, returned.trans rfl, repadded, padded, tool, between,
    failed.trans rfl⟩

end FfiBindings.Source
