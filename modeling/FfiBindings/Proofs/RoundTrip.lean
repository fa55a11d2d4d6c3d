import FfiBindings.Proofs.Printing
import FfiBindings.Proofs.Steps
import Mathlib.Data.Bool.AllAny

/-!
# Extraction undoes printing

A list of functions with different names is printed and extracted again: the same functions come
back in the same order, each on the line of its printed declaration, and nothing is skipped.

Between two printed functions the pass is at rest: it holds no comment and no marker, and what it
has found are the functions printed so far. The lines of one function take it from rest to rest.
The comment and the marker announce the function, the declaration binds it and clears both, and the
closing brace finds nothing left to clear.
-/

namespace FfiBindings.Source

/-- The functions with the numbers of their printed declarations, when a number of lines stands
above the first of them. -/
def placed (above : Nat) : List ExportedFunction → List ExportedFunction
  | [] => []
  | function :: rest =>
      { function with line := above + (printedComment function).length + 2 } ::
        placed (above + (printedLines function).length) rest

/-- Every placed function has its printed declaration on its line. -/
theorem declaration_at_placed {functions : List ExportedFunction} {function : ExportedFunction}
    (above : List Text) (member : function ∈ placed above.length functions) :
    ∃ index, function.line = index + 1 ∧
      (above ++ functions.flatMap printedLines)[index]? = some (printedDeclaration function) := by
  induction functions generalizing above with
  | nil => contradiction
  | cons first rest inductionHypothesis =>
    rcases List.mem_cons.mp member with rfl | later
    · refine ⟨above.length + ((printedComment first).length + 1), rfl, ?_⟩
      rw [List.getElem?_append_right (Nat.le_add_right _ _), Nat.add_sub_cancel_left,
        List.flatMap_cons, printedLines, List.append_assoc,
        List.getElem?_append_right (Nat.le_add_right _ _), Nat.add_sub_cancel_left]
      rfl
    · rw [List.flatMap_cons, ← List.append_assoc]
      apply inductionHypothesis
      rwa [List.length_append]

namespace Scan

variable {scan : Scan} {bound : List ExportedFunction} {function : ExportedFunction}

/-- Nothing is gathered or awaited, and the given functions are all that has been found. -/
structure Resting (bound : List ExportedFunction) (scan : Scan) : Prop where
  comment : scan.comment = []
  marker : scan.marker = none
  found : scan.extraction = ⟨bound, []⟩

/-- The comment of a function is gathered and a marker waits for its declaration. -/
structure Announced (bound : List ExportedFunction) (function : ExportedFunction) (scan : Scan) :
    Prop where
  comment : Text.join " " scan.comment = function.comment
  marker : ∃ marker, scan.marker = some marker
  found : scan.extraction = ⟨bound, []⟩

/-- The comment line, or its absence, gathers the comment of the function. -/
theorem Resting.gather (resting : Resting bound scan) (number : Nat)
    (printable : Printable function) :
    ∃ next, scan.run number (printedComment function) = .ok next ∧
      Text.join " " next.comment = function.comment ∧ next.marker = none ∧
      next.extraction = ⟨bound, []⟩ := by
  by_cases empty : function.comment = []
  · refine ⟨scan, ?_, ?_, resting.marker, resting.found⟩
    · simp [printedComment, empty, run]
    · rw [resting.comment, empty]
      rfl
  · refine ⟨{ scan with comment := [function.comment] }, ?_, rfl, resting.marker, resting.found⟩
    have stepped : scan.line number ("// " ++ function.comment) =
        .ok { scan with comment := [function.comment] } := by
      rw [line_of_comment (printable.comment_line empty), resting.comment]
      simp [empty]
    rw [printedComment, if_neg (by simpa using empty), run_cons_of_ok stepped, run]

/-- The marker announces the function, now that its comment is gathered. -/
theorem Resting.announce (resting : Resting bound scan) (number : Nat)
    (printable : Printable function) :
    ∃ next, scan.run number (printedComment function ++ [printedMarker function]) = .ok next ∧
      Announced bound function next := by
  obtain ⟨gathered, ran, comment, marker, found⟩ := resting.gather number printable
  have kept : gathered.dropMarker = gathered := by rw [dropMarker, marker]
  have awaited : gathered.line (number + (printedComment function).length)
      (printedMarker function) = .ok _ := line_of_marker printable.marker_line
  rw [kept] at awaited
  refine ⟨_, (run_append_of_ok ran).trans (run_cons_of_ok awaited), ?_⟩
  exact ⟨comment, ⟨_, rfl⟩, found⟩

/-- The declaration of an announced function binds it, unless a function of that name is bound. -/
theorem Announced.declare (announced : Announced bound function scan) (number : Nat)
    (printable : Printable function) (fresh : function.name ∉ bound.map (·.name)) :
    ∃ next, scan.line number (printedDeclaration function) = .ok next ∧
      Resting (bound ++ [{ function with line := number }]) next := by
  obtain ⟨marker, marked⟩ := announced.marker
  have unbound : boundLine? { scan with marker := none } function.name = none := by
    have noBearer : bound.find? (·.name == function.name) = none := by
      apply List.find?_eq_none.mpr
      intro other member
      simp only [beq_iff_eq]
      intro same
      exact fresh (List.mem_map.mpr ⟨other, member, same⟩)
    rw [boundLine?, announced.found, noBearer]
    rfl
  have typed := parseParameters_printed printable.parameters function.name number
  have result := parseResult_printed printable.resultNonempty printable.resultTrimmed
    printable.resultBodiless
  rw [line_of_marked (classify_printedDeclaration function) marked, trim_printedDeclaration,
    declaration_of_parts printable.split, unbound, typed, result, announced.comment]
  exact ⟨_, rfl, rfl, rfl, by rw [announced.found]; rfl⟩

/-- The closing brace leaves the pass at rest. -/
theorem Resting.close (resting : Resting bound scan) (number : Nat) :
    ∃ next, scan.line number "\x7d" = .ok next ∧ Resting bound next := by
  have isOther : classify (Text.trim "\x7d") = .other := by decide
  have kept : scan.dropMarker = scan := by rw [dropMarker, resting.marker]
  refine ⟨_, line_of_other isOther, ?_⟩
  rw [kept]
  exact ⟨rfl, resting.marker, resting.found⟩

/-- The lines of one function take the pass from rest to rest and add the function to what is
bound. -/
theorem Resting.printed (resting : Resting bound scan) (above : Nat)
    (printable : Printable function) (fresh : function.name ∉ bound.map (·.name)) :
    ∃ next, scan.run (above + 1) (printedLines function) = .ok next ∧
      Resting (bound ++
        [{ function with line := above + (printedComment function).length + 2 }]) next := by
  obtain ⟨announcing, ran, announced⟩ := resting.announce (above + 1) printable
  obtain ⟨declaring, declared, resting⟩ :=
    announced.declare (above + (printedComment function).length + 2) printable fresh
  obtain ⟨closing, closed, resting⟩ := resting.close (above + (printedComment function).length + 3)
  refine ⟨closing, ?_, resting⟩
  have shape : printedLines function = (printedComment function ++ [printedMarker function]) ++
      [printedDeclaration function, "\x7d"] := by simp [printedLines]
  have number : above + 1 + (printedComment function ++ [printedMarker function]).length =
      above + (printedComment function).length + 2 := by
    rw [List.length_append, List.length_singleton]
    omega
  rw [shape, run_append_of_ok ran, number, run_cons_of_ok declared, run_cons_of_ok closed, run]

/-- The lines of several functions add all of them. The induction is on the functions, with what is
bound and the lines above growing along. -/
theorem Resting.print (resting : Resting bound scan) (above : Nat)
    {functions : List ExportedFunction} (printable : ∀ function ∈ functions, Printable function)
    (distinct : (bound.map (·.name) ++ functions.map (·.name)).Nodup) :
    ∃ final, scan.run (above + 1) (functions.flatMap printedLines) = .ok final ∧
      Resting (bound ++ placed above functions) final := by
  induction functions generalizing bound scan above with
  | nil => exact ⟨scan, rfl, by rwa [placed, List.append_nil]⟩
  | cons function rest inductionHypothesis =>
    have fresh : function.name ∉ bound.map (·.name) := by
      intro member
      exact (List.nodup_append.mp distinct).2.2 _ member _ List.mem_cons_self rfl
    obtain ⟨next, ran, nextResting⟩ :=
      resting.printed above (printable function List.mem_cons_self) fresh
    obtain ⟨final, ranRest, finalResting⟩ := inductionHypothesis nextResting
      (above + (printedLines function).length)
      (fun other member => printable other (List.mem_cons_of_mem function member))
      (by simpa using distinct)
    refine ⟨final, ?_, ?_⟩
    · rw [List.flatMap_cons, run_append_of_ok ran, Nat.add_right_comm, ranRest]
    · rwa [List.append_assoc, List.singleton_append] at finalResting

end Scan

/-- The lines of a print are the printed lines. -/
theorem lines_print {functions : List ExportedFunction}
    (printable : ∀ function ∈ functions, Printable function) :
    Text.lines (print functions) = functions.flatMap printedLines := by
  apply Text.lines_flatMap
  intro line member
  obtain ⟨function, isFunction, isLine⟩ := List.mem_flatMap.mp member
  exact (printable function isFunction).unbroken line isLine

/-- Printed functions with different names are extracted as they were, in their order and each on
the line of its printed declaration, and nothing is skipped. -/
theorem extract_print (functions : List ExportedFunction)
    (printable : ∀ function ∈ functions, Printable function)
    (distinct : (functions.map (·.name)).Nodup) :
    extract (print functions) = .ok { functions := placed 0 functions, skipped := [] } ∧
      ∀ function ∈ placed 0 functions, ∃ index, function.line = index + 1 ∧
        (Text.lines (print functions))[index]? = some (printedDeclaration function) := by
  have lines := lines_print printable
  constructor
  · have start : Scan.Resting [] Scan.start := ⟨rfl, rfl, rfl⟩
    obtain ⟨final, ran, resting⟩ := start.print 0 printable distinct
    have kept : final.dropMarker = final := by rw [Scan.dropMarker, resting.marker]
    have scanned : scanText (print functions) = .ok final := by
      rw [scanText, lines, ran, Except.map, kept]
    rw [extract, scanned]
    exact congrArg Except.ok resting.found
  · intro function member
    rw [lines]
    exact declaration_at_placed [] member

/-- A function with a comment, a type of several words and a type with brackets, and a function
with neither comment nor parameters. -/
def counters : List ExportedFunction :=
  [{ name := "Sum", comment := "adds up",
     parameters := [⟨"items", "map[string][]int"⟩, ⟨"by", "unsigned long"⟩],
     result := "int, error", line := 3 },
   { name := "Stop", comment := "", parameters := [], result := "void", line := 6 }]

/-- Both of them are printable. -/
theorem printable_counters : ∀ function ∈ counters, Printable function := by
  have brackets : PrintableParameter ⟨"items", "map[string][]int"⟩ :=
    { nameNonempty := by decide
      nameSolid := List.all_iff_forall_prop.mp (by decide)
      nameWhole := by decide
      nameNeutral := List.all_iff_forall_prop.mp (by decide)
      typeFields := ⟨["map[string][]int"], by decide, by decide,
        List.forall_mem_singleton.mpr ⟨by decide, List.all_iff_forall_prop.mp (by decide)⟩⟩
      typeWhole := by decide
      typeBalanced := by decide }
  have words : PrintableParameter ⟨"by", "unsigned long"⟩ :=
    { nameNonempty := by decide
      nameSolid := List.all_iff_forall_prop.mp (by decide)
      nameWhole := by decide
      nameNeutral := List.all_iff_forall_prop.mp (by decide)
      typeFields := ⟨["unsigned", "long"], by decide, by decide, List.forall_mem_cons.mpr
        ⟨⟨by decide, List.all_iff_forall_prop.mp (by decide)⟩, List.forall_mem_singleton.mpr
          ⟨by decide, List.all_iff_forall_prop.mp (by decide)⟩⟩⟩
      typeWhole := by decide
      typeBalanced := by decide }
  refine List.forall_mem_cons.mpr ⟨?_, List.forall_mem_singleton.mpr ?_⟩
  · constructor
    case nameWord => exact List.all_iff_forall_prop.mp (by decide)
    case parameters =>
      exact List.forall_mem_cons.mpr ⟨brackets, List.forall_mem_singleton.mpr words⟩
    all_goals decide
  · constructor
    case nameWord => exact List.all_iff_forall_prop.mp (by decide)
    case parameters => exact List.forall_mem_nil _
    all_goals decide

/-- The law at these two functions. -/
theorem extract_print_counters :
    (∀ function ∈ counters, Printable function) ∧ (counters.map (·.name)).Nodup ∧
      extract (print counters) = .ok { functions := placed 0 counters, skipped := [] } ∧
      ∀ function ∈ placed 0 counters, ∃ index, function.line = index + 1 ∧
        (Text.lines (print counters))[index]? = some (printedDeclaration function) :=
  ⟨printable_counters, by decide, extract_print counters printable_counters (by decide)⟩

end FfiBindings.Source
