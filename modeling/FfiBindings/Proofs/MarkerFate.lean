import FfiBindings.Proofs.Lookback

/-!
# What becomes of a marker

A marker is answered by the first line below it that is not passed over. A function line that can
be split becomes a function, one that cannot becomes a skipped place of its own line, and any other
answer, or none, leaves the marker itself as a skipped place. So every marker leads to exactly one
of the two, and the places stand in the order of the markers: before the next marker is reached,
the one above it has been answered.
-/

namespace FfiBindings.Source

variable (lines : List Text)

/-- The markers above a line, in order. -/
def markersBefore (index : Nat) : List Nat :=
  (List.range index).filter fun line => (kindAt lines line).isMarker

/-- The markers of a source, in order. -/
def markers : List Nat := markersBefore lines lines.length

/-- The line that answers a marker: the first one below it that is not passed over. -/
def answer? (marker : Nat) : Option Nat :=
  (List.range lines.length).find? fun line =>
    decide (marker < line) && !(kindAt lines line).isPassedOver

/-- What a marker leads to: a function on a line, counted from one, or a skipped place. -/
inductive Fate where
  | bound (line : Nat)
  | skipped (place : SkippedLine)
  deriving Repr, DecidableEq

/-- The line of the function that a marker led to. -/
def Fate.line? : Fate → Option Nat
  | .bound line => some line
  | .skipped _ => none

/-- The skipped place that a marker led to. -/
def Fate.place? : Fate → Option SkippedLine
  | .bound _ => none
  | .skipped place => some place

/-- The place of a marker that no declaration answers. It stands for the marker's own line. -/
def unanswered (marker : Nat) : SkippedLine :=
  { line := marker + 1, text := textAt lines marker, reason := .markerWithoutDeclaration }

/-- The place of a marked function line that cannot be split. It stands for that line. -/
def malformed (index : Nat) : SkippedLine :=
  { line := index + 1, text := textAt lines index, reason := .malformedDeclaration }

@[simp] theorem unanswered_line (marker : Nat) : (unanswered lines marker).line = marker + 1 := rfl

@[simp] theorem malformed_line (index : Nat) : (malformed lines index).line = index + 1 := rfl

/-- What becomes of a marker, told from the line that answers it alone. -/
def fate (marker : Nat) : Fate :=
  match answer? lines marker with
  | none => .skipped (unanswered lines marker)
  | some line =>
      if kindAt lines line = .function then
        match splitDeclaration? (textAt lines line) with
        | some _ => .bound (line + 1)
        | none => .skipped (malformed lines line)
      else .skipped (unanswered lines marker)

/-- What becomes of the markers of a source, in their order. -/
def fates : List Fate := (markers lines).map (fate lines)

/-- The markers above a line that have been answered there: all but the one that waits. -/
def settled (index : Nat) : List Nat :=
  markersBefore lines ((waiting? lines index).getD index)

variable {lines}

/-- Every marker leads to a function or to a place, and to one of them only. -/
theorem line_place_length (fates : List Fate) :
    (fates.filterMap Fate.line?).length + (fates.filterMap Fate.place?).length = fates.length := by
  induction fates with
  | nil => rfl
  | cons fate rest inductionHypothesis =>
    cases fate <;>
      simp only [List.filterMap_cons, Fate.line?, Fate.place?, List.length_cons] <;> omega

/-- The three fates of a marker, each with what decides it. -/
theorem fate_cases (lines : List Text) (marker : Nat) :
    (∃ line head, answer? lines marker = some line ∧ kindAt lines line = .function ∧
        splitDeclaration? (textAt lines line) = some head ∧
        fate lines marker = .bound (line + 1)) ∨
      (∃ line, answer? lines marker = some line ∧ kindAt lines line = .function ∧
        splitDeclaration? (textAt lines line) = none ∧
        fate lines marker = .skipped (malformed lines line)) ∨
      ((∀ line, answer? lines marker = some line → kindAt lines line ≠ .function) ∧
        fate lines marker = .skipped (unanswered lines marker)) := by
  cases answered : answer? lines marker with
  | none => exact .inr (.inr ⟨by simp, by simp [fate, answered]⟩)
  | some line =>
    by_cases isFunction : kindAt lines line = .function
    · cases parts : splitDeclaration? (textAt lines line) with
      | some head =>
        exact .inl ⟨line, head, rfl, isFunction, parts, by simp [fate, answered, isFunction, parts]⟩
      | none =>
        exact .inr (.inl ⟨line, rfl, isFunction, parts, by
          simp [fate, answered, isFunction, parts]⟩)
    · refine .inr (.inr ⟨?_, by simp [fate, answered, isFunction]⟩)
      intro other same
      exact Option.some.inj same ▸ isFunction

/-- The answer to a marker, without the search for it. -/
theorem answer?_eq_some_iff {marker line : Nat} :
    answer? lines marker = some line ↔
      marker < line ∧ (kindAt lines line).isPassedOver = false ∧
        ∀ between < line, marker < between → (kindAt lines between).isPassedOver = true := by
  simp only [answer?, List.find?_range_eq_some, List.mem_range, Bool.and_eq_true, decide_eq_true_eq,
    Bool.not_eq_true', Bool.not_and, Bool.or_eq_true, decide_eq_false_iff_not, Bool.not_not]
  constructor
  · rintro ⟨⟨below, stops⟩, _, passed⟩
    refine ⟨below, stops, fun between upTo above => ?_⟩
    simpa [above] using passed between upTo
  · rintro ⟨below, stops, passed⟩
    refine ⟨⟨below, stops⟩, lt_length_of_isPassedOver_eq_false stops, fun between upTo => ?_⟩
    by_cases above : marker < between
    · simp [passed between upTo above]
    · simp [above]

/-- The line that a marker waits for answers it, unless it is passed over. -/
theorem answer?_of_waits {marker index : Nat} (waits : Waits lines marker index)
    (stops : (kindAt lines index).isPassedOver = false) : answer? lines marker = some index :=
  answer?_eq_some_iff.mpr ⟨waits.1, stops, waits.2.2⟩

/-- A marker that still waits at the end of the source has no answer. -/
theorem answer?_of_waits_at_end {marker : Nat} (waits : Waits lines marker lines.length) :
    answer? lines marker = none := by
  cases answered : answer? lines marker with
  | none => rfl
  | some line =>
    obtain ⟨below, stops, _⟩ := answer?_eq_some_iff.mp answered
    have passed := waits.2.2 line (lt_length_of_isPassedOver_eq_false stops) below
    simp [passed] at stops

/-- The markers above the next line. -/
theorem markersBefore_succ (index : Nat) :
    markersBefore lines (index + 1) =
      markersBefore lines index ++ if (kindAt lines index).isMarker then [index] else [] := by
  simp [markersBefore, List.range_succ, List.filter_cons]

/-- A line that is passed over settles nothing. -/
theorem settled_succ_of_passed {index : Nat}
    (passed : (kindAt lines index).isPassedOver = true) :
    settled lines (index + 1) = settled lines index := by
  rw [settled, settled, waiting?_succ_of_passed passed]
  cases waiting? lines index <;> simp [markersBefore_succ, not_isMarker_of_passed passed]

/-- Together with the marker that waits, the settled ones are all those above a line. -/
theorem settled_append_waiting (index : Nat) :
    settled lines index ++ (waiting? lines index).toList = markersBefore lines index := by
  induction index with
  | zero => rfl
  | succ index inductionHypothesis =>
    by_cases isMarker : (kindAt lines index).isMarker = true
    · simp [settled, waiting?, isMarker, markersBefore_succ]
    · by_cases passed : (kindAt lines index).isPassedOver = true
      · rw [settled_succ_of_passed passed, markersBefore_succ, ← inductionHypothesis]
        simp [waiting?, isMarker, passed]
      · simp [settled, waiting?, isMarker, passed]

/-- Any other line settles the marker that waited before it. -/
theorem settled_succ_of_stops {index : Nat} (stops : (kindAt lines index).isPassedOver = false) :
    settled lines (index + 1) = settled lines index ++ (waiting? lines index).toList := by
  rw [settled_append_waiting]
  by_cases isMarker : (kindAt lines index).isMarker = true
  · simp [settled, waiting?, isMarker]
  · simp [settled, waiting?, isMarker, stops, markersBefore_succ]

/-- The settled markers lead to the functions on exactly the declared lines, in the same order. -/
theorem settled_lines (index : Nat) :
    ((settled lines index).map (fate lines)).filterMap Fate.line? =
      (declarationsBefore lines index).map fun declaration => declaration.index + 1 := by
  induction index with
  | zero => rfl
  | succ index inductionHypothesis =>
    rw [declarationsBefore_succ, List.map_append, ← inductionHypothesis]
    cases passed : (kindAt lines index).isPassedOver with
    | true =>
      have undeclared := declared?_of_not_function (not_function_of_passed passed)
      simp [settled_succ_of_passed passed, undeclared]
    | false =>
      rw [settled_succ_of_stops passed, List.map_append, List.filterMap_append]
      congr 1
      cases waiting : waiting? lines index with
      | none => simp [declared?, marked_iff, waiting]
      | some marker =>
        have answered := answer?_of_waits (waiting?_eq_some_iff.mp waiting) passed
        by_cases isFunction : kindAt lines index = .function
        · cases parts : splitDeclaration? (textAt lines index) <;>
            simp [declared?, marked_iff, waiting, isFunction, parts, fate, answered, Fate.line?]
        · simp [declared?, marked_iff, isFunction, fate, answered, Fate.line?]

/-- The markers of a source lead to the functions on exactly the declared lines, in the same order.
A marker that still waits at the end leads to none. -/
theorem lines_of_fates (lines : List Text) :
    (fates lines).filterMap Fate.line? =
      (declarations lines).map fun declaration => declaration.index + 1 := by
  rw [fates, markers, ← settled_append_waiting, List.map_append, List.filterMap_append,
    settled_lines, declarations]
  cases waiting : waiting? lines lines.length with
  | none => simp
  | some marker =>
    have noAnswer := answer?_of_waits_at_end (waiting?_eq_some_iff.mp waiting)
    simp [fate, noAnswer, Fate.line?]

/-- A marker that leads to a function is answered by a function line that can be split. -/
theorem bound_of_line {marker number : Nat} (leads : (fate lines marker).line? = some number) :
    ∃ line head, answer? lines marker = some line ∧ kindAt lines line = .function ∧
      splitDeclaration? (textAt lines line) = some head ∧ number = line + 1 := by
  obtain ⟨line, head, answered, isFunction, parts, found⟩ | ⟨_, _, _, _, found⟩ | ⟨_, found⟩ :=
    fate_cases lines marker
  · rw [found, Fate.line?, Option.some.injEq] at leads
    exact ⟨line, head, answered, isFunction, parts, leads.symm⟩
  · simp [found, Fate.line?] at leads
  · simp [found, Fate.line?] at leads

/-- A marker that leads to a place is answered by a function line that cannot be split, or leaves
itself behind. -/
theorem skipped_of_place {marker : Nat} {place : SkippedLine}
    (leads : (fate lines marker).place? = some place) :
    (∃ line, answer? lines marker = some line ∧ kindAt lines line = .function ∧
        splitDeclaration? (textAt lines line) = none ∧ place = malformed lines line) ∨
      place = unanswered lines marker := by
  obtain ⟨_, _, _, _, _, found⟩ | ⟨line, answered, isFunction, parts, found⟩ | ⟨_, found⟩ :=
    fate_cases lines marker
  · simp [found, Fate.place?] at leads
  · rw [found, Fate.place?, Option.some.injEq] at leads
    exact .inl ⟨line, answered, isFunction, parts, leads.symm⟩
  · rw [found, Fate.place?, Option.some.injEq] at leads
    exact .inr leads.symm

/-- The place that a marker leads to is never above the marker's own line. -/
theorem lt_line_of_place {marker : Nat} {place : SkippedLine}
    (leads : (fate lines marker).place? = some place) : marker < place.line := by
  rcases skipped_of_place leads with ⟨line, answered, _, _, rfl⟩ | rfl
  · have below : marker < line := (answer?_eq_some_iff.mp answered).1
    rw [malformed_line]
    omega
  · simp

/-- The place that a marker leads to is above every later marker, because that marker would
otherwise have answered it. -/
theorem line_le_of_place {marker next : Nat} {place : SkippedLine} (later : marker < next)
    (isMarker : (kindAt lines next).isMarker = true)
    (leads : (fate lines marker).place? = some place) : place.line ≤ next := by
  rcases skipped_of_place leads with ⟨line, answered, isFunction, _, rfl⟩ | rfl
  · obtain ⟨_, _, passed⟩ := answer?_eq_some_iff.mp answered
    have upTo : line ≤ next := by
      by_contra above
      have isPassed := passed next (by omega) later
      simp [LineKind.isPassedOver_eq_false_of_isMarker isMarker] at isPassed
    have different : line ≠ next := by
      rintro rfl
      simp [isFunction, LineKind.isMarker] at isMarker
    rw [malformed_line]
    omega
  · rw [unanswered_line]
    omega

/-- The markers stand in order. -/
theorem markersBefore_sorted (index : Nat) : (markersBefore lines index).Pairwise (· < ·) :=
  List.pairwise_lt_range.filter _

/-- The places that the markers lead to stand on strictly increasing lines. -/
theorem places_sorted (index : Nat) :
    ((((markersBefore lines index).map (fate lines)).filterMap Fate.place?).map
      (·.line)).Pairwise (· < ·) := by
  rw [List.pairwise_map, List.pairwise_filterMap, List.pairwise_map]
  apply (markersBefore_sorted index).imp_of_mem
  intro marker next _ nextMember later place leads nextPlace nextLeads
  have isMarker : (kindAt lines next).isMarker = true := (List.mem_filter.mp nextMember).2
  have above : place.line ≤ next := line_le_of_place later isMarker leads
  have below : next < nextPlace.line := lt_line_of_place nextLeads
  exact Nat.lt_of_le_of_lt above below

/-- The declared lines stand in order. -/
theorem declarationsBefore_sorted (index : Nat) :
    ((declarationsBefore lines index).map fun declaration => declaration.index + 1).Pairwise
      (· < ·) := by
  rw [List.pairwise_map, declarationsBefore, List.pairwise_filterMap]
  apply List.pairwise_lt_range.imp
  intro line next later declaration isDeclaration nextDeclaration isNext
  obtain ⟨head, _, rfl⟩ := Option.map_eq_some_iff.mp isDeclaration
  obtain ⟨nextHead, _, rfl⟩ := Option.map_eq_some_iff.mp isNext
  exact Nat.succ_lt_succ later

/-- No line holds both a function and a skipped place: a function's line is split, a malformed one
cannot be, and the line of an unanswered marker is no function line at all. -/
theorem lines_disjoint (markers : List Nat)
    (areMarkers : ∀ marker ∈ markers, (kindAt lines marker).isMarker = true) :
    List.Disjoint ((markers.map (fate lines)).filterMap Fate.line?)
      (((markers.map (fate lines)).filterMap Fate.place?).map (·.line)) := by
  intro number isLine isPlace
  simp only [List.mem_filterMap, List.mem_map, exists_exists_and_eq_and] at isLine isPlace
  obtain ⟨marker, _, leads⟩ := isLine
  obtain ⟨place, ⟨other, otherMember, otherLeads⟩, sameLine⟩ := isPlace
  obtain ⟨line, head, _, isFunction, parts, rfl⟩ := bound_of_line leads
  rcases skipped_of_place otherLeads with ⟨otherLine, _, _, unreadable, rfl⟩ | rfl
  · have sameIndex : otherLine = line := Nat.succ.inj sameLine
    rw [sameIndex, parts] at unreadable
    contradiction
  · have sameIndex : other = line := Nat.succ.inj sameLine
    have isMarker := areMarkers other otherMember
    rw [sameIndex, isFunction] at isMarker
    contradiction

end FfiBindings.Source
