import FfiBindings.Source.Scan
import FfiBindings.Proofs.Classification
import Mathlib.Data.List.GetD

/-!
# Looking back from a line

Everything that the pass has in mind before a line can be read off the lines above it, without
running the pass. A marker waits before a line when only comments, directives and blank lines stand
between the two. A function line is marked when a marker waits before it, and declared when it can
be split as well. The comment of a declaration comes from the lines below the last one that ended
a comment, which is a statement or a marked function; an unmarked function ends nothing.

Lines are counted from zero here, while descriptors and errors count them from one. Past the last
line there is only blank text, so no law below needs a bound on the index.
-/

namespace FfiBindings.Source

/-- Whether a line of this kind may stand between a marker and its declaration. -/
def LineKind.isPassedOver : LineKind → Bool
  | .comment _ | .directive | .blank => true
  | .marker _ | .function | .other => false

/-- Whether a line of this kind is an export marker. -/
def LineKind.isMarker : LineKind → Bool
  | .marker _ => true
  | _ => false

/-- The name that a marker announces. -/
def LineKind.announced : LineKind → Text
  | .marker name => name
  | _ => []

/-- The text of a comment line, if it says anything. -/
def LineKind.note? : LineKind → Option Text
  | .comment text => if text.isEmpty then none else some text
  | _ => none

variable (lines : List Text)

/-- The trimmed text of a line. -/
def textAt (index : Nat) : Text := Text.trim (lines.getD index [])

/-- What a line is. -/
def kindAt (index : Nat) : LineKind := classify (textAt lines index)

/-- A marker waits before a line when every line between the two is passed over. -/
def Waits (marker index : Nat) : Prop :=
  marker < index ∧ (kindAt lines marker).isMarker = true ∧
    ∀ between < index, marker < between → (kindAt lines between).isPassedOver = true

/-- A function line is marked when some marker waits before it. -/
def Marked (index : Nat) : Prop :=
  kindAt lines index = .function ∧ ∃ marker < index, Waits lines marker index

/-- The lines that end the comment gathered so far. -/
def EndsComment (index : Nat) : Prop :=
  kindAt lines index = .other ∨ Marked lines index

instance (marker index : Nat) : Decidable (Waits lines marker index) := by
  unfold Waits
  infer_instance

instance (index : Nat) : Decidable (Marked lines index) := by
  unfold Marked
  infer_instance

instance (index : Nat) : Decidable (EndsComment lines index) := by
  unfold EndsComment
  infer_instance

/-- The comment texts above a line, no further up than the last line that ended a comment. -/
def notesBefore (index : Nat) : List Text :=
  (List.range index).filterMap fun line =>
    if ∀ ending < index, EndsComment lines ending → ending < line then (kindAt lines line).note?
    else none

/-- The comment of a declaration on a line: the texts above it, joined by spaces. -/
def commentBefore (index : Nat) : Text := Text.trim (Text.join " " (notesBefore lines index))

/-- The parts of a marked function line, where it can be split. -/
def declared? (index : Nat) : Option Head :=
  if Marked lines index then splitDeclaration? (textAt lines index) else none

/-- A declared line with its parts. -/
structure Declaration where
  index : Nat
  head : Head
  deriving Repr, DecidableEq

/-- The declared lines above a line, in order. -/
def declarationsBefore (index : Nat) : List Declaration :=
  (List.range index).filterMap fun line =>
    (declared? lines line).map (Declaration.mk line)

/-- The declared lines of a source, in order. -/
def declarations : List Declaration := declarationsBefore lines lines.length

/-- What a declared line describes, if each of its parameters has a type. -/
def describe (declaration : Declaration) : Except ExtractionError ExportedFunction := do
  let parameters ← parseParameters declaration.head.parameters declaration.head.name
    (declaration.index + 1)
  return {
    name := declaration.head.name
    comment := commentBefore lines declaration.index
    parameters
    result := parseResult declaration.head.result
    line := declaration.index + 1
  }

/-- The marker that waits before a line, found by going up one line at a time. -/
def waiting? : Nat → Option Nat
  | 0 => none
  | index + 1 =>
      if (kindAt lines index).isMarker then some index
      else if (kindAt lines index).isPassedOver then waiting? index
      else none

variable {lines}

/-- No marker is passed over. -/
theorem LineKind.isPassedOver_eq_false_of_isMarker {kind : LineKind}
    (marker : kind.isMarker = true) : kind.isPassedOver = false := by
  cases kind <;> simp_all [LineKind.isMarker, LineKind.isPassedOver]

/-- A line that is passed over is no marker. -/
theorem not_isMarker_of_passed {index : Nat} (passed : (kindAt lines index).isPassedOver = true) :
    (kindAt lines index).isMarker ≠ true := by
  intro isMarker
  rw [LineKind.isPassedOver_eq_false_of_isMarker isMarker] at passed
  contradiction

/-- A function line is not passed over. -/
theorem stops_of_function {index : Nat} (isFunction : kindAt lines index = .function) :
    (kindAt lines index).isPassedOver = false := by
  rw [isFunction]
  rfl

/-- A line that is passed over is no function line. -/
theorem not_function_of_passed {index : Nat} (passed : (kindAt lines index).isPassedOver = true) :
    kindAt lines index ≠ .function := by
  intro isFunction
  rw [stops_of_function isFunction] at passed
  contradiction

/-- Past the last line nothing but blank text stands. -/
theorem kindAt_of_length_le {index : Nat} (past : lines.length ≤ index) :
    kindAt lines index = .blank := by
  rw [kindAt, textAt, List.getD_eq_default _ _ past]
  rfl

/-- A line that is not passed over is one of the lines of the source. -/
theorem lt_length_of_isPassedOver_eq_false {index : Nat}
    (stops : (kindAt lines index).isPassedOver = false) : index < lines.length := by
  by_contra past
  rw [kindAt_of_length_le (Nat.le_of_not_lt past)] at stops
  simp [LineKind.isPassedOver] at stops

/-- Before the next line waits either the marker on this line or, where this line is passed over,
the marker that waited before it. -/
theorem waits_succ_iff {marker index : Nat} :
    Waits lines marker (index + 1) ↔
      (marker = index ∧ (kindAt lines index).isMarker = true) ∨
        (Waits lines marker index ∧ (kindAt lines index).isPassedOver = true) := by
  constructor
  · rintro ⟨below, isMarker, passed⟩
    rcases Nat.lt_succ_iff_lt_or_eq.mp below with earlier | rfl
    · exact .inr ⟨⟨earlier, isMarker, fun between upTo => passed between (by omega)⟩,
        passed index (Nat.lt_succ_self index) earlier⟩
    · exact .inl ⟨rfl, isMarker⟩
  · rintro (⟨rfl, isMarker⟩ | ⟨⟨below, isMarker, passed⟩, here⟩)
    · exact ⟨Nat.lt_succ_self marker, isMarker, fun between upTo above => by omega⟩
    · refine ⟨by omega, isMarker, ?_⟩
      intro between upTo above
      rcases Nat.lt_succ_iff_lt_or_eq.mp upTo with earlier | rfl
      · exact passed between earlier above
      · exact here

/-- Going up finds exactly the marker that waits, so at most one does. -/
theorem waiting?_eq_some_iff {marker index : Nat} :
    waiting? lines index = some marker ↔ Waits lines marker index := by
  induction index with
  | zero => simp [waiting?, Waits]
  | succ index inductionHypothesis =>
    rw [waits_succ_iff, ← inductionHypothesis, waiting?]
    by_cases isMarker : (kindAt lines index).isMarker = true
    · have stops := LineKind.isPassedOver_eq_false_of_isMarker isMarker
      simp [isMarker, stops, eq_comm]
    · by_cases passed : (kindAt lines index).isPassedOver = true <;> simp [isMarker, passed]

/-- A function line is marked exactly when going up finds a marker. -/
theorem marked_iff {index : Nat} :
    Marked lines index ↔
      kindAt lines index = .function ∧ ∃ marker, waiting? lines index = some marker := by
  simp only [Marked, waiting?_eq_some_iff]
  constructor
  · rintro ⟨isFunction, marker, _, waits⟩
    exact ⟨isFunction, marker, waits⟩
  · rintro ⟨isFunction, marker, waits⟩
    exact ⟨isFunction, marker, waits.1, waits⟩

/-- A marker waits on while lines are passed over. -/
theorem waiting?_succ_of_passed {index : Nat} (passed : (kindAt lines index).isPassedOver = true) :
    waiting? lines (index + 1) = waiting? lines index := by
  simp [waiting?, not_isMarker_of_passed passed, passed]

/-- A line that is passed over ends no comment. -/
theorem not_ends_of_passed {index : Nat} (passed : (kindAt lines index).isPassedOver = true) :
    ¬ EndsComment lines index := by
  rintro (isOther | ⟨isFunction, _⟩)
  · simp [isOther, LineKind.isPassedOver] at passed
  · exact not_function_of_passed passed isFunction

/-- Only function lines are declared. -/
theorem declared?_of_not_function {index : Nat} (notFunction : kindAt lines index ≠ .function) :
    declared? lines index = none :=
  if_neg fun marked => notFunction marked.1

/-- Nothing is gathered below a line that ends the comment. -/
theorem notesBefore_succ_of_ends {index : Nat} (ends : EndsComment lines index) :
    notesBefore lines (index + 1) = [] := by
  apply List.filterMap_eq_nil_iff.mpr
  intro line member
  have inside : line < index + 1 := List.mem_range.mp member
  apply if_neg
  intro below
  have := below index (Nat.lt_succ_self index) ends
  omega

/-- Any other line adds its own note, if it has one, to those gathered above it. -/
theorem notesBefore_succ_of_not_ends {index : Nat} (continues : ¬ EndsComment lines index) :
    notesBefore lines (index + 1) =
      notesBefore lines index ++ ((kindAt lines index).note?).toList := by
  have sameEndings (line : Nat) :
      (∀ ending < index + 1, EndsComment lines ending → ending < line) ↔
        ∀ ending < index, EndsComment lines ending → ending < line := by
    constructor
    · exact fun below ending inside => below ending (by omega)
    · intro below ending inside ends
      rcases Nat.lt_succ_iff_lt_or_eq.mp inside with earlier | rfl
      · exact below ending earlier ends
      · exact absurd ends continues
  have here : ∀ ending < index, EndsComment lines ending → ending < index :=
    fun ending inside _ => inside
  simp only [notesBefore, sameEndings, List.range_succ, List.filterMap_append,
    List.filterMap_cons, List.filterMap_nil, if_pos here]
  cases (kindAt lines index).note? <;> rfl

/-- Every gathered note is a nonempty trimmed text, since it was trimmed when its line was told
apart and empty ones are left out. -/
theorem note_of_kindAt {index : Nat} {note : Text}
    (noted : (kindAt lines index).note? = some note) : note ≠ [] ∧ Text.Trimmed note := by
  cases kind : kindAt lines index with
  | comment text =>
    by_cases empty : text.isEmpty = true
    · simp [kind, LineKind.note?, empty] at noted
    · have isText : text = note := by simpa [kind, LineKind.note?, empty] using noted
      subst isText
      exact ⟨by simpa using empty, trimmed_of_classify_comment kind⟩
  | _ => simp [kind, LineKind.note?] at noted

/-- Gathered notes are nonempty trimmed texts, so trimming the joined comment drops nothing. -/
theorem commentBefore_eq_join (index : Nat) :
    commentBefore lines index = Text.join " " (notesBefore lines index) := by
  have wellFormed : ∀ note ∈ notesBefore lines index, note ≠ [] ∧ Text.Trimmed note := by
    intro note member
    obtain ⟨line, _, noted⟩ := List.mem_filterMap.mp member
    split at noted
    · exact note_of_kindAt noted
    · contradiction
  exact Text.trim_of_trimmed (Text.trimmed_join " " (fun note member => (wellFormed note member).1)
    fun note member => (wellFormed note member).2)

/-- The declared lines above the next line. -/
theorem declarationsBefore_succ (index : Nat) :
    declarationsBefore lines (index + 1) =
      declarationsBefore lines index ++
        ((declared? lines index).map (Declaration.mk index)).toList := by
  simp only [declarationsBefore, List.range_succ, List.filterMap_append, List.filterMap_cons,
    List.filterMap_nil]
  cases declared? lines index <;> rfl

end FfiBindings.Source
