import FfiBindings.Source.Signature
import Mathlib.Data.List.Basic

/-!
# Types that parameters share

A parameter list is cut at its commas, and each segment that is not blank is one parameter, under the
first field of the segment. The fields behind it are the type. A segment that has no more fields is bare:
it shares the type of the nearest later one that is typed.

So a list fails in one way only. Bare segments at its end have no typed one behind them, and the first of
these is named in the error, for everything in front of it finds a type. Where the last segment is typed,
every one finds a type.
-/

namespace FfiBindings.Source

/-- A segment of a parameter list, field by field: the first field and the words behind it. -/
structure Reading where
  name : Text
  words : List Text
  deriving Repr, DecidableEq

namespace Reading

/-- How a segment reads. A blank one does not read at all. -/
def of? (segment : Text) : Option Reading :=
  match Text.fields segment with
  | [] => none
  | name :: words => some { name, words }

/-- Whether the segment states a type. Otherwise it is bare. -/
def isTyped (reading : Reading) : Bool := !reading.words.isEmpty

/-- The type that the segment states, its words with single spaces between them. -/
def type (reading : Reading) : Text := Text.join " " reading.words

/-- What the segment stands for. -/
def segment (reading : Reading) : Segment :=
  { name := reading.name, type := if reading.isTyped then some reading.type else none }

end Reading

/-- The segments of a list as they read, blank ones left out. -/
def readings (list : Text) : List Reading := (Text.split ',' list).filterMap Reading.of?

/-- The longest run of bare segments at the end: the segment in front of it, if any, is typed. -/
structure TrailingRun (segments front run : List Reading) : Prop where
  whole : segments = front ++ run
  bare : ∀ reading ∈ run, reading.isTyped = false
  longest : ∀ reading ∈ front.getLast?, reading.isTyped = true

/-- The parameters of some segments: one for each, in order, under the name that stands there and with
the type of the nearest typed segment from there on. -/
structure TypedByNearest (segments : List Reading) (parameters : List Parameter) : Prop where
  length : parameters.length = segments.length
  typed : ∀ index reading, segments[index]? = some reading →
    ∃ nearest, (segments.drop index).find? Reading.isTyped = some nearest ∧
      parameters[index]? = some ⟨reading.name, nearest.type⟩

theorem parse?_eq (piece : Text) :
    Segment.parse? piece = (Reading.of? piece).map Reading.segment := by
  unfold Segment.parse? Reading.of?
  cases shape : Text.fields piece with
  | nil => rfl
  | cons name words => cases words <;> rfl

/-- The segments of a list are what its readings stand for. -/
theorem segments_eq_map (list : Text) : segments list = (readings list).map Reading.segment := by
  have parse : Segment.parse? = fun piece => (Reading.of? piece).map Reading.segment :=
    funext parse?_eq
  rw [segments, readings, List.map_filterMap, parse]

/-- The type that is shared in front of some segments is that of the nearest typed one. -/
theorem sharedType?_map (segments : List Reading) :
    sharedType? (segments.map Reading.segment) =
      (segments.find? Reading.isTyped).map Reading.type := by
  induction segments with
  | nil => rfl
  | cons reading rest inductionHypothesis =>
    rw [List.map_cons, sharedType?, Reading.segment, inductionHypothesis]
    cases typed : reading.isTyped <;> simp [typed]

namespace TrailingRun

variable {segments front run : List Reading} {reading : Reading}

/-- A run of bare segments that are all of a list is the trailing one. -/
theorem of_bare (bare : ∀ reading ∈ segments, reading.isTyped = false) :
    TrailingRun segments [] segments :=
  ⟨rfl, bare, by simp⟩

/-- The trailing run of a list stays the same behind one more segment, as long as some segment is
typed. -/
theorem cons (trailing : TrailingRun segments front run)
    (typed : ∃ other ∈ reading :: segments, other.isTyped = true) :
    TrailingRun (reading :: segments) (reading :: front) run where
  whole := congrArg (reading :: ·) trailing.whole
  bare := trailing.bare
  longest := by
    cases front with
    | cons first later => exact trailing.longest
    | nil =>
      -- The run is all that follows, so the typed segment is the one in front of it.
      obtain ⟨other, member, isTyped⟩ := typed
      have same : segments = run := trailing.whole
      rcases List.mem_cons.mp member with rfl | later
      · simpa using isTyped
      · rw [trailing.bare other (same ▸ later)] at isTyped
        contradiction

/-- Where bare segments end a list, its last one is bare. -/
theorem exists_last_bare (front : List Reading) (nonempty : run ≠ [])
    (bare : ∀ reading ∈ run, reading.isTyped = false) :
    ∃ last ∈ (front ++ run).getLast?, last.isTyped = false := by
  refine ⟨run.getLast nonempty, ?_, bare _ (List.getLast_mem nonempty)⟩
  rw [List.getLast?_append_of_ne_nil _ nonempty]
  exact List.getLast?_eq_some_getLast nonempty

/-- Nothing bare stands between a trailing run and the segment in front of it. -/
theorem eq_nil_of_longest {between : List Reading}
    (longest : ∀ reading ∈ (front ++ between).getLast?, reading.isTyped = true)
    (bare : ∀ reading ∈ between, reading.isTyped = false) : between = [] := by
  by_contra nonempty
  obtain ⟨last, isLast, lastBare⟩ := exists_last_bare front nonempty bare
  rw [longest last isLast] at lastBare
  contradiction

/-- A list has one trailing run: of two, neither reaches further to the front. -/
theorem unique {otherFront otherRun : List Reading} (trailing : TrailingRun segments front run)
    (other : TrailingRun segments otherFront otherRun) : run = otherRun := by
  have whole : front ++ run = otherFront ++ otherRun := trailing.whole.symm.trans other.whole
  rcases List.append_eq_append_iff.mp whole with ⟨between, rfl, rfl⟩ | ⟨between, rfl, rfl⟩
  · have none := eq_nil_of_longest other.longest fun reading member =>
      trailing.bare reading (List.mem_append_left _ member)
    rw [none, List.nil_append]
  · have none := eq_nil_of_longest trailing.longest fun reading member =>
      other.bare reading (List.mem_append_left _ member)
    rw [none, List.nil_append]

end TrailingRun

/-- One more segment in front takes its type from the nearest typed one, and the others keep theirs. -/
theorem TypedByNearest.cons {reading nearest : Reading} {segments : List Reading}
    {parameters : List Parameter} (rest : TypedByNearest segments parameters)
    (found : (reading :: segments).find? Reading.isTyped = some nearest) :
    TypedByNearest (reading :: segments) (⟨reading.name, nearest.type⟩ :: parameters) where
  length := congrArg (· + 1) rest.length
  typed := by
    rintro (- | index) other isThere
    · obtain rfl : reading = other := by simpa using isThere
      exact ⟨nearest, found, rfl⟩
    · exact rest.typed index other isThere

/-- What becomes of some segments: the first of a trailing run has no type, or the last segment is typed
and all have one. The induction is on the segments. A segment in front is named in the error only when no
segment is typed from there on, and then all of them are the trailing run. -/
theorem resolveTypes_map (segments : List Reading) :
    (∃ front first run, TrailingRun segments front (first :: run) ∧
      resolveTypes (segments.map Reading.segment) = .error first.name) ∨
    ((∀ last ∈ segments.getLast?, last.isTyped = true) ∧ ∃ parameters,
      resolveTypes (segments.map Reading.segment) = .ok parameters ∧
        TypedByNearest segments parameters) := by
  induction segments with
  | nil => exact .inr ⟨by simp, [], rfl, ⟨rfl, by simp⟩⟩
  | cons reading rest inductionHypothesis =>
    have shared := sharedType?_map (reading :: rest)
    rw [List.map_cons] at shared ⊢
    rw [resolveTypes, shared]
    cases found : (reading :: rest).find? Reading.isTyped with
    | none =>
      have bare : ∀ other ∈ reading :: rest, other.isTyped = false := by
        simpa using List.find?_eq_none.mp found
      exact .inl ⟨[], reading, rest, .of_bare bare, rfl⟩
    | some nearest =>
      have typed : ∃ other ∈ reading :: rest, other.isTyped = true :=
        ⟨nearest, List.mem_of_find?_eq_some found, List.find?_some found⟩
      rcases inductionHypothesis with ⟨front, first, run, trailing, failed⟩ |
        ⟨lastTyped, parameters, resolved, restTyped⟩
      · exact .inl ⟨reading :: front, first, run, trailing.cons typed, by rw [failed]; rfl⟩
      · refine .inr ⟨?_, ⟨reading.name, nearest.type⟩ :: parameters, by rw [resolved]; rfl,
          restTyped.cons found⟩
        cases rest with
        | nil => simpa using typed
        | cons next later => exact lastTyped

/-- What becomes of a parameter list. Where the last of its segments is bare, the error names the first
segment of the trailing run of bare ones. In every other case, also where no segment is left, there is
one parameter for each segment, in order, named by its first field and typed by its own further fields
or else by those of the nearest later segment that has some. -/
theorem parseParameters_of_readings (list function : Text) (line : Nat) :
    ((∃ last ∈ (readings list).getLast?, last.isTyped = false) →
      ∃ front first run, TrailingRun (readings list) front (first :: run) ∧
        parseParameters list function line =
          .error (.untypedParameter function first.name line)) ∧
    ((∀ last ∈ (readings list).getLast?, last.isTyped = true) → ∃ parameters,
      parseParameters list function line = .ok parameters ∧
        TypedByNearest (readings list) parameters) := by
  unfold parseParameters
  rw [segments_eq_map]
  rcases resolveTypes_map (readings list) with ⟨front, first, run, trailing, failed⟩ |
    ⟨lastTyped, parameters, resolved, typed⟩
  · refine ⟨fun _ => ⟨front, first, run, trailing, by rw [failed]⟩, fun lastTyped => ?_⟩
    have nonempty : first :: run ≠ [] := List.cons_ne_nil first run
    obtain ⟨last, isLast, bare⟩ := TrailingRun.exists_last_bare front nonempty trailing.bare
    rw [lastTyped last (trailing.whole ▸ isLast)] at bare
    contradiction
  · refine ⟨fun ⟨last, isLast, bare⟩ => ?_, fun _ => ⟨parameters, by rw [resolved], typed⟩⟩
    rw [lastTyped last isLast] at bare
    contradiction

/-- A list with bare segments in front of typed ones and a blank segment between them. -/
def sharingList : Text := "a, b  int, , c, d map[string] int"

/-- The same list with bare segments at its end. -/
def bareList : Text := "a, b  int, , c, d"

/-- The law at these two lists. In the first every segment finds a type, its own or that of the nearest
later one; in the second nothing gives `c` a type. -/
theorem parseParameters_of_readings_sharing :
    ((∀ last ∈ (readings sharingList).getLast?, last.isTyped = true) ∧ ∃ parameters,
      parseParameters sharingList "F" 7 = .ok parameters ∧
        TypedByNearest (readings sharingList) parameters ∧
        parameters[2]? = some ⟨"c", "map[string] int"⟩) ∧
    ((∃ last ∈ (readings bareList).getLast?, last.isTyped = false) ∧
      parseParameters bareList "F" 7 = .error (.untypedParameter "F" "c" 7)) := by
  have lastTyped : ∀ last ∈ (readings sharingList).getLast?, last.isTyped = true := by decide
  obtain ⟨parameters, parsed, typed⟩ := (parseParameters_of_readings sharingList "F" 7).2 lastTyped
  obtain ⟨nearest, found, parameter⟩ := typed.typed 2 ⟨"c", []⟩ (by decide)
  have isNearest : ((readings sharingList).drop 2).find? Reading.isTyped =
      some ⟨"d", ["map[string]", "int"]⟩ := by decide
  obtain rfl := Option.some.inj (found.symm.trans isNearest)
  have lastBare : ∃ last ∈ (readings bareList).getLast?, last.isTyped = false := by decide
  obtain ⟨front, first, run, trailing, failed⟩ :=
    (parseParameters_of_readings bareList "F" 7).1 lastBare
  have isTrailing : TrailingRun (readings bareList) [⟨"a", []⟩, ⟨"b", ["int"]⟩]
      [⟨"c", []⟩, ⟨"d", []⟩] := ⟨by decide, by decide, by decide⟩
  obtain ⟨rfl, -⟩ := List.cons.inj (trailing.unique isTrailing)
  exact ⟨⟨lastTyped, parameters, parsed, typed, parameter⟩, lastBare, failed⟩

end FfiBindings.Source
