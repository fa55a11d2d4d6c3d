import FfiBindings.Proofs.Effects
import FfiBindings.Proofs.Extraction

/-!
# What a pass reports

A pass reports what it records, when it records it. Three things are recorded: a function on the line
that declares it, a marked line that cannot be split, and a marker that is given up, which happens only
when a later line or the end of the source shows that no declaration answers it. Each is reported by one
event, and right before that of a function the author is warned where the marker announces another name.

A pass that fails has reported the same up to the line at fault. That line is not recorded, but its
names have been compared by then, since they are compared before anything else is looked at.

The records are told apart by what looking back from a line tells. The invariant goes along with the
pass line by line: at every line, those so far account both for what was found and for what was reported.
-/

namespace FfiBindings.Source

/-- The events of a pass over a source. -/
def events (source : Text) : List TraceEvent := (notices source).map Notice.event

/-- A notice that warns. -/
def warning (notice : Notice) : TraceEvent := ⟨.warn, passTarget, notice.message⟩

/-- A notice that only says what is done. -/
def remark (notice : Notice) : TraceEvent := ⟨.debug, passTarget, notice.message⟩

variable (lines : List Text)

/-- The warning about a marker that announces another name than its declaration bears. -/
def mismatchWarning (marker : Nat) (name : Text) : List TraceEvent :=
  if (kindAt lines marker).announced = name then []
  else [warning (.nameMismatch (kindAt lines marker).announced (marker + 1) name)]

/-- What a pass records: what becomes of a marker. -/
inductive Record where
  /-- A function, with the marker that waits before its line. -/
  | bound (marker : Nat) (function : ExportedFunction)
      (waits : Waits lines marker (function.line - 1))
  /-- A marked line that cannot be split. -/
  | malformed (index : Nat) (marked : Marked lines index)
  /-- A marker that is given up. -/
  | dropped (marker : Nat) (isMarker : (kindAt lines marker).isMarker = true)

namespace Record

variable {lines}

/-- The function of a record. -/
def function? : Record lines → Option ExportedFunction
  | bound _ function _ => some function
  | malformed .. | dropped .. => none

/-- The skipped place of a record. -/
def place? : Record lines → Option SkippedLine
  | bound .. => none
  | malformed index _ => some (Source.malformed lines index)
  | dropped marker _ => some (unanswered lines marker)

/-- What is reported of a record. -/
def events : Record lines → List TraceEvent
  | bound marker function _ =>
      mismatchWarning lines marker function.name ++
        [remark (.extracted function.name function.parameters.length function.result)]
  | malformed index _ => [remark (.declarationSkipped (index + 1) (textAt lines index))]
  | dropped marker _ => [remark (.markerDropped (kindAt lines marker).announced (marker + 1))]

end Record

variable {lines}

/-- Records account for what was found and for what was reported. The functions and the skipped places
are those of the records, each list in their order, and the events are theirs, record after record. -/
structure Accounts (records : List (Record lines)) (extraction : Extraction)
    (reported : List TraceEvent) : Prop where
  functions : records.filterMap Record.function? = extraction.functions
  skipped : records.filterMap Record.place? = extraction.skipped
  events : records.flatMap Record.events = reported

/-- Up to a line, the pass keeps pace with the records: whenever it stands before a line, the first few
of them account for what it has found and reported by then. -/
def KeepsPace (records : List (Record lines)) (last : Nat) : Prop :=
  ∀ count ≤ last, ∃ scan soFar, Scan.start.run 1 (lines.take count) = .ok scan ∧
    soFar <+: records ∧ Accounts soFar scan.extraction (scan.notices.map Notice.event)

variable (lines)

/-- What the events of a pass tell, by what the pass comes to. -/
inductive Mirrors : Except ExtractionError Extraction → List TraceEvent → Prop where
  /-- The events of a whole pass are those of its records. -/
  | whole {extraction : Extraction} {reported : List TraceEvent} {records : List (Record lines)}
      (accounts : Accounts records extraction reported)
      (paced : KeepsPace records lines.length) : Mirrors (.ok extraction) reported
  /-- A pass that fails at a line has told what it recorded above, and warns of the line itself where
      its marker announces another name. -/
  | brokenOff {error : ExtractionError} {index marker : Nat} {head : Head} {before : Scan}
      {reported : List TraceEvent} {records : List (Record lines)}
      (clean : ∀ earlier < index, ¬ Faulty lines earlier) (blamed : Blames lines index error)
      (declared : declared? lines index = some head) (waits : Waits lines marker index)
      (ran : Scan.start.run 1 (lines.take index) = .ok before)
      (accounts : Accounts records before.extraction reported)
      (reportedBefore : before.notices.map Notice.event = reported)
      (paced : KeepsPace records index) :
      Mirrors (.error error) (reported ++ mismatchWarning lines marker head.name)

variable {lines}

/-- Events of a mismatch are the warning about it. -/
theorem event_mismatch (marker : Nat) (name : Text) :
    (mismatch (pending lines marker) name).map Notice.event = mismatchWarning lines marker name := by
  by_cases same : (kindAt lines marker).announced = name
  · simp [mismatch, mismatchWarning, pending, same]
  · simp [mismatch, mismatchWarning, pending, same, Notice.event, Notice.isWarning, warning]

/-! ### What one line records -/

/-- A scan that goes on from another one has added some records to what was found and reported. -/
structure Adds (added : List (Record lines)) (scan next : Scan) : Prop where
  functions : next.extraction.functions =
    scan.extraction.functions ++ added.filterMap Record.function?
  skipped : next.extraction.skipped = scan.extraction.skipped ++ added.filterMap Record.place?
  events : next.notices.map Notice.event =
    scan.notices.map Notice.event ++ added.flatMap Record.events

/-- Nothing is added where nothing is found and nothing is reported. -/
theorem adds_nil {scan next : Scan} (sameExtraction : next.extraction = scan.extraction)
    (sameNotices : next.notices = scan.notices) : Adds ([] : List (Record lines)) scan next where
  functions := by simp [sameExtraction]
  skipped := by simp [sameExtraction]
  events := by simp [sameNotices]

/-- Records that are added account for what they add. -/
theorem Accounts.append {records added : List (Record lines)} {scan next : Scan}
    (accounts : Accounts records scan.extraction (scan.notices.map Notice.event))
    (adds : Adds added scan next) :
    Accounts (records ++ added) next.extraction (next.notices.map Notice.event) where
  functions := by rw [List.filterMap_append, accounts.functions, adds.functions]
  skipped := by rw [List.filterMap_append, accounts.skipped, adds.skipped]
  events := by rw [List.flatMap_append, accounts.events, adds.events]

/-- A line at fault leaves what was reported above it and the warning about its marker, if there is
anything to warn of. -/
structure BreaksOff (lines : List Text) (index : Nat) (scan : Scan) (failure : Failure)
    (marker : Nat) (head : Head) : Prop where
  declared : declared? lines index = some head
  waits : Waits lines marker index
  events : failure.notices.map Notice.event =
    scan.notices.map Notice.event ++ mismatchWarning lines marker head.name

namespace Reflects

variable {index : Nat} {scan : Scan}

/-- Giving up the marker that waits records it. -/
theorem adds_dropMarker (reflects : Reflects lines index scan) :
    ∃ added : List (Record lines), Adds added scan scan.dropMarker := by
  have marker := reflects.marker
  cases waiting : waiting? lines index with
  | none =>
    rw [waiting, Option.map_none] at marker
    have same : scan.dropMarker = scan := by simp [Scan.dropMarker, marker]
    exact ⟨[], adds_nil (congrArg _ same) (congrArg _ same)⟩
  | some found =>
    rw [waiting, Option.map_some] at marker
    have isMarker := (waiting?_eq_some_iff.mp waiting).2.1
    refine ⟨[.dropped found isMarker], ?_, ?_, ?_⟩ <;>
      simp [Scan.dropMarker, marker, Scan.skip, Scan.report, Record.function?, Record.place?,
        Record.events, unanswered, pending, Notice.event, Notice.isWarning, remark]

/-- A marked function line is recorded, as a function or as a place, or it breaks the pass off. The name
table and the parameters decide, and the mismatch has been reported before either is looked at. -/
theorem adds_of_marked (reflects : Reflects lines index scan) {marker : Nat}
    (isFunction : kindAt lines index = .function) (waiting : waiting? lines index = some marker) :
    (∃ next, ∃ added : List (Record lines),
        scan.line (index + 1) (lines.getD index []) = .ok next ∧ Adds added scan next) ∨
      ∃ failure head, scan.line (index + 1) (lines.getD index []) = .error failure ∧
        BreaksOff lines index scan failure marker head := by
  have waits : Waits lines marker index := waiting?_eq_some_iff.mp waiting
  have held : scan.marker = some (pending lines marker) := by rw [reflects.marker, waiting]; rfl
  have marked : Marked lines index := marked_iff.mpr ⟨isFunction, marker, waiting⟩
  rw [Scan.line_of_marked isFunction held, ← textAt]
  cases parts : splitDeclaration? (textAt lines index) with
  | none =>
    rw [Scan.declaration_of_unreadable parts]
    refine .inl ⟨_, [.malformed index marked], rfl, ?_, ?_, ?_⟩ <;>
      simp [Scan.clearComment, Scan.skip, Scan.report, Record.function?, Record.place?,
        Record.events, malformed, Notice.event, Notice.isWarning, remark]
  | some head =>
    have declared : declared? lines index = some head := (if_pos marked).trans parts
    have breaksOff (error : ExtractionError) : BreaksOff lines index scan
        ⟨error, scan.notices ++ mismatch (pending lines marker) head.name⟩ marker head :=
      ⟨declared, waits, by rw [List.map_append, event_mismatch]⟩
    rw [Scan.declaration_of_parts parts]
    cases Scan.boundLine? { scan with marker := none } head.name with
    | some firstLine => exact .inr ⟨_, head, rfl, breaksOff _⟩
    | none =>
      cases parseParameters head.parameters head.name (index + 1) with
      | error error => exact .inr ⟨_, head, rfl, breaksOff error⟩
      | ok parameters =>
        let function : ExportedFunction :=
          { name := head.name, comment := Text.join " " scan.comment, parameters,
            result := parseResult head.result, line := index + 1 }
        refine .inl ⟨_, [.bound marker function waits], rfl, rfl, ?_, ?_⟩
        · simp [Scan.clearComment, Record.place?]
        · simp [Scan.clearComment, Record.events, event_mismatch, function, Notice.event,
            Notice.isWarning, remark]

/-- One line adds records, or breaks the pass off. -/
theorem adds_of_line (reflects : Reflects lines index scan) :
    (∃ next, ∃ added : List (Record lines),
        scan.line (index + 1) (lines.getD index []) = .ok next ∧ Adds added scan next) ∨
      ∃ failure marker head, scan.line (index + 1) (lines.getD index []) = .error failure ∧
        BreaksOff lines index scan failure marker head := by
  cases kind : kindAt lines index with
  | marker name =>
    obtain ⟨added, adds⟩ := reflects.adds_dropMarker
    exact .inl ⟨_, added, Scan.line_of_marker kind, adds.functions, adds.skipped, adds.events⟩
  | other =>
    obtain ⟨added, adds⟩ := reflects.adds_dropMarker
    exact .inl ⟨_, added, Scan.line_of_other kind, adds.functions, adds.skipped, adds.events⟩
  | directive => exact .inl ⟨_, [], Scan.line_of_directive kind, adds_nil rfl rfl⟩
  | blank => exact .inl ⟨_, [], Scan.line_of_blank kind, adds_nil rfl rfl⟩
  | comment note =>
    refine .inl ⟨_, [], Scan.line_of_comment kind, adds_nil ?_ ?_⟩ <;> split <;> rfl
  | function =>
    cases waiting : waiting? lines index with
    | some marker =>
      rcases reflects.adds_of_marked kind waiting with adds | ⟨failure, head, failed, breaks⟩
      · exact .inl adds
      · exact .inr ⟨failure, marker, head, failed, breaks⟩
    | none =>
      have noMarker : scan.marker = none := by rw [reflects.marker, waiting]; rfl
      exact .inl ⟨_, [], Scan.line_of_unmarked kind noMarker, adds_nil rfl rfl⟩

end Reflects

/-! ### What the pass records -/

/-- The pass stands before a line with the records of the lines above, and has kept pace with them. -/
structure Chronicle (lines : List Text) (index : Nat) (scan : Scan) (records : List (Record lines)) :
    Prop where
  reflects : Reflects lines index scan
  ran : Scan.start.run 1 (lines.take index) = .ok scan
  accounts : Accounts records scan.extraction (scan.notices.map Notice.event)
  paced : KeepsPace records index

/-- Further records do not disturb the pace of those before them. -/
theorem KeepsPace.append {records : List (Record lines)} {last : Nat} (paced : KeepsPace records last)
    (added : List (Record lines)) : KeepsPace (records ++ added) last := by
  intro count above
  obtain ⟨scan, soFar, ran, first, accounts⟩ := paced count above
  exact ⟨scan, soFar, ran, first.trans (List.prefix_append records added), accounts⟩

/-- Before the first line nothing is recorded. -/
theorem chronicle_start : Chronicle lines 0 Scan.start [] := by
  have accounts : Accounts ([] : List (Record lines)) Scan.start.extraction
      (Scan.start.notices.map Notice.event) := ⟨rfl, rfl, rfl⟩
  refine ⟨reflects_start, rfl, accounts, fun count above => ?_⟩
  obtain rfl := Nat.le_zero.mp above
  exact ⟨Scan.start, [], rfl, List.nil_prefix, accounts⟩

namespace Chronicle

variable {index : Nat} {scan : Scan} {records : List (Record lines)}

/-- The pass goes on to the next line with the records that this one adds, or it is broken off here. -/
theorem step (chronicle : Chronicle lines index scan records) (inside : index < lines.length) :
    (∃ next more, Chronicle lines (index + 1) next more) ∨
      ∃ failure, Scan.start.run 1 lines = .error failure ∧
        Mirrors lines (.error failure.error) (failure.notices.map Notice.event) := by
  have number : 1 + (lines.take index).length = index + 1 := by
    rw [List.length_take_of_le (Nat.le_of_lt inside), Nat.add_comm]
  have here : lines.getD index [] = lines[index] := List.getD_eq_getElem _ _ inside
  rcases chronicle.reflects.adds_of_line with
    ⟨next, added, stepped, adds⟩ | ⟨failure, marker, head, failed, breaks⟩
  · have accounts := chronicle.accounts.append adds
    have ran : Scan.start.run 1 (lines.take (index + 1)) = .ok next := by
      rw [List.take_succ_eq_append_getElem inside, Scan.run_append_of_ok chronicle.ran, number,
        ← here, Scan.run_cons_of_ok stepped]
      rfl
    have reflects : Reflects lines (index + 1) next := by
      rcases chronicle.reflects.step with ⟨other, sameStep, reflects⟩ | ⟨_, failed, _⟩
      · rw [stepped, Except.ok.injEq] at sameStep
        exact sameStep ▸ reflects
      · rw [stepped] at failed
        contradiction
    refine .inl ⟨next, records ++ added, reflects, ran, accounts, fun count above => ?_⟩
    rcases Nat.le_succ_iff.mp above with earlier | rfl
    · exact chronicle.paced.append added count earlier
    · exact ⟨next, records ++ added, ran, List.prefix_rfl, accounts⟩
  · have ran : Scan.start.run 1 lines = .error failure := by
      conv_lhs => rw [← List.take_append_drop index lines]
      rw [Scan.run_append_of_ok chronicle.ran, number, List.drop_eq_getElem_cons inside, ← here,
        Scan.run_cons_of_error failed]
    have blamed : Blames lines index failure.error := by
      rcases chronicle.reflects.step with ⟨_, stepped, _⟩ | ⟨other, sameFailure, blamed⟩
      · rw [failed] at stepped
        contradiction
      · rw [failed, Except.error.injEq] at sameFailure
        exact sameFailure ▸ blamed
    refine .inr ⟨failure, ran, ?_⟩
    rw [breaks.events]
    exact .brokenOff chronicle.reflects.clean blamed breaks.declared breaks.waits chronicle.ran
      chronicle.accounts rfl chronicle.paced

/-- The pass comes to any line with a chronicle, unless it was broken off above. The induction is on the
lines, one step for each. -/
theorem reaches (upTo : index ≤ lines.length) :
    (∃ scan records, Chronicle lines index scan records) ∨
      ∃ failure, Scan.start.run 1 lines = .error failure ∧
        Mirrors lines (.error failure.error) (failure.notices.map Notice.event) := by
  induction index with
  | zero => exact .inl ⟨Scan.start, [], chronicle_start⟩
  | succ index inductionHypothesis =>
    rcases inductionHypothesis (Nat.le_of_succ_le upTo) with ⟨scan, records, chronicle⟩ | broken
    · exact chronicle.step upTo
    · exact .inr broken

/-- At the end of the source the marker that still waits is recorded as well. -/
theorem mirrors (chronicle : Chronicle lines lines.length scan records) :
    Mirrors lines (.ok scan.dropMarker.extraction) (scan.dropMarker.notices.map Notice.event) := by
  obtain ⟨added, adds⟩ := chronicle.reflects.adds_dropMarker
  exact .whole (chronicle.accounts.append adds) (chronicle.paced.append added)

end Chronicle

/-- The events of an extraction mirror what it comes to. They are put out in their order and nothing
else is. Where it succeeds there is one list of records, which is at once that of the functions and of
the skipped places, each in their order, and that of the events: a remark for each place, and for each
function a warning, just where its marker announces another name, with a remark right behind it. The pass
keeps pace with this list, so that a record is reported when it is made. Where it fails, the same is true
of the lines above the one at fault, and all that is reported of that line is the warning. -/
theorem events_mirror (source : Text) (host : Host) :
    (extractReporting source).on host = ((extract source).mapError .invalid,
        { host with emissions := host.emissions ++ (events source).map .event }) ∧
      Mirrors (Text.lines source) (extract source) (events source) := by
  refine ⟨?_, ?_⟩
  · rw [extractReporting_on, events, List.map_map]
    rfl
  · rcases Chronicle.reaches (Nat.le_refl (Text.lines source).length) with
      ⟨scan, records, chronicle⟩ | ⟨failure, ran, mirrors⟩
    · have ran := chronicle.ran
      rw [List.take_length] at ran
      have scanned : scanText source = .ok scan.dropMarker := by rw [scanText, ran]; rfl
      rw [events, notices, extract, scanned]
      exact chronicle.mirrors
    · have scanned : scanText source = .error failure := by rw [scanText, ran]; rfl
      rw [events, notices, extract, scanned]
      exact mirrors

/-- A host with nothing on it. -/
def emptyHost : Host where
  files := ⟨[]⟩
  directory := []
  environment := []
  clock := ⟨"2024-05-01", "12:00", "3"⟩
  isColored := false
  input := []
  log := ⟨0, none⟩
  emissions := []
  launches := []

/-- The events at a source whose three markers come to a function of another name, a malformed
declaration and nothing. The last one is given up at the end. -/
def mixedEvents : List TraceEvent :=
  [warning (.nameMismatch "Tick" 3 "Step"), remark (.extracted "Step" 2 "int, error"),
    remark (.declarationSkipped 7 "func Broken(a int"), remark (.markerDropped "End" 8)]

/-- The events at a source whose last declaration repeats a name, under a marker of another name. -/
def clashingEvents : List TraceEvent :=
  [remark (.declarationSkipped 3 "func Tick(by int"), remark (.extracted "Tick" 0 "void"),
    warning (.nameMismatch "Again" 6 "Tick")]

/-- The law at a source that is extracted and at one that fails. -/
theorem events_mirror_mixed :
    (extractReporting mixed).on emptyHost =
        (.ok mixedExtraction, { emptyHost with emissions := mixedEvents.map .event }) ∧
      Mirrors (Text.lines mixed) (.ok mixedExtraction) mixedEvents ∧
      (extractReporting clashing).on emptyHost =
        (.error (.invalid (.duplicateExport "Tick" 5 7)),
          { emptyHost with emissions := clashingEvents.map .event }) ∧
      Mirrors (Text.lines clashing) (.error (.duplicateExport "Tick" 5 7)) clashingEvents := by
  have found : extract mixed = .ok mixedExtraction := rfl
  have failed : extract clashing = .error (.duplicateExport "Tick" 5 7) := rfl
  obtain ⟨reported, mirrors⟩ := events_mirror mixed emptyHost
  obtain ⟨reportedFailing, mirrorsFailing⟩ := events_mirror clashing emptyHost
  rw [found, show events mixed = mixedEvents from rfl] at reported mirrors
  rw [failed, show events clashing = clashingEvents from rfl] at reportedFailing mirrorsFailing
  exact ⟨reported, mirrors, reportedFailing, mirrorsFailing⟩

end FfiBindings.Source
