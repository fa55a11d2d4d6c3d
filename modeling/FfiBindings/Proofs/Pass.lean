import FfiBindings.Proofs.MarkerFate
import FfiBindings.Proofs.Steps
import Mathlib.Data.List.Forall2

/-!
# What the pass has in mind

Between two lines the pass holds exactly what looking back from there tells: the marker that waits,
the notes of the comment, the descriptors of the declared lines and the places of the markers that
led to none. A faulty line is a declared line that repeats an earlier name or has a parameter
without a type. The pass ends at the first faulty line with the error that looking back blames on
it, and otherwise reaches the end with everything found.

The invariant is established before the first line and preserved by each step; a run carries it to
the end of the source or to the first fault.
-/

namespace FfiBindings.Source

variable (lines : List Text)

/-- A declared line repeats a name when an earlier declared line bears it. -/
def Repeats (index : Nat) : Prop :=
  ∃ head, declared? lines index = some head ∧
    ∃ earlier < index, ∃ first, declared? lines earlier = some first ∧ first.name = head.name

/-- A declared line is untyped when its parameters cannot all be given a type. -/
def Untyped (index : Nat) : Prop :=
  ∃ head error, declared? lines index = some head ∧
    parseParameters head.parameters head.name (index + 1) = .error error

/-- The lines that end a pass. -/
def Faulty (index : Nat) : Prop := Repeats lines index ∨ Untyped lines index

/-- The error that a faulty line is blamed for: its repeated name or else its parameters. -/
inductive Blames (index : Nat) : ExtractionError → Prop where
  | repeated {head first : Head} {earlier : Nat} (declared : declared? lines index = some head)
      (above : earlier < index) (declaredFirst : declared? lines earlier = some first)
      (same : first.name = head.name) :
      Blames index (.duplicateExport head.name (earlier + 1) (index + 1))
  | untyped {head : Head} {error : ExtractionError} (declared : declared? lines index = some head)
      (fresh : ¬ Repeats lines index)
      (untyped : parseParameters head.parameters head.name (index + 1) = .error error) :
      Blames index error

/-- What the pass keeps of a marker that waits. -/
def pending (marker : Nat) : PendingMarker :=
  { name := (kindAt lines marker).announced, line := marker + 1, text := textAt lines marker }

/-- The pass has in mind before a line what looking back from there tells. -/
structure Reflects (index : Nat) (scan : Scan) : Prop where
  clean : ∀ earlier < index, ¬ Faulty lines earlier
  marker : scan.marker = (waiting? lines index).map (pending lines)
  comment : scan.comment = notesBefore lines index
  functions : (declarationsBefore lines index).mapM (describe lines) = .ok scan.extraction.functions
  skipped : scan.extraction.skipped =
    ((settled lines index).map (fate lines)).filterMap Fate.place?

variable {lines}

/-- Before the first line there is nothing to look back at. -/
theorem reflects_start : Reflects lines 0 Scan.start where
  clean := by simp
  marker := rfl
  comment := rfl
  functions := rfl
  skipped := rfl

/-- A list of declarations is described as a whole exactly when each member is. -/
theorem mapM_eq_ok_iff {α β ε : Type} {describe : α → Except ε β} {inputs : List α}
    {outputs : List β} : inputs.mapM describe = .ok outputs ↔
      List.Forall₂ (fun input output => describe input = .ok output) inputs outputs := by
  induction inputs generalizing outputs with
  | nil =>
    rw [List.mapM_nil, List.forall₂_nil_left_iff]
    exact ⟨fun same => (Except.ok.inj same).symm, fun empty => empty ▸ rfl⟩
  | cons input rest inductionHypothesis =>
    rw [List.mapM_cons, List.forall₂_cons_left_iff]
    cases describe input with
    | error error => simp [bind, Except.bind]
    | ok output =>
      cases others : rest.mapM describe with
      | error error =>
        simp only [bind, Except.bind, reduceCtorEq, false_iff, not_exists, not_and]
        rintro _ tail - described
        rw [inductionHypothesis.mpr described] at others
        contradiction
      | ok tail =>
        have described := inductionHypothesis.mp others
        constructor
        · intro same
          exact ⟨output, tail, rfl, described, (Except.ok.inj same).symm⟩
        · rintro ⟨_, _, ⟨⟩, otherDescribed, rfl⟩
          rw [inductionHypothesis.mpr otherDescribed] at others
          rw [Except.ok.inj others]
          rfl

/-- A declaration above a line is a declared line there with its parts. -/
theorem mem_declarationsBefore_iff {index : Nat} {declaration : Declaration} :
    declaration ∈ declarationsBefore lines index ↔
      declaration.index < index ∧ declared? lines declaration.index = some declaration.head := by
  simp only [declarationsBefore, List.mem_filterMap, List.mem_range, Option.map_eq_some_iff]
  constructor
  · rintro ⟨line, above, head, declared, rfl⟩
    exact ⟨above, declared⟩
  · rintro ⟨above, declared⟩
    exact ⟨declaration.index, above, declaration.head, declared, rfl⟩

/-- A line that is not declared cannot be faulty. -/
theorem not_faulty_of_undeclared {index : Nat} (undeclared : declared? lines index = none) :
    ¬ Faulty lines index := by
  rintro (⟨head, declared, _⟩ | ⟨head, _, declared, _⟩) <;> simp [undeclared] at declared

/-- A descriptor bears the name and the line of its declaration. -/
theorem name_line_of_describe {declaration : Declaration} {function : ExportedFunction}
    (described : describe lines declaration = .ok function) :
    function.name = declaration.head.name ∧ function.line = declaration.index + 1 := by
  unfold describe at described
  cases parsed : parseParameters declaration.head.parameters declaration.head.name
      (declaration.index + 1) with
  | error error => simp [parsed, bind, Except.bind] at described
  | ok parameters =>
    rw [parsed] at described
    cases described
    exact ⟨rfl, rfl⟩

/-- The descriptors stand on the lines of their declarations. -/
theorem lines_of_described {declarations : List Declaration} {functions : List ExportedFunction}
    (described : declarations.mapM (describe lines) = .ok functions) :
    functions.map (·.line) = declarations.map fun declaration => declaration.index + 1 := by
  have pairs := mapM_eq_ok_iff.mp described
  clear described
  induction pairs with
  | nil => rfl
  | cons here _ inductionHypothesis =>
    rw [List.map_cons, List.map_cons, (name_line_of_describe here).2, inductionHypothesis]

/-- Every member of a list has its counterpart in a related list. -/
theorem exists_of_mem_right {α β : Type} {related : α → β → Prop} {inputs : List α}
    {outputs : List β} {output : β} (pairs : List.Forall₂ related inputs outputs)
    (member : output ∈ outputs) : ∃ input ∈ inputs, related input output := by
  induction pairs with
  | nil => contradiction
  | @cons input first _ _ here _ inductionHypothesis =>
    rcases List.mem_cons.mp member with rfl | later
    · exact ⟨input, List.mem_cons_self, here⟩
    · obtain ⟨other, otherMember, otherRelated⟩ := inductionHypothesis later
      exact ⟨other, List.mem_cons_of_mem _ otherMember, otherRelated⟩

/-- Every descriptor comes from a declaration. -/
theorem exists_declaration_of_mem {declarations : List Declaration}
    {functions : List ExportedFunction} {function : ExportedFunction}
    (described : declarations.mapM (describe lines) = .ok functions)
    (member : function ∈ functions) :
    ∃ declaration ∈ declarations, describe lines declaration = .ok function := by
  have pairs := mapM_eq_ok_iff.mp described
  obtain ⟨declaration, isDeclaration, here⟩ := exists_of_mem_right pairs member
  exact ⟨declaration, isDeclaration, here⟩

/-- Every declaration gives a descriptor. -/
theorem exists_function_of_mem {declarations : List Declaration}
    {functions : List ExportedFunction} {declaration : Declaration}
    (described : declarations.mapM (describe lines) = .ok functions)
    (member : declaration ∈ declarations) :
    ∃ function ∈ functions, describe lines declaration = .ok function := by
  have pairs : List.Forall₂ (fun function declaration => describe lines declaration = .ok function)
      functions declarations := (mapM_eq_ok_iff.mp described).flip
  obtain ⟨function, isFunction, here⟩ := exists_of_mem_right pairs member
  exact ⟨function, isFunction, here⟩

/-- The first descriptor of a name stands for the first declaration of it. -/
theorem find?_described {declarations : List Declaration} {functions : List ExportedFunction}
    (described : List.Forall₂
      (fun declaration function => describe lines declaration = .ok function) declarations functions)
    (name : Text) :
    (functions.find? (·.name == name)).map (·.line) =
      (declarations.find? (·.head.name == name)).map (·.index + 1) := by
  induction described with
  | nil => rfl
  | @cons declaration function declarations functions here _ inductionHypothesis =>
    obtain ⟨sameName, sameLine⟩ := name_line_of_describe here
    rw [List.find?_cons, List.find?_cons, sameName]
    cases declaration.head.name == name with
    | true => simp [sameLine]
    | false => exact inductionHypothesis

namespace Reflects

variable {index : Nat} {scan : Scan}

/-- A marker that is given up at a line is recorded as the place it leads to, since that line
answers it and declares nothing. -/
theorem skipped_dropMarker (reflects : Reflects lines index scan)
    (stops : (kindAt lines index).isPassedOver = false)
    (notFunction : kindAt lines index ≠ .function) :
    scan.dropMarker.extraction.skipped =
      ((settled lines (index + 1)).map (fate lines)).filterMap Fate.place? := by
  rw [Scan.dropMarker_skipped, reflects.skipped, settled_succ_of_stops stops, List.map_append,
    List.filterMap_append, reflects.marker]
  congr 1
  cases waiting : waiting? lines index with
  | none => rfl
  | some marker =>
    have answered := answer?_of_waits (waiting?_eq_some_iff.mp waiting) stops
    simp [fate, answered, notFunction, Fate.place?, pending, unanswered]

/-- A line that declares nothing leaves the descriptors as they are. -/
theorem functions_of_undeclared (reflects : Reflects lines index scan)
    (undeclared : declared? lines index = none) :
    (declarationsBefore lines (index + 1)).mapM (describe lines) =
      .ok scan.extraction.functions := by
  rw [declarationsBefore_succ, undeclared, Option.map_none, Option.toList_none, List.append_nil]
  exact reflects.functions

/-- A line without fault keeps all lines so far clean. -/
theorem clean_succ (reflects : Reflects lines index scan) (faultless : ¬ Faulty lines index) :
    ∀ earlier < index + 1, ¬ Faulty lines earlier := by
  intro earlier above
  rcases Nat.lt_succ_iff_lt_or_eq.mp above with earlierStill | rfl
  · exact reflects.clean earlier earlierStill
  · exact faultless

/-- A line that is passed over adds at most its note. -/
theorem passed (reflects : Reflects lines index scan)
    (passed : (kindAt lines index).isPassedOver = true) {next : Scan}
    (sameMarker : next.marker = scan.marker) (sameExtraction : next.extraction = scan.extraction)
    (noted : next.comment = scan.comment ++ ((kindAt lines index).note?).toList) :
    Reflects lines (index + 1) next := by
  have undeclared := declared?_of_not_function (not_function_of_passed passed)
  constructor
  · exact reflects.clean_succ (not_faulty_of_undeclared undeclared)
  · rw [sameMarker, reflects.marker, waiting?_succ_of_passed passed]
  · rw [noted, reflects.comment, notesBefore_succ_of_not_ends (not_ends_of_passed passed)]
  · rw [sameExtraction]
    exact reflects.functions_of_undeclared undeclared
  · rw [sameExtraction, reflects.skipped, settled_succ_of_passed passed]

/-- A marker takes the place of the one that waited, and the comment goes on. -/
theorem replaced (reflects : Reflects lines index scan) {name : Text}
    (isMarker : kindAt lines index = .marker name) :
    Reflects lines (index + 1)
      { scan.dropMarker with marker := some ⟨name, index + 1, textAt lines index⟩ } := by
  have stops : (kindAt lines index).isPassedOver = false := by rw [isMarker]; rfl
  have notFunction : kindAt lines index ≠ .function := by simp [isMarker]
  have undeclared := declared?_of_not_function notFunction
  have continues : ¬ EndsComment lines index := by
    rintro (isOther | ⟨isFunction, _⟩)
    · simp [isMarker] at isOther
    · exact notFunction isFunction
  constructor
  · exact reflects.clean_succ (not_faulty_of_undeclared undeclared)
  · simp [waiting?, isMarker, LineKind.isMarker, pending, LineKind.announced]
  · rw [notesBefore_succ_of_not_ends continues, isMarker]
    simp [LineKind.note?, reflects.comment]
  · simpa using reflects.functions_of_undeclared undeclared
  · exact reflects.skipped_dropMarker stops notFunction

/-- A statement gives up the marker and ends the comment. -/
theorem ended (reflects : Reflects lines index scan) (isOther : kindAt lines index = .other) :
    Reflects lines (index + 1) scan.dropMarker.clearComment := by
  have stops : (kindAt lines index).isPassedOver = false := by rw [isOther]; rfl
  have notFunction : kindAt lines index ≠ .function := by simp [isOther]
  have undeclared := declared?_of_not_function notFunction
  constructor
  · exact reflects.clean_succ (not_faulty_of_undeclared undeclared)
  · simp [Scan.clearComment, waiting?, isOther, LineKind.isMarker, LineKind.isPassedOver]
  · rw [notesBefore_succ_of_ends (.inl isOther)]
    rfl
  · simpa [Scan.clearComment] using reflects.functions_of_undeclared undeclared
  · exact reflects.skipped_dropMarker stops notFunction

/-- An unmarked function changes nothing; in particular it ends no comment. -/
theorem unmarked (reflects : Reflects lines index scan)
    (isFunction : kindAt lines index = .function) (none : waiting? lines index = none) :
    Reflects lines (index + 1) scan := by
  have notMarked : ¬ Marked lines index := by simp [marked_iff, none]
  have undeclared : declared? lines index = .none := if_neg notMarked
  have continues : ¬ EndsComment lines index := by
    rintro (isOther | marked)
    · simp [isFunction] at isOther
    · exact notMarked marked
  have stops := stops_of_function isFunction
  constructor
  · exact reflects.clean_succ (not_faulty_of_undeclared undeclared)
  · rw [reflects.marker, none]
    simp [waiting?, isFunction, LineKind.isMarker, LineKind.isPassedOver]
  · rw [notesBefore_succ_of_not_ends continues, isFunction, reflects.comment]
    simp [LineKind.note?]
  · exact reflects.functions_of_undeclared undeclared
  · rw [reflects.skipped, settled_succ_of_stops stops, none]
    simp

/-- The names in mind are those of the declared lines above: a name is bound exactly when the line
at hand would repeat it. -/
theorem boundLine?_eq (reflects : Reflects lines index scan) (name : Text) :
    scan.boundLine? name =
      ((declarationsBefore lines index).find? (·.head.name == name)).map (·.index + 1) :=
  find?_described (mapM_eq_ok_iff.mp reflects.functions) name

/-- A marked function line that cannot be split is recorded as a place of its own, and it uses up
the marker and the comment like one that can. -/
theorem unreadable (reflects : Reflects lines index scan) {marker : Nat}
    (isFunction : kindAt lines index = .function) (waiting : waiting? lines index = some marker)
    (parts : splitDeclaration? (textAt lines index) = none) :
    Reflects lines (index + 1)
      ((Scan.report { scan with marker := none } (.declarationSkipped (index + 1)
        (textAt lines index))).skip (malformed lines index)).clearComment := by
  have stops := stops_of_function isFunction
  have answered := answer?_of_waits (waiting?_eq_some_iff.mp waiting) stops
  have marked : Marked lines index := marked_iff.mpr ⟨isFunction, marker, waiting⟩
  have undeclared : declared? lines index = none := (if_pos marked).trans parts
  constructor
  · exact reflects.clean_succ (not_faulty_of_undeclared undeclared)
  · simp [Scan.clearComment, Scan.skip, Scan.report, waiting?, isFunction, LineKind.isMarker,
      LineKind.isPassedOver]
  · rw [notesBefore_succ_of_ends (.inr marked)]
    rfl
  · exact reflects.functions_of_undeclared undeclared
  · rw [settled_succ_of_stops stops, List.map_append, List.filterMap_append, ← reflects.skipped,
      waiting]
    simp [Scan.clearComment, Scan.skip, Scan.report, fate, answered, isFunction, parts, Fate.place?]

/-- A declaration without fault is bound under the comment gathered above it. -/
theorem bound (reflects : Reflects lines index scan) {marker : Nat} {head : Head}
    {parameters : List Parameter} (notices : List Notice)
    (isFunction : kindAt lines index = .function) (waiting : waiting? lines index = some marker)
    (declared : declared? lines index = some head) (fresh : ¬ Repeats lines index)
    (typed : parseParameters head.parameters head.name (index + 1) = .ok parameters) :
    Reflects lines (index + 1)
      (Scan.clearComment { scan with
        marker := none
        extraction := { scan.extraction with
          functions := scan.extraction.functions ++
            [{ name := head.name, comment := Text.join " " scan.comment, parameters,
               result := parseResult head.result, line := index + 1 }] }
        notices }) := by
  have stops := stops_of_function isFunction
  have answered := answer?_of_waits (waiting?_eq_some_iff.mp waiting) stops
  have marked : Marked lines index := marked_iff.mpr ⟨isFunction, marker, waiting⟩
  have parts : splitDeclaration? (textAt lines index) = some head := by
    simpa [declared?, marked] using declared
  have faultless : ¬ Faulty lines index := by
    rintro (repeated | ⟨other, error, otherDeclared, untyped⟩)
    · exact fresh repeated
    · rw [declared, Option.some.injEq] at otherDeclared
      rw [← otherDeclared, typed] at untyped
      contradiction
  constructor
  · exact reflects.clean_succ faultless
  · simp [Scan.clearComment, waiting?, isFunction, LineKind.isMarker, LineKind.isPassedOver]
  · rw [notesBefore_succ_of_ends (.inr marked)]
    rfl
  · have described : describe lines ⟨index, head⟩ = .ok
        { name := head.name, comment := Text.join " " scan.comment, parameters,
          result := parseResult head.result, line := index + 1 } := by
      rw [describe, typed, reflects.comment, ← commentBefore_eq_join]
      rfl
    rw [declarationsBefore_succ, declared, List.mapM_append, reflects.functions]
    simp [described, Scan.clearComment, bind, Except.bind, pure, Except.pure]
  · rw [settled_succ_of_stops stops, List.map_append, List.filterMap_append, ← reflects.skipped,
      waiting]
    simp [Scan.clearComment, fate, answered, isFunction, parts, Fate.place?]

/-- A marked function is bound, recorded as unreadable, or faulty, and then the pass ends with the
error that looking back blames on it.

The name table answers first: by `boundLine?_eq` a name in it is that of an earlier declared line,
and one that is not in it is fresh, so the parameters decide. -/
theorem marked (reflects : Reflects lines index scan) {marker : Nat}
    (isFunction : kindAt lines index = .function) (waiting : waiting? lines index = some marker) :
    (∃ next, scan.line (index + 1) (lines.getD index []) = .ok next ∧
        Reflects lines (index + 1) next) ∨
      ∃ failure, scan.line (index + 1) (lines.getD index []) = .error failure ∧
        Blames lines index failure.error := by
  have waits : scan.marker = some (pending lines marker) := by rw [reflects.marker, waiting]; rfl
  have marked : Marked lines index := marked_iff.mpr ⟨isFunction, marker, waiting⟩
  rw [Scan.line_of_marked isFunction waits]
  cases parts : splitDeclaration? (textAt lines index) with
  | none =>
    exact .inl ⟨_, by rw [← textAt, Scan.declaration_of_unreadable parts]; rfl,
      reflects.unreadable isFunction waiting parts⟩
  | some head =>
    have declared : declared? lines index = some head := (if_pos marked).trans parts
    have table : Scan.boundLine? { scan with marker := none } head.name =
        ((declarationsBefore lines index).find? (·.head.name == head.name)).map (·.index + 1) :=
      reflects.boundLine?_eq head.name
    rw [← textAt, Scan.declaration_of_parts parts, table]
    cases found : (declarationsBefore lines index).find? (·.head.name == head.name) with
    | some first =>
      obtain ⟨above, declaredFirst⟩ :=
        mem_declarationsBefore_iff.mp (List.mem_of_find?_eq_some found)
      have same : first.head.name = head.name := by simpa using List.find?_some found
      exact .inr ⟨_, rfl, .repeated declared above declaredFirst same⟩
    | none =>
      have fresh : ¬ Repeats lines index := by
        rintro ⟨other, otherDeclared, earlier, above, first, declaredFirst, same⟩
        rw [declared, Option.some.injEq] at otherDeclared
        have member : ⟨earlier, first⟩ ∈ declarationsBefore lines index :=
          mem_declarationsBefore_iff.mpr ⟨above, declaredFirst⟩
        have different := List.find?_eq_none.mp found _ member
        simp [same, otherDeclared] at different
      cases parsed : parseParameters head.parameters head.name (index + 1) with
      | error error => exact .inr ⟨_, rfl, .untyped declared fresh parsed⟩
      | ok parameters =>
        exact .inl ⟨_, rfl, reflects.bound _ isFunction waiting declared fresh parsed⟩

/-- One step keeps the reflection, or ends the pass with the error blamed on the line. -/
theorem step (reflects : Reflects lines index scan) :
    (∃ next, scan.line (index + 1) (lines.getD index []) = .ok next ∧
        Reflects lines (index + 1) next) ∨
      ∃ failure, scan.line (index + 1) (lines.getD index []) = .error failure ∧
        Blames lines index failure.error := by
  cases kind : kindAt lines index with
  | marker name => exact .inl ⟨_, Scan.line_of_marker kind, reflects.replaced kind⟩
  | directive =>
    refine .inl ⟨_, Scan.line_of_directive kind, reflects.passed (by rw [kind]; rfl) rfl rfl ?_⟩
    simp [kind, LineKind.note?]
  | blank =>
    refine .inl ⟨_, Scan.line_of_blank kind, reflects.passed (by rw [kind]; rfl) rfl rfl ?_⟩
    simp [kind, LineKind.note?]
  | comment note =>
    refine .inl ⟨_, Scan.line_of_comment kind, reflects.passed (by rw [kind]; rfl) ?_ ?_ ?_⟩ <;>
      cases empty : note.isEmpty <;> simp_all [LineKind.note?]
  | other => exact .inl ⟨_, Scan.line_of_other kind, reflects.ended kind⟩
  | function =>
    cases waiting : waiting? lines index with
    | some marker => exact reflects.marked kind waiting
    | none =>
      have noMarker : scan.marker = none := by rw [reflects.marker, waiting]; rfl
      exact .inl ⟨_, Scan.line_of_unmarked kind noMarker, reflects.unmarked kind waiting⟩

/-- A run over the remaining lines reaches the end and reflects the whole source, or ends at a line
that is blamed and above which, by the reflection, none is faulty. The induction is on the remaining
lines, one step for each. -/
theorem run (reflects : Reflects lines index scan) (upTo : index ≤ lines.length) :
    (∃ final, scan.run (index + 1) (lines.drop index) = .ok final ∧
        Reflects lines lines.length final) ∨
      ∃ faulty before failure, scan.run (index + 1) (lines.drop index) = .error failure ∧
        Reflects lines faulty before ∧ Blames lines faulty failure.error := by
  generalize remaining : lines.drop index = rest
  induction rest generalizing index scan with
  | nil =>
    have atEnd : index = lines.length := Nat.le_antisymm upTo (List.drop_eq_nil_iff.mp remaining)
    exact .inl ⟨scan, rfl, atEnd ▸ reflects⟩
  | cons raw rest inductionHypothesis =>
    have inside : index < lines.length := by
      by_contra past
      simp [List.drop_eq_nil_of_le (Nat.le_of_not_lt past)] at remaining
    rw [List.drop_eq_getElem_cons inside, List.cons.injEq] at remaining
    have here : lines.getD index [] = raw := by
      rw [List.getD_eq_getElem _ _ inside, remaining.1]
    rcases reflects.step with ⟨next, stepped, nextReflects⟩ | ⟨failure, stepped, blamed⟩
    · rw [here] at stepped
      rw [Scan.run_cons_of_ok stepped]
      exact inductionHypothesis nextReflects inside remaining.2
    · rw [here] at stepped
      exact .inr ⟨index, scan, failure, Scan.run_cons_of_error stepped, reflects, blamed⟩

end Reflects

/-- What a whole pass comes to: everything found, when no line is faulty, or else the error of the
first faulty line. -/
theorem scanText_cases (source : Text) :
    (∃ final, scanText source = .ok final.dropMarker ∧
        Reflects (Text.lines source) (Text.lines source).length final) ∨
      ∃ faulty before failure, scanText source = .error failure ∧
        Reflects (Text.lines source) faulty before ∧
        Blames (Text.lines source) faulty failure.error := by
  have start : Reflects (Text.lines source) 0 Scan.start := reflects_start
  rcases start.run (Nat.zero_le _) with
    ⟨final, ran, reflects⟩ | ⟨faulty, before, failure, ran, reflects, blamed⟩
  · rw [Nat.zero_add, List.drop_zero] at ran
    exact .inl ⟨final, by rw [scanText, ran]; rfl, reflects⟩
  · rw [Nat.zero_add, List.drop_zero] at ran
    exact .inr ⟨faulty, before, failure, by rw [scanText, ran]; rfl, reflects, blamed⟩

end FfiBindings.Source
