import FfiBindings.Proofs.Descriptors

/-!
# Extraction from one source after another

A statement line leaves nothing behind: no comment is gathered below it and no marker waits. So a
source that ends in one can be followed by another, and the pass over both does with the second what
it does with it alone, only that all lines are counted from further down and that the functions of
the first are already bound. The names of those are all that reaches over the border. A run over the
second source either goes along with the run over it alone to the end, or ends at the first function
whose name is bound.
-/

namespace FfiBindings.Source

/-- A marker that stands below some lines. -/
def PendingMarker.below (above : Nat) (marker : PendingMarker) : PendingMarker :=
  { marker with line := above + marker.line }

/-- A function that stands below some lines. -/
def ExportedFunction.below (above : Nat) (function : ExportedFunction) : ExportedFunction :=
  { function with line := above + function.line }

/-- A skipped place that stands below some lines. -/
def SkippedLine.below (above : Nat) (place : SkippedLine) : SkippedLine :=
  { place with line := above + place.line }

namespace Extraction

/-- What is found when some lines stand above the source. -/
def below (above : Nat) (found : Extraction) : Extraction :=
  ⟨found.functions.map (·.below above), found.skipped.map (·.below above)⟩

/-- What was found first, and then what was found later. -/
def followedBy (first second : Extraction) : Extraction :=
  ⟨first.functions ++ second.functions, first.skipped ++ second.skipped⟩

/-- Whether a function bears a name. -/
def Binds (found : Extraction) (name : Text) : Prop :=
  ∃ function ∈ found.functions, function.name = name

/-- No function of the one bears the name of a function of the other. -/
def Apart (first second : Extraction) : Prop :=
  ∀ function ∈ second.functions, ¬ first.Binds function.name

instance (found : Extraction) (name : Text) : Decidable (found.Binds name) :=
  inferInstanceAs (Decidable (∃ function ∈ found.functions, function.name = name))

instance (first second : Extraction) : Decidable (first.Apart second) :=
  inferInstanceAs (Decidable (∀ function ∈ second.functions, ¬ first.Binds function.name))

end Extraction

/-- The last line of a source is a statement, and it is ended by a line feed. -/
def EndsInStatement (source : Text) : Prop :=
  source.getLast? = some '\n' ∧
    ∃ last, (Text.lines source).getLast? = some last ∧ classify (Text.trim last) = .other

namespace Scan

variable {alone whole next final : Scan} {above number : Nat} {found : Extraction}
  {raw text name : Text} {marker : PendingMarker} {new more : List ExportedFunction}
  {result : Except Failure Scan}

/-- A scan has in mind what another one has, from further down, after something was found. -/
structure Continues (above : Nat) (found : Extraction) (alone whole : Scan) : Prop where
  comment : whole.comment = alone.comment
  marker : whole.marker = alone.marker.map (·.below above)
  functions : whole.extraction.functions =
    found.functions ++ alone.extraction.functions.map (·.below above)
  skipped : whole.extraction.skipped =
    found.skipped ++ alone.extraction.skipped.map (·.below above)

/-- A pass that ended because one of some functions, the first such, bears a name that was bound
before. -/
def Clashes (above : Nat) (found : Extraction) (new : List ExportedFunction)
    (result : Except Failure Scan) : Prop :=
  ∃ before repeated after bearer notices, new = before ++ repeated :: after ∧
    (∀ other ∈ before, ¬ found.Binds other.name) ∧ bearer ∈ found.functions ∧
    bearer.name = repeated.name ∧
    result = .error ⟨.duplicateExport repeated.name bearer.line (above + repeated.line), notices⟩

/-- What becomes of a pass that adds some functions when it is done from further down: it adds the
same ones, or ends at the first whose name was bound before. -/
def Follows (above : Nat) (found : Extraction) (new : List ExportedFunction) (next : Scan)
    (result : Except Failure Scan) : Prop :=
  ((∀ function ∈ new, ¬ found.Binds function.name) ∧
      ∃ moved, result = .ok moved ∧ Continues above found next moved) ∨
    Clashes above found new result

/-- Whatever a scan has in mind can be had in mind from further down. -/
theorem exists_continues (above : Nat) (found : Extraction) (alone : Scan) :
    ∃ whole, Continues above found alone whole :=
  ⟨⟨alone.comment, alone.marker.map (·.below above),
    found.followedBy (alone.extraction.below above), []⟩, rfl, rfl, rfl, rfl⟩

namespace Continues

/-- Where nothing is added nothing can clash. -/
theorem follows (continues : Continues above found next whole) :
    Follows above found [] next (.ok whole) :=
  .inl ⟨List.forall_mem_nil _, whole, rfl, continues⟩

theorem forgetMarker (continues : Continues above found alone whole) :
    Continues above found { alone with marker := none } { whole with marker := none } :=
  ⟨continues.comment, rfl, continues.functions, continues.skipped⟩

theorem clearComment (continues : Continues above found alone whole) :
    Continues above found alone.clearComment whole.clearComment :=
  ⟨rfl, continues.marker, continues.functions, continues.skipped⟩

/-- What is found is what was found before and then what is found alone. -/
theorem extraction (continues : Continues above found alone whole) :
    whole.extraction = found.followedBy (alone.extraction.below above) := by
  obtain ⟨functions, skipped⟩ := And.intro continues.functions continues.skipped
  cases shape : whole.extraction
  rw [shape] at functions skipped
  simp only at functions skipped
  rw [functions, skipped]
  rfl

/-- A marker is given up here and there, each under its own line. -/
theorem dropMarker (continues : Continues above found alone whole) :
    Continues above found alone.dropMarker whole.dropMarker := by
  constructor
  · simpa using continues.comment
  · simp
  · simpa using continues.functions
  · rw [dropMarker_skipped, dropMarker_skipped, continues.skipped, continues.marker,
      List.map_append, List.append_assoc]
    cases alone.marker <;> rfl

/-- A name that is not bound in the source itself is bound exactly if it was before. -/
theorem boundLine?_of_unbound (continues : Continues above found alone whole)
    (unbound : alone.boundLine? name = none) :
    whole.boundLine? name = (found.functions.find? (·.name == name)).map (·.line) := by
  have absent : (alone.extraction.functions.map (·.below above)).find? (·.name == name) = none := by
    rw [boundLine?, Option.map_eq_none_iff] at unbound
    rw [List.find?_map, Option.map_eq_none_iff]
    exact unbound
  rw [boundLine?, continues.functions, List.find?_append, absent, Option.or_none]

end Continues

/-- The line of a declaration shows only in an error about its parameters. -/
theorem parseParameters_of_ok {list function : Text} {parameters : List Parameter}
    (parsed : parseParameters list function number = .ok parameters) (other : Nat) :
    parseParameters list function other = .ok parameters := by
  unfold parseParameters at parsed ⊢
  split at parsed
  · exact parsed
  · contradiction

/-- A declaration that is recorded or bound where it stands alone is so from further down, unless its
name was bound before. -/
theorem Continues.declaration (continues : Continues above found alone whole)
    (declared : alone.declaration marker number text = .ok next) :
    ∃ new, next.extraction.functions = alone.extraction.functions ++ new ∧
      Follows above found new next
        (whole.declaration (marker.below above) (above + number) text) := by
  cases parts : splitDeclaration? text with
  | none =>
    rw [declaration_of_unreadable parts] at declared ⊢
    obtain rfl := Except.ok.inj declared
    refine ⟨[], (List.append_nil _).symm, follows ⟨continues.comment, continues.marker,
      continues.functions, ?_⟩⟩
    simp [skip, report, continues.skipped, SkippedLine.below]
  | some head =>
    rw [declaration_of_parts parts] at declared ⊢
    cases unbound : alone.boundLine? head.name with
    | some firstLine => simp [unbound] at declared
    | none =>
      cases parsed : parseParameters head.parameters head.name number with
      | error error => simp [unbound, parsed] at declared
      | ok parameters =>
        simp only [unbound, parsed, Except.ok.injEq] at declared
        subst declared
        refine ⟨_, rfl, ?_⟩
        rw [continues.boundLine?_of_unbound unbound]
        cases earlier : found.functions.find? (·.name == head.name) with
        | some bearer =>
          have same : bearer.name = head.name := by simpa using List.find?_some earlier
          exact .inr ⟨[], _, [], bearer, _, rfl, List.forall_mem_nil _,
            List.mem_of_find?_eq_some earlier, same, rfl⟩
        | none =>
          have fresh : ¬ found.Binds head.name := by
            rintro ⟨function, member, same⟩
            have different := List.find?_eq_none.mp earlier function member
            simp [same] at different
          refine .inl ⟨List.forall_mem_singleton.mpr fresh, ?_⟩
          simp only [Option.map_none, parseParameters_of_ok parsed]
          refine ⟨_, rfl, continues.comment, continues.marker, ?_, continues.skipped⟩
          simp [continues.functions, continues.comment, ExportedFunction.below]

/-- A clash is one behind functions that do not clash. -/
theorem Clashes.behind (clash : Clashes above found more result)
    (fresh : ∀ function ∈ new, ¬ found.Binds function.name) :
    Clashes above found (new ++ more) result := by
  obtain ⟨before, repeated, after, bearer, notices, rfl, beforeFresh, member, same, failed⟩ := clash
  exact ⟨new ++ before, repeated, after, bearer, notices, by simp,
    List.forall_mem_append.mpr ⟨fresh, beforeFresh⟩, member, same, failed⟩

/-- A clash in the first line ends the run, whatever stands below it. -/
theorem Clashes.run (clash : Clashes above found new (whole.line number raw)) (lines : List Text)
    (more : List ExportedFunction) :
    Clashes above found (new ++ more) (whole.run number (raw :: lines)) := by
  obtain ⟨before, repeated, after, bearer, notices, rfl, fresh, member, same, failed⟩ := clash
  exact ⟨before, repeated, after ++ more, bearer, notices, by simp, fresh, member, same,
    run_cons_of_error failed⟩

theorem Follows.clearComment (follows : Follows above found new next result) :
    Follows above found new next.clearComment (result.map Scan.clearComment) := by
  rcases follows with ⟨fresh, moved, rfl, continues⟩ |
    ⟨before, repeated, after, bearer, notices, shape, fresh, member, same, rfl⟩
  · exact .inl ⟨fresh, _, rfl, continues.clearComment⟩
  · exact .inr ⟨before, repeated, after, bearer, notices, shape, fresh, member, same, rfl⟩

/-- One line does from further down what it does alone, unless it declares a name that was bound
before. -/
theorem Continues.line (continues : Continues above found alone whole)
    (stepped : alone.line number raw = .ok next) :
    ∃ new, next.extraction.functions = alone.extraction.functions ++ new ∧
      Follows above found new next (whole.line (above + number) raw) := by
  cases kind : classify (Text.trim raw) with
  | marker name =>
    rw [line_of_marker kind] at stepped ⊢
    obtain rfl := Except.ok.inj stepped
    have dropped := continues.dropMarker
    exact ⟨[], by simp, follows ⟨dropped.comment, rfl, dropped.functions, dropped.skipped⟩⟩
  | directive =>
    rw [line_of_directive kind] at stepped ⊢
    obtain rfl := Except.ok.inj stepped
    exact ⟨[], by simp, continues.follows⟩
  | blank =>
    rw [line_of_blank kind] at stepped ⊢
    obtain rfl := Except.ok.inj stepped
    exact ⟨[], by simp, continues.follows⟩
  | comment note =>
    rw [line_of_comment kind] at stepped ⊢
    obtain rfl := Except.ok.inj stepped
    refine ⟨[], ?_, ?_⟩
    · split <;> simp
    · split
      · exact continues.follows
      · exact follows ⟨by rw [continues.comment], continues.marker, continues.functions,
          continues.skipped⟩
  | other =>
    rw [line_of_other kind] at stepped ⊢
    obtain rfl := Except.ok.inj stepped
    exact ⟨[], by simp [Scan.clearComment], continues.dropMarker.clearComment.follows⟩
  | function =>
    cases waits : alone.marker with
    | none =>
      have unmarked : whole.marker = none := by rw [continues.marker, waits]; rfl
      rw [line_of_unmarked kind waits] at stepped
      rw [line_of_unmarked kind unmarked]
      obtain rfl := Except.ok.inj stepped
      exact ⟨[], by simp, continues.follows⟩
    | some marker =>
      have marked : whole.marker = some (marker.below above) := by rw [continues.marker, waits]; rfl
      rw [line_of_marked kind waits] at stepped
      rw [line_of_marked kind marked]
      cases declared : Scan.declaration { alone with marker := none } marker number
          (Text.trim raw) with
      | error failure => simp [declared, Except.map] at stepped
      | ok bound =>
        rw [declared] at stepped
        obtain rfl := Except.ok.inj stepped
        obtain ⟨new, added, follows⟩ := continues.forgetMarker.declaration declared
        exact ⟨new, added, follows.clearComment⟩

/-- A run over lines does from further down what it does alone, unless one of them declares a name
that was bound before. The induction is on the lines, with what they add put together in order. -/
theorem Continues.run {lines : List Text} (continues : Continues above found alone whole)
    (ran : alone.run number lines = .ok final) :
    ∃ new, final.extraction.functions = alone.extraction.functions ++ new ∧
      Follows above found new final (whole.run (above + number) lines) := by
  induction lines generalizing alone whole number with
  | nil =>
    obtain rfl := Except.ok.inj ran
    exact ⟨[], by simp, continues.follows⟩
  | cons raw rest inductionHypothesis =>
    cases stepped : alone.line number raw with
    | error failure =>
      rw [run_cons_of_error stepped] at ran
      contradiction
    | ok next =>
      rw [run_cons_of_ok stepped] at ran
      obtain ⟨new, added, ⟨fresh, moved, movedStep, nextContinues⟩ | clash⟩ :=
        continues.line stepped
      · obtain ⟨more, later, follows⟩ := inductionHypothesis nextContinues ran
        refine ⟨new ++ more, by rw [later, added, List.append_assoc], ?_⟩
        rw [run_cons_of_ok movedStep, Nat.add_assoc]
        rcases follows with ⟨moreFresh, done⟩ | clash
        · exact .inl ⟨List.forall_mem_append.mpr ⟨fresh, moreFresh⟩, done⟩
        · exact .inr (clash.behind fresh)
      · -- What the lines behind the clash would add is told from any scan that goes along.
        obtain ⟨moved, along⟩ := exists_continues above found next
        obtain ⟨more, later, -⟩ := inductionHypothesis along ran
        exact ⟨new ++ more, by rw [later, added, List.append_assoc], .inr (clash.run rest more)⟩

/-- A run that reaches the end of some lines and of others behind them has reached the end of the first. -/
theorem run_append_inv {front rest : List Text} {scan : Scan}
    (ran : scan.run number (front ++ rest) = .ok final) :
    ∃ middle, scan.run number front = .ok middle ∧
      middle.run (number + front.length) rest = .ok final := by
  rw [run_append] at ran
  cases ranFront : scan.run number front with
  | error failure =>
    rw [ranFront] at ran
    contradiction
  | ok middle =>
    rw [ranFront] at ran
    exact ⟨middle, rfl, ran⟩

/-- Below a statement nothing is gathered or awaited, and what was found is all that will be found
above it. -/
theorem continues_of_statement {scan : Scan} (isOther : classify (Text.trim raw) = .other)
    (stepped : scan.line number raw = .ok whole) :
    Continues above whole.dropMarker.extraction start whole := by
  rw [line_of_other isOther] at stepped
  obtain rfl := Except.ok.inj stepped
  constructor
  · rfl
  · exact dropMarker_marker scan
  · simp [start]
  · rw [dropMarker_skipped]
    simp [start, Scan.clearComment]

/-- A run over lines of which the last is a statement leaves a scan that another source can follow. -/
theorem continues_of_run {lines : List Text} {last : Text} (isLast : lines.getLast? = some last)
    (isOther : classify (Text.trim last) = .other) (ran : start.run number lines = .ok whole) :
    Continues above whole.dropMarker.extraction start whole := by
  obtain ⟨front, rfl⟩ := List.getLast?_eq_some_iff.mp isLast
  obtain ⟨before, -, stepped⟩ := run_append_inv ran
  cases ended : before.line (number + front.length) last with
  | error failure =>
    rw [run_cons_of_error ended] at stepped
    contradiction
  | ok after =>
    rw [run_cons_of_ok ended] at stepped
    obtain rfl := Except.ok.inj stepped
    exact continues_of_statement isOther ended

end Scan

/-- What a pass over a source has found is what a run over its lines leaves, with the marker that still
waits given up. -/
theorem exists_run_of_extract {source : Text} {found : Extraction}
    (extracted : extract source = .ok found) :
    ∃ final, Scan.start.run 1 (Text.lines source) = .ok final ∧
      final.dropMarker.extraction = found := by
  rw [extract, scanText] at extracted
  cases ran : Scan.start.run 1 (Text.lines source) with
  | error failure => simp [ran, Except.map] at extracted
  | ok final =>
    rw [ran] at extracted
    exact ⟨final, rfl, Except.ok.inj extracted⟩

/-- No two functions of an extraction bear one name. -/
theorem onlyBearer_of_extract {source : Text} {found : Extraction} {bearer : ExportedFunction}
    (extracted : extract source = .ok found) (member : bearer ∈ found.functions) :
    OnlyBearer found.functions bearer.name bearer :=
  ⟨member, rfl, fun _ otherMember same =>
    List.inj_on_of_nodup_map (nodup_names extracted) otherMember member same⟩

/-- Two sources of which the first ends in a statement are extracted as one: first what is found in the
first, and then what is found in the second, on lines that are counted on. Where both bind a name, the
extraction fails instead at the first function of the second whose name the first binds, and the error
quotes the line of its only bearer there. -/
theorem extract_append (front back : Text) (first second : Extraction)
    (ended : EndsInStatement front) (extractedFront : extract front = .ok first)
    (extractedBack : extract back = .ok second) :
    (first.Apart second →
        extract (front ++ back) =
          .ok (first.followedBy (second.below (Text.lines front).length))) ∧
      (¬ first.Apart second → ∃ before repeated after bearer,
        second.functions = before ++ repeated :: after ∧
          (∀ other ∈ before, ¬ first.Binds other.name) ∧
          OnlyBearer first.functions repeated.name bearer ∧
          extract (front ++ back) = .error (.duplicateExport repeated.name bearer.line
            ((Text.lines front).length + repeated.line))) := by
  obtain ⟨lineFeed, last, isLast, isOther⟩ := ended
  obtain ⟨middle, ranFront, rfl⟩ := exists_run_of_extract extractedFront
  obtain ⟨final, ranBack, rfl⟩ := exists_run_of_extract extractedBack
  have continues : Scan.Continues (Text.lines front).length middle.dropMarker.extraction Scan.start
      middle := Scan.continues_of_run isLast isOther ranFront
  have whole : Scan.start.run 1 (Text.lines (front ++ back)) =
      middle.run ((Text.lines front).length + 1) (Text.lines back) := by
    rw [Text.lines_append_of_ended lineFeed, Scan.run_append_of_ok ranFront, Nat.add_comm 1]
  obtain ⟨new, functions, follows⟩ := continues.run ranBack
  have added : final.dropMarker.extraction.functions = new := by
    rw [Scan.dropMarker_functions]
    exact functions
  rw [extract, scanText, whole, added]
  rcases follows with ⟨fresh, moved, ran, alongside⟩ |
    ⟨before, repeated, after, bearer, notices, rfl, fresh, member, same, failed⟩
  · refine ⟨fun _ => ?_, fun clash => absurd (fun function isNew => fresh function ?_) clash⟩
    · rw [ran]
      exact congrArg Except.ok alongside.dropMarker.extraction
    · rwa [added] at isNew
  · refine ⟨fun apart => ?_, fun _ => ⟨before, repeated, after, bearer, rfl, fresh, ?_, ?_⟩⟩
    · exact absurd ⟨bearer, member, same⟩ (apart repeated (by rw [added]; simp))
    · exact same ▸ onlyBearer_of_extract extractedFront member
    · rw [failed]
      rfl

/-- A source with a function and a marker without one, which ends in a statement. -/
def counting : Text :=
  "// counts\n//export Count\nfunc Count(to int) int \x7b\n\x7d\n//export Lost\nvar total int\n"

/-- A source with another function. -/
def measuring : Text := "// measures\n//export Measure\nfunc Measure() \x7b\n"

/-- The same source with a function below it whose name is that of the first. -/
def recounting : Text := measuring ++ "\x7d\n//export Count\nfunc Count() \x7b\n"

/-- What the first source holds. -/
def countingExtraction : Extraction :=
  { functions := [
      { name := "Count", comment := "counts", parameters := [⟨"to", "int"⟩], result := "int",
        line := 3 }]
    skipped := [{ line := 5, text := "//export Lost", reason := .markerWithoutDeclaration }] }

/-- What the second holds. -/
def measuringExtraction : Extraction :=
  { functions := [
      { name := "Measure", comment := "measures", parameters := [], result := "void", line := 3 }]
    skipped := [] }

/-- The first source can be followed by the second, and not by the third. -/
theorem extract_append_counting :
    EndsInStatement counting ∧ extract counting = .ok countingExtraction ∧
      extract measuring = .ok measuringExtraction ∧
      extract (counting ++ measuring) =
        .ok (countingExtraction.followedBy (measuringExtraction.below 6)) ∧
      ∃ recounted before repeated after bearer, extract recounting = .ok recounted ∧
        recounted.functions = before ++ repeated :: after ∧
        (∀ other ∈ before, ¬ countingExtraction.Binds other.name) ∧
        OnlyBearer countingExtraction.functions repeated.name bearer ∧
        extract (counting ++ recounting) =
          .error (.duplicateExport repeated.name bearer.line (6 + repeated.line)) := by
  have ended : EndsInStatement counting := ⟨by decide, "var total int", by decide, by decide⟩
  have first : extract counting = .ok countingExtraction := rfl
  have second : extract measuring = .ok measuringExtraction := rfl
  have third : ∃ recounted, extract recounting = .ok recounted ∧
      ¬ countingExtraction.Apart recounted := ⟨_, rfl, by decide⟩
  have apart : countingExtraction.Apart measuringExtraction := by decide
  have six : (Text.lines counting).length = 6 := by decide
  obtain ⟨recounted, extracted, clash⟩ := third
  obtain ⟨before, repeated, after, bearer, shape, fresh, only, failed⟩ :=
    (extract_append counting recounting _ _ ended first extracted).2 clash
  rw [six] at failed
  exact ⟨ended, first, second,
    six ▸ (extract_append counting measuring _ _ ended first second).1 apart,
    recounted, before, repeated, after, bearer, extracted, shape, fresh, only, failed⟩

end FfiBindings.Source
