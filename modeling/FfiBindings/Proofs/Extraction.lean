import FfiBindings.Proofs.Pass

/-!
# What an extraction holds

The results of a pass, told from the lines of the source alone. An extraction succeeds exactly when
no line is faulty. Then its functions are what the declared lines describe, in order, and its
skipped places are what the other markers leave behind. Otherwise the first faulty line decides the
error, a repeated name before an untyped parameter, and nothing else is returned.
-/

namespace FfiBindings.Source

/-- An extraction and its error, told from the lines: everything found, or the first fault. -/
theorem extract_cases (source : Text) :
    (∃ extraction, extract source = .ok extraction ∧
        (∀ index, ¬ Faulty (Text.lines source) index) ∧
        (declarations (Text.lines source)).mapM (describe (Text.lines source)) =
          .ok extraction.functions ∧
        extraction.skipped = (fates (Text.lines source)).filterMap Fate.place?) ∨
      ∃ index before error, extract source = .error error ∧
        Reflects (Text.lines source) index before ∧ Blames (Text.lines source) index error := by
  rcases scanText_cases source with
    ⟨final, scanned, reflects⟩ | ⟨index, before, failure, scanned, reflects, blamed⟩
  · refine .inl ⟨final.dropMarker.extraction, by rw [extract, scanned], ?_, ?_, ?_⟩
    · intro index
      by_cases inside : index < (Text.lines source).length
      · exact reflects.clean index inside
      · apply not_faulty_of_undeclared
        apply declared?_of_not_function
        simp [kindAt_of_length_le (Nat.le_of_not_lt inside)]
    · rw [Scan.dropMarker_functions]
      exact reflects.functions
    · rw [Scan.dropMarker_skipped, reflects.skipped, reflects.marker, fates, markers,
        ← settled_append_waiting, List.map_append, List.filterMap_append]
      congr 1
      cases waiting : waiting? (Text.lines source) (Text.lines source).length with
      | none => rfl
      | some marker =>
        have unansweredHere := answer?_of_waits_at_end (waiting?_eq_some_iff.mp waiting)
        simp [fate, unansweredHere, Fate.place?, pending, unanswered]
  · exact .inr ⟨index, before, failure.error, by rw [extract, scanned], reflects, blamed⟩

/-- A blamed line is faulty. -/
theorem faulty_of_blames {lines : List Text} {index : Nat} {error : ExtractionError}
    (blamed : Blames lines index error) : Faulty lines index := by
  cases blamed with
  | repeated declared above declaredFirst same =>
    exact .inl ⟨_, declared, _, above, _, declaredFirst, same⟩
  | untyped declared _ parsed => exact .inr ⟨_, _, declared, parsed⟩

/-- Where no earlier line is faulty, the declared lines above bear different names. -/
theorem eq_of_same_name {lines : List Text} {index : Nat}
    (clean : ∀ earlier < index, ¬ Faulty lines earlier) {left right : Declaration}
    (leftMember : left ∈ declarationsBefore lines index)
    (rightMember : right ∈ declarationsBefore lines index)
    (same : left.head.name = right.head.name) : left = right := by
  obtain ⟨leftAbove, leftDeclared⟩ := mem_declarationsBefore_iff.mp leftMember
  obtain ⟨rightAbove, rightDeclared⟩ := mem_declarationsBefore_iff.mp rightMember
  rcases Nat.lt_trichotomy left.index right.index with before | sameIndex | after
  · exact absurd (.inl ⟨_, rightDeclared, _, before, _, leftDeclared, same⟩)
      (clean right.index rightAbove)
  · rw [sameIndex, rightDeclared, Option.some.injEq] at leftDeclared
    cases left
    cases right
    simp_all
  · exact absurd (.inl ⟨_, leftDeclared, _, after, _, rightDeclared, same.symm⟩)
      (clean left.index leftAbove)

/-- Of the descriptors above a clean line only one bears a given name. -/
theorem unique_of_clean {lines : List Text} {index : Nat} {functions : List ExportedFunction}
    (clean : ∀ earlier < index, ¬ Faulty lines earlier)
    (described : (declarationsBefore lines index).mapM (describe lines) = .ok functions)
    {left right : ExportedFunction} (leftMember : left ∈ functions)
    (rightMember : right ∈ functions) (same : left.name = right.name) : left = right := by
  obtain ⟨leftOrigin, leftAbove, leftDescribed⟩ := exists_declaration_of_mem described leftMember
  obtain ⟨rightOrigin, rightAbove, rightDescribed⟩ :=
    exists_declaration_of_mem described rightMember
  have sameOrigin : leftOrigin = rightOrigin := by
    apply eq_of_same_name clean leftAbove rightAbove
    rw [← (name_line_of_describe leftDescribed).1, ← (name_line_of_describe rightDescribed).1, same]
  rw [sameOrigin, rightDescribed, Except.ok.injEq] at leftDescribed
  exact leftDescribed.symm

/-- One descriptor, and no other, bears the name. -/
def OnlyBearer (functions : List ExportedFunction) (name : Text) (first : ExportedFunction) :
    Prop :=
  first ∈ functions ∧ first.name = name ∧ ∀ other ∈ functions, other.name = name → other = first

/-- The name is declared above a line, on a marked line that can be split. The number counts from
one and is less than that of the line itself. -/
def DeclaredAbove (lines : List Text) (index : Nat) (name : Text) (number : Nat) : Prop :=
  number < index + 1 ∧ ∃ earlier head, number = earlier + 1 ∧ Marked lines earlier ∧
    splitDeclaration? (textAt lines earlier) = some head ∧ head.name = name

/-- A declared line is marked and can be split. -/
theorem of_declared {lines : List Text} {index : Nat} {head : Head}
    (declared : declared? lines index = some head) :
    Marked lines index ∧ splitDeclaration? (textAt lines index) = some head := by
  by_cases marked : Marked lines index
  · exact ⟨marked, by simpa [declared?, marked] using declared⟩
  · simp [declared?, marked] at declared

/-- What the error of a faulty line quotes. Above the line everything is clean, so the name that it
repeats has exactly one bearer there. -/
theorem error_of_blames {lines : List Text} {index : Nat} {before : Scan} {error : ExtractionError}
    (reflects : Reflects lines index before) (blamed : Blames lines index error) :
    ∃ head, declared? lines index = some head ∧
      (Repeats lines index → ∃ functions first,
        (declarationsBefore lines index).mapM (describe lines) = .ok functions ∧
          OnlyBearer functions head.name first ∧ DeclaredAbove lines index head.name first.line ∧
          error = .duplicateExport head.name first.line (index + 1)) ∧
      (¬ Repeats lines index →
        parseParameters head.parameters head.name (index + 1) = .error error) := by
  cases blamed with
  | @repeated head firstHead earlier declared above declaredFirst same =>
    refine ⟨head, declared, fun _ => ?_, fun fresh => ?_⟩
    · obtain ⟨first, member, described⟩ := exists_function_of_mem reflects.functions
        (mem_declarationsBefore_iff.mpr ⟨above, declaredFirst⟩ :
          ⟨earlier, firstHead⟩ ∈ declarationsBefore lines index)
      obtain ⟨sameName, sameLine⟩ := name_line_of_describe described
      obtain ⟨marked, parts⟩ := of_declared declaredFirst
      refine ⟨_, first, reflects.functions, ⟨member, sameName.trans same, ?_⟩, ⟨?_, ?_⟩, ?_⟩
      · intro other otherMember otherName
        exact unique_of_clean reflects.clean reflects.functions otherMember member
          (otherName.trans (sameName.trans same).symm)
      · rw [sameLine]
        exact Nat.succ_lt_succ above
      · exact ⟨earlier, firstHead, sameLine, marked, parts, same⟩
      · rw [sameLine]
    · exact absurd ⟨head, declared, earlier, above, firstHead, declaredFirst, same⟩ fresh
  | @untyped head _ declared fresh parsed =>
    exact ⟨head, declared, fun repeated => absurd repeated fresh, fun _ => parsed⟩

/-- What a successful extraction is made of. -/
theorem found_of_extract {source : Text} {extraction : Extraction}
    (extracted : extract source = .ok extraction) :
    (∀ index, ¬ Faulty (Text.lines source) index) ∧
      (declarations (Text.lines source)).mapM (describe (Text.lines source)) =
        .ok extraction.functions ∧
      extraction.skipped = (fates (Text.lines source)).filterMap Fate.place? := by
  rcases extract_cases source with ⟨found, done, facts⟩ | ⟨_, _, _, failed, _, _⟩
  · rw [extracted, Except.ok.injEq] at done
    exact done ▸ facts
  · rw [extracted] at failed
    contradiction

/-- The functions of a successful extraction are exactly what the declared lines describe, each
once and in line order: the declared name, the typed parameters, the result, the line, and the
comment gathered above the line. Looking back decides which lines these are and what each one
describes; no state of the pass is involved. -/
theorem extract_functions (source : Text) (extraction : Extraction)
    (extracted : extract source = .ok extraction) :
    (declarations (Text.lines source)).mapM (describe (Text.lines source)) =
      .ok extraction.functions :=
  (found_of_extract extracted).2.1

/-- A source with a function whose marker announces another name. The unmarked function above it
keeps the comment, and the two markers below it lead to no function. -/
def mixed : Text :=
  "// counts\nfunc helper()\n//export Tick\n\nfunc Step(by, to int) (int, error)\n" ++
    "//export Broken\nfunc Broken(a int\n//export End"

/-- What that source holds. -/
def mixedExtraction : Extraction :=
  { functions := [
      { name := "Step", comment := "counts", parameters := [⟨"by", "int"⟩, ⟨"to", "int"⟩],
        result := "int, error", line := 5 }]
    skipped := [
      { line := 7, text := "func Broken(a int", reason := .malformedDeclaration },
      { line := 8, text := "//export End", reason := .markerWithoutDeclaration }] }

/-- The law at this source. -/
theorem extract_functions_mixed :
    extract mixed = .ok mixedExtraction ∧
      (declarations (Text.lines mixed)).mapM (describe (Text.lines mixed)) =
        .ok mixedExtraction.functions := by
  have found : extract mixed = .ok mixedExtraction := rfl
  exact ⟨found, extract_functions mixed mixedExtraction found⟩

/-- Every marker of a successful extraction is accounted for once: in the order of the markers, each
leads to the function on the line that answers it, to the malformed declaration there, or leaves
itself as a skipped place. There are no other functions or places, both stand on strictly increasing
lines, and no line holds one of each. -/
theorem extract_accounts_for_markers (source : Text) (extraction : Extraction)
    (extracted : extract source = .ok extraction) :
    (markers (Text.lines source)).length =
        extraction.functions.length + extraction.skipped.length ∧
      extraction.functions.map (·.line) = (fates (Text.lines source)).filterMap Fate.line? ∧
      extraction.skipped = (fates (Text.lines source)).filterMap Fate.place? ∧
      (extraction.functions.map (·.line)).Pairwise (· < ·) ∧
      (extraction.skipped.map (·.line)).Pairwise (· < ·) ∧
      List.Disjoint (extraction.functions.map (·.line)) (extraction.skipped.map (·.line)) := by
  obtain ⟨_, described, skipped⟩ := found_of_extract extracted
  have lines := lines_of_described described
  have fromMarkers : extraction.functions.map (·.line) =
      (fates (Text.lines source)).filterMap Fate.line? := by
    rw [lines, lines_of_fates]
  refine ⟨?_, fromMarkers, skipped, ?_, ?_, ?_⟩
  · have counted := line_place_length (fates (Text.lines source))
    rw [← fromMarkers, ← skipped, List.length_map, fates, List.length_map] at counted
    exact counted.symm
  · rw [lines]
    exact declarationsBefore_sorted _
  · rw [skipped]
    exact places_sorted _
  · rw [fromMarkers, skipped]
    exact lines_disjoint _ fun marker member => (List.mem_filter.mp member).2

/-- The law at the same source, in which the three markers have the three fates. -/
theorem extract_accounts_for_markers_mixed :
    extract mixed = .ok mixedExtraction ∧
      (markers (Text.lines mixed)).length =
          mixedExtraction.functions.length + mixedExtraction.skipped.length ∧
        mixedExtraction.functions.map (·.line) = (fates (Text.lines mixed)).filterMap Fate.line? ∧
        mixedExtraction.skipped = (fates (Text.lines mixed)).filterMap Fate.place? ∧
        (mixedExtraction.functions.map (·.line)).Pairwise (· < ·) ∧
        (mixedExtraction.skipped.map (·.line)).Pairwise (· < ·) ∧
        List.Disjoint (mixedExtraction.functions.map (·.line))
          (mixedExtraction.skipped.map (·.line)) := by
  have found : extract mixed = .ok mixedExtraction := rfl
  exact ⟨found, extract_accounts_for_markers mixed mixedExtraction found⟩

/-- An extraction fails exactly when some line is faulty, and succeeds exactly when none is. The
error is that of the first faulty line: where its name is repeated, that name with the line of the
only descriptor above that bears it, whatever the parameters are, and otherwise the error of its
parameters. A repeated name always stands on a marked line above that can be split, so neither an
unmarked function nor a malformed declaration makes a later declaration a duplicate. -/
theorem extract_fails_at_first_fault (source : Text) :
    ((∃ error, extract source = .error error) ↔ ∃ index, Faulty (Text.lines source) index) ∧
      ((∃ extraction, extract source = .ok extraction) ↔
        ∀ index, ¬ Faulty (Text.lines source) index) ∧
      ∀ error, extract source = .error error →
        ∃ index head, declared? (Text.lines source) index = some head ∧
          Faulty (Text.lines source) index ∧
          (∀ earlier < index, ¬ Faulty (Text.lines source) earlier) ∧
          (Repeats (Text.lines source) index →
            ∃ functions first,
              (declarationsBefore (Text.lines source) index).mapM (describe (Text.lines source)) =
                .ok functions ∧
              OnlyBearer functions head.name first ∧
              DeclaredAbove (Text.lines source) index head.name first.line ∧
              error = .duplicateExport head.name first.line (index + 1)) ∧
          (¬ Repeats (Text.lines source) index →
            parseParameters head.parameters head.name (index + 1) = .error error) := by
  rcases extract_cases source with
    ⟨extraction, done, clean, _, _⟩ | ⟨index, before, error, failed, reflects, blamed⟩
  · refine ⟨⟨?_, ?_⟩, ⟨fun _ => clean, fun _ => ⟨extraction, done⟩⟩, ?_⟩
    · rintro ⟨error, failed⟩
      rw [done] at failed
      contradiction
    · rintro ⟨index, faulty⟩
      exact absurd faulty (clean index)
    · intro error failed
      rw [done] at failed
      contradiction
  · have faulty := faulty_of_blames blamed
    refine ⟨⟨fun _ => ⟨index, faulty⟩, fun _ => ⟨error, failed⟩⟩, ⟨?_, ?_⟩, ?_⟩
    · rintro ⟨extraction, done⟩
      rw [failed] at done
      contradiction
    · intro clean
      exact absurd faulty (clean index)
    · intro other sameFailure
      rw [failed, Except.error.injEq] at sameFailure
      subst sameFailure
      obtain ⟨head, declared, repeated, untyped⟩ := error_of_blames reflects blamed
      exact ⟨index, head, declared, faulty, reflects.clean, repeated, untyped⟩

/-- A source in which a marked function repeats the name of another and has a parameter without a
type. The unmarked function and the malformed declaration of the same name do not count. -/
def clashing : Text :=
  "func Tick()\n//export Tick\nfunc Tick(by int\n//export Tick\nfunc Tick()\n" ++
    "//export Again\nfunc Tick(by)\n"

/-- The law at a line with both faults: the repeated name decides, and it is that of the first
marked declaration that can be split. -/
theorem extract_fails_at_first_fault_clashing :
    extract clashing = .error (.duplicateExport "Tick" 5 7) ∧
      ∃ index, Faulty (Text.lines clashing) index := by
  have failed : extract clashing = .error (.duplicateExport "Tick" 5 7) := rfl
  exact ⟨failed, (extract_fails_at_first_fault clashing).1.mp ⟨_, failed⟩⟩

end FfiBindings.Source
