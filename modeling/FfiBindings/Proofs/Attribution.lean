import FfiBindings.Proofs.Descriptors

/-!
# Where comments come from

The comment of a function is put together from comment lines above it, and this module tells which.
Between such a line and the declaration there is neither a statement nor a marked function, as both
end a comment, and every comment line of which that is true contributes.

One kind of line is easily overlooked. An unmarked function is left alone by the pass, and the notes
gathered above it are not forgotten. So they go to the next exported function, although they were
written about another one. The comment of a function is its own exactly when no unmarked function
stands between it and a line that contributes.
-/

namespace FfiBindings.Source

variable (lines : List Text)

/-- The lines that contribute to the comment of a declaration: those above it with a note, no
    further up than the last line that ended a comment. -/
def contributors (index : Nat) : List Nat :=
  (List.range index).filter fun line =>
    (kindAt lines line).note?.isSome ∧ ∀ ending < index, EndsComment lines ending → ending < line

/-- A function line that no marker waits before. -/
def Unmarked (index : Nat) : Prop :=
  kindAt lines index = .function ∧ ¬ Marked lines index

/-- Whether a line may stand between a comment and the declaration it is about: a comment, a
    directive, a blank line or a marker. -/
def MayIntervene (index : Nat) : Prop :=
  (kindAt lines index).isPassedOver = true ∨ (kindAt lines index).isMarker = true

/-- The comment of a declaration is its own when only such lines stand between it and the lines that
    contribute to the comment. -/
def OwnComment (index : Nat) : Prop :=
  ∀ line ∈ contributors lines index, ∀ between < index, line < between →
    MayIntervene lines between

instance (index : Nat) : Decidable (Unmarked lines index) := by
  unfold Unmarked
  infer_instance

instance (index : Nat) : Decidable (MayIntervene lines index) := by
  unfold MayIntervene
  infer_instance

instance (index : Nat) : Decidable (OwnComment lines index) := by
  unfold OwnComment
  infer_instance

variable {lines}

/-- The notes of a declaration are those of the lines that contribute. -/
theorem notesBefore_eq (index : Nat) :
    notesBefore lines index =
      (contributors lines index).filterMap fun line => (kindAt lines line).note? := by
  rw [notesBefore, contributors, List.filterMap_filter]
  refine List.filterMap_congr fun line _ => ?_
  cases noted : (kindAt lines line).note? <;> simp

/-- The lines that end no comment. -/
theorem not_endsComment_iff {index : Nat} :
    ¬ EndsComment lines index ↔ MayIntervene lines index ∨ Unmarked lines index := by
  by_cases marked : Marked lines index
  · simp [EndsComment, MayIntervene, Unmarked, marked, marked.1, LineKind.isPassedOver,
      LineKind.isMarker]
  · cases kind : kindAt lines index <;>
      simp [EndsComment, MayIntervene, Unmarked, marked, kind, LineKind.isPassedOver,
        LineKind.isMarker]

/-- A line with a note is passed over. -/
theorem mayIntervene_of_noted {index : Nat} (noted : (kindAt lines index).note?.isSome = true) :
    MayIntervene lines index := by
  cases kind : kindAt lines index <;>
    simp_all [LineKind.note?, MayIntervene, LineKind.isPassedOver]

/-- A line with a note contributes exactly when nothing below it ends the comment. -/
theorem mem_contributors_iff {line index : Nat} :
    line ∈ contributors lines index ↔
      line < index ∧ (kindAt lines line).note?.isSome = true ∧
        ∀ between < index, line < between →
          MayIntervene lines between ∨ Unmarked lines between := by
  simp only [contributors, List.mem_filter, List.mem_range, decide_eq_true_eq,
    ← not_endsComment_iff]
  refine and_congr_right fun _ => and_congr_right fun noted => ?_
  constructor
  · intro above between upTo below ends
    exact Nat.lt_asymm below (above between upTo ends)
  · intro lasting ending upTo ends
    rcases Nat.lt_trichotomy line ending with below | rfl | above
    · exact absurd ends (lasting ending upTo below)
    · exact absurd ends (not_endsComment_iff.mpr (.inl (mayIntervene_of_noted noted)))
    · exact above

/-- A comment is the declaration's own exactly when no unmarked function stands below a line that
contributes. -/
theorem ownComment_iff {index : Nat} :
    OwnComment lines index ↔
      ∀ line ∈ contributors lines index, ∀ between < index, line < between →
        ¬ Unmarked lines between := by
  constructor
  · intro own line contributes between upTo below unmarked
    have intervenes := own line contributes between upTo below
    simp [MayIntervene, unmarked.1, LineKind.isPassedOver, LineKind.isMarker] at intervenes
  · intro apart line contributes between upTo below
    have lasting := (mem_contributors_iff.mp contributes).2.2 between upTo below
    exact lasting.resolve_right (apart line contributes between upTo below)

/-- Where the comment of a function comes from. It is made of the notes of the lines that
contribute, in order. These are all lines with a note from which only comments, directives, blank
lines, markers and unmarked functions lead down to the declaration: a statement or a marked function
never stands between. An unmarked function may, and the comment is the function's own exactly when
none does. -/
theorem comment_of_contributors (source : Text) (extraction : Extraction)
    (extracted : extract source = .ok extraction) (function : ExportedFunction)
    (member : function ∈ extraction.functions) :
    ∃ index, function.line = index + 1 ∧ Marked (Text.lines source) index ∧
      function.comment = Text.join " " ((contributors (Text.lines source) index).filterMap
        fun line => (kindAt (Text.lines source) line).note?) ∧
      (∀ line, line ∈ contributors (Text.lines source) index ↔
        line < index ∧ (kindAt (Text.lines source) line).note?.isSome = true ∧
          ∀ between < index, line < between →
            MayIntervene (Text.lines source) between ∨ Unmarked (Text.lines source) between) ∧
      (OwnComment (Text.lines source) index ↔
        ∀ line ∈ contributors (Text.lines source) index, ∀ between < index, line < between →
          ¬ Unmarked (Text.lines source) between) := by
  obtain ⟨index, head, described⟩ := exists_describedAt extracted member
  refine ⟨index, described.line, (of_declared described.declared).1, ?_,
    fun _ => mem_contributors_iff, ownComment_iff⟩
  rw [described.comment, commentBefore_eq_join, notesBefore_eq]

/-- A source in which a statement parts an old note from the comment of a function. -/
def annotated : Text :=
  "// old\nvar n int\n// answers\n//go:noinline\n\n//export Ping\nfunc Ping() bool \x7b\n"

/-- What that source holds. -/
def annotatedExtraction : Extraction :=
  { functions := [
      { name := "Ping", comment := "answers", parameters := [], result := "bool", line := 7 }]
    skipped := [] }

/-- The law at that source: the only line that contributes is the one above the directive, and the
comment is the function's own. -/
theorem comment_of_contributors_annotated :
    extract annotated = .ok annotatedExtraction ∧
      ∃ index, 7 = index + 1 ∧ contributors (Text.lines annotated) index = [2] ∧
        OwnComment (Text.lines annotated) index := by
  have found : extract annotated = .ok annotatedExtraction := rfl
  obtain ⟨index, isLine, _, _, _, own⟩ :=
    comment_of_contributors annotated annotatedExtraction found _ List.mem_cons_self
  obtain rfl : index = 6 := (Nat.succ.inj isLine).symm
  have only : contributors (Text.lines annotated) 6 = [2] := by decide
  refine ⟨found, 6, isLine, only, own.mpr ?_⟩
  rw [only]
  decide

/-- A source in which a function that is not exported has a comment, and the exported one below it
has none. -/
def borrowed : Text := "// helps\nfunc helper() \x7b\x7d\n//export Tick\nfunc Tick() \x7b\x7d\n"

/-- What that source holds. -/
def borrowedExtraction : Extraction :=
  { functions := [
      { name := "Tick", comment := "helps", parameters := [], result := "void", line := 4 }]
    skipped := [] }

/-- The exported function takes over the comment of the other one, whose line stands between. -/
theorem not_ownComment_borrowed :
    extract borrowed = .ok borrowedExtraction ∧
      contributors (Text.lines borrowed) 3 = [0] ∧ Unmarked (Text.lines borrowed) 1 ∧
      ¬ OwnComment (Text.lines borrowed) 3 :=
  ⟨rfl, by decide, by decide, by decide⟩

end FfiBindings.Source
