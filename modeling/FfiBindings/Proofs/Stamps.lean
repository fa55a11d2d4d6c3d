import FfiBindings.Program.Launch
import Mathlib.Data.List.DropRight
import Mathlib.Data.List.TakeWhile

/-!
# What the stamp of a record decides

Every record of the log starts with a stamp: the date and time in brackets, and a space. What a file
is as a program depends on its beginning alone, and where a record was added to it that beginning is
over with the stamp. So records may differ after it, and the file is still the same program.
-/

namespace FfiBindings

namespace Log

/-- The bytes that every record starts with. -/
def stamp (clock : Clock) : Bytes := Utf8.encode ("[" ++ clock.dateTime ++ "] ")

/-- A record line is a stamp and the record itself. -/
theorem encode_recordLine (clock : Clock) (record : Text) :
    Utf8.encode (recordLine clock record) = stamp clock ++ Utf8.encode (record ++ "\n") := by
  simp only [stamp, recordLine, Utf8.encode, List.flatMap_append, List.append_assoc]

/-- A stamp starts with a bracket and ends in a space. -/
theorem stamp_shape (clock : Clock) : ∃ middle, stamp clock = 0x5B :: (middle ++ [0x20]) := by
  refine ⟨Utf8.encode clock.dateTime ++ [0x5D], ?_⟩
  have opening : Utf8.encode "[" = [0x5B] := by decide
  have closing : Utf8.encode "] " = [0x5D] ++ [0x20] := by decide
  calc stamp clock
      = Utf8.encode "[" ++ Utf8.encode clock.dateTime ++ Utf8.encode "] " := by
        simp only [stamp, Utf8.encode, List.flatMap_append]
    _ = 0x5B :: (Utf8.encode clock.dateTime ++ [0x5D] ++ [0x20]) := by
        rw [opening, closing]
        simp

/-- Contents that are the same up to the stamp of some record. -/
def SharesStart (clock : Clock) (content other : Bytes) : Prop :=
  ∃ old record otherRecord, content = old ++ stamp clock ++ record ∧
    other = old ++ stamp clock ++ otherRecord

namespace SharesStart

variable {clock : Clock} {content other : Bytes}

/-- Records added to the same content leave it the same up to their stamp. -/
theorem of_record (content record otherRecord : Bytes) :
    SharesStart clock (content ++ (stamp clock ++ record)) (content ++ (stamp clock ++ otherRecord)) :=
  ⟨content, record, otherRecord, by rw [List.append_assoc], by rw [List.append_assoc]⟩

/-- What is added behind a stamp changes nothing before it. -/
theorem append (shared : SharesStart clock content other) (more otherMore : Bytes) :
    SharesStart clock (content ++ more) (other ++ otherMore) := by
  obtain ⟨old, record, otherRecord, rfl, rfl⟩ := shared
  exact ⟨old, record ++ more, otherRecord ++ otherMore, by rw [List.append_assoc],
    by rw [List.append_assoc]⟩

end SharesStart

end Log

namespace Program

open Log (SharesStart stamp stamp_shape)

variable {clock : Clock} {content other : Bytes}

/-- Whether bytes start with a pattern, and what follows, is decided before a byte that is not in the
pattern. -/
theorem isPrefixOf?_append_foreign {pattern : Bytes} {foreign : UInt8}
    (outside : foreign ∉ pattern) (old : Bytes) :
    (∀ tail, List.isPrefixOf? pattern (old ++ foreign :: tail) = none) ∨
      ∃ rest, ∀ tail, List.isPrefixOf? pattern (old ++ foreign :: tail) =
        some (rest ++ foreign :: tail) := by
  induction pattern generalizing old with
  | nil => exact .inr ⟨old, fun tail => by simp [List.isPrefixOf?]⟩
  | cons first pattern inductionHypothesis =>
    rw [List.mem_cons, not_or] at outside
    cases old with
    | nil =>
      left
      intro tail
      simp [List.isPrefixOf?, Ne.symm outside.1]
    | cons b old =>
      by_cases same : first = b
      · simpa [List.isPrefixOf?, same] using inductionHypothesis outside.2 old
      · left
        intro tail
        simp [List.isPrefixOf?, same]

/-- A pattern without the bracket of a stamp is met in both contents or in neither, and what follows
it is the same up to the stamp again. -/
theorem isPrefixOf?_of_sharesStart {pattern : Bytes} (outside : 0x5B ∉ pattern)
    (shared : SharesStart clock content other) :
    (List.isPrefixOf? pattern content = none ∧ List.isPrefixOf? pattern other = none) ∨
      ∃ rest otherRest, List.isPrefixOf? pattern content = some rest ∧
        List.isPrefixOf? pattern other = some otherRest ∧ SharesStart clock rest otherRest := by
  obtain ⟨old, record, otherRecord, rfl, rfl⟩ := shared
  obtain ⟨middle, shape⟩ := stamp_shape clock
  have cut (tail : Bytes) : old ++ stamp clock ++ tail = old ++ 0x5B :: (middle ++ [0x20] ++ tail) := by
    simp [shape]
  rcases isPrefixOf?_append_foreign outside old with never | ⟨rest, always⟩
  · exact .inl ⟨by rw [cut, never], by rw [cut, never]⟩
  · refine .inr ⟨rest ++ stamp clock ++ record, rest ++ stamp clock ++ otherRecord, ?_, ?_,
      rest, record, otherRecord, rfl, rfl⟩
    · rw [cut, always]
      simp [shape]
    · rw [cut, always]
      simp [shape]

/-- Both contents are machine programs or neither is. -/
theorem isMachineProgram_of_sharesStart (shared : SharesStart clock content other) :
    isMachineProgram content = isMachineProgram other := by
  have outside : 0x5B ∉ 0x7F :: Utf8.encode "ELF" := by decide
  unfold isMachineProgram
  rw [← List.isSome_isPrefixOf?_eq_isPrefixOf, ← List.isSome_isPrefixOf?_eq_isPrefixOf]
  rcases isPrefixOf?_of_sharesStart outside shared with ⟨never, neither⟩ | ⟨_, _, met, also, -⟩
  · rw [never, neither]
  · rw [met, also]
    rfl

/-- The first word of a line, which ends where the line does. -/
def firstWord (bytes : Bytes) : Bytes :=
  (bytes.dropWhile isGap).takeWhile fun b => !isGap b && b != 0x0A

/-- The first word is over with the stamp. -/
theorem firstWord_of_sharesStart (shared : SharesStart clock content other) :
    firstWord content = firstWord other := by
  obtain ⟨old, record, otherRecord, rfl, rfl⟩ := shared
  obtain ⟨middle, shape⟩ := stamp_shape clock
  have word (tail : Bytes) : firstWord (old ++ stamp clock ++ tail) =
      ((old ++ 0x5B :: middle).dropWhile isGap).takeWhile fun b => !isGap b && b != 0x0A := by
    have cut : old ++ stamp clock ++ tail = (old ++ 0x5B :: middle) ++ 0x20 :: tail := by
      simp [shape]
    have solid : ((old ++ 0x5B :: middle).dropWhile isGap).isEmpty = false := by
      rw [List.dropWhile_append]
      split
      · rfl
      · simp
    have ended : (0x20 :: tail).takeWhile (fun b => !isGap b && b != 0x0A) = [] := rfl
    rw [firstWord, cut, List.dropWhile_append, solid, if_neg Bool.false_ne_true,
      List.takeWhile_append, ended, List.append_nil]
    split
    · next whole => exact ((List.takeWhile_prefix _).eq_of_length whole).symm
    · rfl
  rw [word, word]

/-- Blanks dropped at the front of a line are those dropped at the front of the text. -/
theorem dropWhile_line (bytes : Bytes) :
    (bytes.takeWhile (· != 0x0A)).dropWhile isGap =
      (bytes.dropWhile isGap).takeWhile (· != 0x0A) := by
  induction bytes with
  | nil => rfl
  | cons b rest inductionHypothesis =>
    by_cases gap : isGap b = true
    · have goesOn : (b != 0x0A) = true := by
        rcases Bool.or_eq_true_iff.mp gap with space | tab
        · simp [beq_iff_eq.mp space]
        · simp [beq_iff_eq.mp tab]
      simpa [gap, goesOn] using inductionHypothesis
    · by_cases goesOn : (b != 0x0A) = true
      · simp [gap, goesOn]
      · simp [gap, goesOn]

/-- Blanks dropped at the end of a line belong to no word. -/
theorem takeWhile_trimmed (line : Bytes) :
    ((line.reverse.dropWhile isGap).reverse).takeWhile (! isGap ·) =
      line.takeWhile (! isGap ·) := by
  have whole : line = (line.reverse.dropWhile isGap).reverse ++
      (line.reverse.takeWhile isGap).reverse := by
    rw [← List.reverse_append, List.takeWhile_append_dropWhile, List.reverse_reverse]
  have gaps : (line.reverse.takeWhile isGap).reverse.takeWhile (! isGap ·) = [] := by
    cases trailing : (line.reverse.takeWhile isGap).reverse with
    | nil => rfl
    | cons b rest =>
      have member : b ∈ line.reverse.takeWhile isGap := by
        rw [← List.mem_reverse, trailing]
        exact List.mem_cons_self
      simp [List.mem_takeWhile_imp member]
  generalize (line.reverse.dropWhile isGap).reverse = trimmed at whole ⊢
  rw [whole, List.takeWhile_append, gaps, List.append_nil]
  split
  · next all => exact (List.takeWhile_prefix _).eq_of_length all
  · rfl

/-- The interpreter of a script is named by the first word behind the mark. -/
theorem interpreter?_path (content : Bytes) :
    (interpreter? content).map (·.path.bytes) =
      ((List.isPrefixOf? (Utf8.encode "#!") content).map firstWord).filter (! ·.isEmpty) := by
  unfold interpreter?
  cases List.isPrefixOf? (Utf8.encode "#!") content with
  | none => rfl
  | some rest =>
    have word : (((((rest.takeWhile (· != 0x0A)).dropWhile isGap).reverse.dropWhile isGap).reverse
        ).takeWhile (! isGap ·)) = firstWord rest := by
      rw [takeWhile_trimmed, dropWhile_line, List.takeWhile_takeWhile, firstWord]
      congr 1
      funext b
      simp [bne, beq_eq_decide]
    simp only [Option.bind_eq_bind, Option.bind_some, word, Option.map_some]
    cases empty : (firstWord rest).isEmpty <;> simp [Option.filter, empty]

/-- Both contents are scripts for the same interpreter, up to its argument, or neither is one. -/
theorem interpreter?_of_sharesStart (shared : SharesStart clock content other) :
    (interpreter? content).map (·.path.bytes) = (interpreter? other).map (·.path.bytes) := by
  have outside : 0x5B ∉ Utf8.encode "#!" := by decide
  rw [interpreter?_path, interpreter?_path]
  rcases isPrefixOf?_of_sharesStart outside shared with
    ⟨never, neither⟩ | ⟨rest, otherRest, met, also, sharedRest⟩
  · rw [never, neither]
  · rw [met, also, Option.map_some, Option.map_some, firstWord_of_sharesStart sharedRest]

end Program

end FfiBindings
