import FfiBindings.Proofs.CaseConversion

/-!
# Capitals and word breaks

The segment of the namespace has an underscore before every capital of ASCII but the first character,
and then all of it is lowercased, capitals of other scripts included. So those lose their form without a
word break before them. The segment is the lowercase form of the name with all its capitals separated
just where it has no capitals beyond ASCII behind its first character; each one that it has costs an
underscore.

A capital is any letter with the Unicode property `Uppercase`. The table of lowercase forms lists those
that have such a form of their own. Titlecase letters are listed there too and are no capitals; and some
capitals, most of them mathematical alphabets, have no lowercase form.
-/

namespace FfiBindings.Text

/-- Inclusive ranges of titlecase letters, which have a lowercase form and are no capitals. -/
def titlecaseRanges : List (Nat × Nat) := [
  (0x1C5, 0x1C5), (0x1C8, 0x1C8), (0x1CB, 0x1CB), (0x1F2, 0x1F2), (0x1F88, 0x1F8F),
  (0x1F98, 0x1F9F), (0x1FA8, 0x1FAF), (0x1FBC, 0x1FBC), (0x1FCC, 0x1FCC), (0x1FFC, 0x1FFC)]

/-- Inclusive ranges of capitals without a single lowercase character. -/
def loneCapitalRanges : List (Nat × Nat) := [
  (0x130, 0x130), (0x3D2, 0x3D4), (0x2102, 0x2102), (0x2107, 0x2107), (0x210B, 0x210D),
  (0x2110, 0x2112), (0x2115, 0x2115), (0x2119, 0x211D), (0x2124, 0x2124), (0x2128, 0x2128),
  (0x212C, 0x212D), (0x2130, 0x2131), (0x2133, 0x2133), (0x213E, 0x213F), (0x2145, 0x2145),
  (0x1D400, 0x1D419), (0x1D434, 0x1D44D), (0x1D468, 0x1D481), (0x1D49C, 0x1D49C),
  (0x1D49E, 0x1D49F), (0x1D4A2, 0x1D4A2), (0x1D4A5, 0x1D4A6), (0x1D4A9, 0x1D4AC),
  (0x1D4AE, 0x1D4B5), (0x1D4D0, 0x1D4E9), (0x1D504, 0x1D505), (0x1D507, 0x1D50A),
  (0x1D50D, 0x1D514), (0x1D516, 0x1D51C), (0x1D538, 0x1D539), (0x1D53B, 0x1D53E),
  (0x1D540, 0x1D544), (0x1D546, 0x1D546), (0x1D54A, 0x1D550), (0x1D56C, 0x1D585),
  (0x1D5A0, 0x1D5B9), (0x1D5D4, 0x1D5ED), (0x1D608, 0x1D621), (0x1D63C, 0x1D655),
  (0x1D670, 0x1D689), (0x1D6A8, 0x1D6C0), (0x1D6E2, 0x1D6FA), (0x1D71C, 0x1D734),
  (0x1D756, 0x1D76E), (0x1D790, 0x1D7A8), (0x1D7CA, 0x1D7CA), (0x1F130, 0x1F149),
  (0x1F150, 0x1F169), (0x1F170, 0x1F189)]

/-- Whether a run holds a code point. -/
def CaseRun.holds (run : CaseRun) (code : Nat) : Bool :=
  run.first ≤ code && code ≤ run.last && (code - run.first) % run.step == 0

/-- Whether a character is a capital of any script. -/
def isCapital (c : Char) : Bool :=
  lowerRuns.any (·.holds c.toNat) && !inRanges titlecaseRanges c.toNat ||
    inRanges loneCapitalRanges c.toNat

/-- Greek and Cyrillic capitals, a roman numeral and a mathematical letter are capitals; a titlecase
digraph and the sharp s are none. -/
example : ['Σ', 'Ж', 'Ⅷ', '𝐀', 'İ'].all isCapital = true ∧ ['ǅ', 'ß', '7', '_'].any isCapital = false := by
  decide +kernel

/-- The capitals of ASCII. -/
theorem isCapital_of_ascii {c : Char} (ascii : c.toNat < 0x80) : isCapital c = c.isUpper :=
  ascii_forall (P := fun c => isCapital c = c.isUpper) (by decide +kernel) ascii

/-- A capital of ASCII is one. -/
theorem isCapital_of_isUpper {c : Char} (upper : c.isUpper = true) : isCapital c = true := by
  have ascii : c.toNat < 0x80 := by
    obtain ⟨-, upTo⟩ : 'A'.val ≤ c.val ∧ c.val ≤ 'Z'.val := of_decide_eq_true upper
    have bound : c.val.toNat ≤ 'Z'.val.toNat := UInt32.le_iff_toNat_le.mp upTo
    exact Nat.lt_of_le_of_lt bound (by decide)
  rw [isCapital_of_ascii ascii, upper]

/-- Lowercasing makes no underscores and takes none away. -/
theorem count_underscore_lower (text : Text) : (lower text).count '_' = text.count '_' := by
  have kept : isCaseForm '_' = false := by decide
  have after (before : Text) : (lowerAfter before text).count '_' = text.count '_' := by
    induction text generalizing before with
    | nil => rfl
    | cons c rest inductionHypothesis =>
      rw [lowerAfter, List.count_append, inductionHypothesis, List.count_cons, Nat.add_comm]
      congr 1
      split
      · next isSigma =>
        obtain rfl : c = '\u03A3' := by simpa using isSigma
        split <;> rfl
      · by_cases underscore : c = '_'
        · rw [underscore]
          rfl
        · have absent : '_' ∉ lowerChar c := fun member =>
            (mem_lowerChar member).elim (fun same => underscore same.symm) (by simp [kept])
          rw [if_neg (by simpa using underscore), List.count_eq_zero.mpr absent]
  exact after []

end FfiBindings.Text

namespace FfiBindings.Service

open Text (isCapital)

/-- A text with an underscore before every character that satisfies the test. -/
def separateBefore (test : Char → Bool) (text : Text) : Text :=
  text.flatMap fun c => if test c then ['_', c] else [c]

/-- A name with an underscore before every character but its first one that satisfies the test. -/
def separated (test : Char → Bool) (name : Text) : Text :=
  name.take 1 ++ separateBefore test (name.drop 1)

/-- Only the capitals of ASCII are separated. -/
theorem snakeCase_eq_separated (name : Text) : snakeCase name = Text.lower (separated Char.isUpper name) :=
  rfl

/-- Every separated character brings one underscore. -/
theorem count_separateBefore (test : Char → Bool) (text : Text) (plain : test '_' = false) :
    (separateBefore test text).count '_' = text.count '_' + text.countP test := by
  induction text with
  | nil => rfl
  | cons c rest inductionHypothesis =>
    rw [separateBefore, List.flatMap_cons, ← separateBefore, List.count_append, inductionHypothesis]
    cases tested : test c with
    | true =>
      have other : c ≠ '_' := by
        rintro rfl
        rw [plain] at tested
        contradiction
      rw [List.countP_cons_of_pos tested, if_pos rfl, List.count_cons_self, List.count_cons_of_ne other,
        List.count_cons_of_ne other, List.count_nil]
      omega
    | false =>
      rw [List.countP_cons_of_neg (by simp [tested]), if_neg Bool.false_ne_true, List.count_singleton,
        List.count_cons]
      omega

theorem separateBefore_congr {test other : Char → Bool} {text : Text}
    (same : ∀ c ∈ text, test c = other c) : separateBefore test text = separateBefore other text :=
  List.flatMap_congr fun c member => by rw [same c member]

/-- Capitals are those of ASCII and those beyond it. -/
theorem countP_isCapital (text : Text) :
    text.countP isCapital =
      text.countP Char.isUpper + text.countP fun c => isCapital c && !c.isUpper := by
  induction text with
  | nil => rfl
  | cons c rest inductionHypothesis =>
    rw [List.countP_cons, List.countP_cons, List.countP_cons, inductionHypothesis]
    cases upper : c.isUpper with
    | true =>
      simp only [Text.isCapital_of_isUpper upper, Bool.not_true, Bool.and_false, Bool.false_eq_true,
        if_true, if_false]
      omega
    | false =>
      simp only [Bool.not_false, Bool.and_true, Bool.false_eq_true, if_false]
      omega

/-- Which capitals a namespace segment separates. Of the underscores that would stand before capitals as
many are missing as there are capitals beyond ASCII behind the first character. So the segment is the
lowercase form of the name with its capitals separated just where there are none of these. -/
theorem snakeCase_separates (name : Text) :
    (Text.lower (separated isCapital name)).count '_' =
        (snakeCase name).count '_' + (name.drop 1).countP (fun c => isCapital c && !c.isUpper) ∧
      (snakeCase name = Text.lower (separated isCapital name) ↔
        ∀ c ∈ name.drop 1, isCapital c = true → c.isUpper = true) := by
  have missing : (Text.lower (separated isCapital name)).count '_' =
      (snakeCase name).count '_' + (name.drop 1).countP (fun c => isCapital c && !c.isUpper) := by
    have plain : isCapital '_' = false ∧ '_'.isUpper = false := by decide +kernel
    rw [snakeCase_eq_separated, Text.count_underscore_lower, Text.count_underscore_lower, separated,
      separated, List.count_append, List.count_append, count_separateBefore _ _ plain.1,
      count_separateBefore _ _ plain.2, countP_isCapital]
    omega
  refine ⟨missing, ?_, ?_⟩
  · intro same
    have none : (name.drop 1).countP (fun c => isCapital c && !c.isUpper) = 0 := by
      rw [same] at missing
      omega
    intro c member capital
    have unmet := List.countP_eq_zero.mp none c member
    rw [capital] at unmet
    simpa using unmet
  · intro ascii
    have alike : separateBefore Char.isUpper (name.drop 1) = separateBefore isCapital (name.drop 1) := by
      refine separateBefore_congr fun c member => ?_
      cases capital : isCapital c with
      | true => exact ascii c member capital
      | false =>
        cases upper : c.isUpper with
        | true => rw [Text.isCapital_of_isUpper upper] at capital; contradiction
        | false => rfl
    rw [snakeCase_eq_separated, separated, separated, alike]

/-- An accented capital is lowercased with nothing before it. -/
theorem not_separated_accented :
    snakeCase "myÉcole" = "myécole" ∧ Text.lower (separated isCapital "myÉcole") = "my_école" ∧
      ¬ ∀ name, snakeCase name = Text.lower (separated isCapital name) := by
  have joined : snakeCase "myÉcole" = "myécole" := by decide +kernel
  have apart : Text.lower (separated isCapital "myÉcole") = "my_école" := by decide +kernel
  refine ⟨joined, apart, fun always => ?_⟩
  have same := always "myÉcole"
  rw [joined, apart] at same
  exact absurd same (by decide)

end FfiBindings.Service
