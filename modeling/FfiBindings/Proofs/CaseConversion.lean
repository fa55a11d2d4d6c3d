import FfiBindings.Service.Name
import FfiBindings.Proofs.Encoding
import FfiBindings.Proofs.Pieces

/-!
# What case conversion leaves alone

A character is converted to letters of ASCII and characters outside of ASCII, or else stays what it
is. The tables of case conversion are checked once for that; the laws about texts and names follow
without looking into them again. So a base name without line feeds gives identifiers without line
feeds, and one without slashes gives none with them. Underscores divide the parts of a base name, and
no class name has any.
-/

namespace FfiBindings.Text

/-- The code points that characters are converted to: the letters of ASCII and all characters outside
of it. -/
def formRanges : List (Nat × Nat) :=
  [(0x41, 0x5A), (0x61, 0x7A), (0x80, 0xD7FF), (0xE000, 0x10FFFF)]

/-- Whether a character may be the result of a conversion. -/
def isCaseForm (c : Char) : Bool := inRanges formRanges c.toNat

/-- These code points stand for themselves. -/
theorem isCaseForm_ofNat {code : Nat} (inside : inRanges formRanges code = true) :
    isCaseForm (Char.ofNat code) = true := by
  have valid : code.isValidChar := by
    simp only [inRanges, formRanges, List.any_cons, List.any_nil, Bool.or_false, Bool.or_eq_true,
      Bool.and_eq_true, decide_eq_true_eq] at inside
    unfold Nat.isValidChar
    omega
  rwa [isCaseForm, Utf8.toNat_ofNat_scalar valid]

/-- What holds of the characters of ASCII, code by code. -/
theorem ascii_forall {P : Char → Prop} (table : ∀ code < 0x80, P (Char.ofNat code)) {c : Char}
    (ascii : c.toNat < 0x80) : P c := by
  have here := table c.toNat ascii
  rwa [Char.ofNat_toNat] at here

/-- The two case conversions of ASCII give letters, or else the character itself. -/
theorem ascii_cases {c : Char} (ascii : c.toNat < 0x80) :
    (c.toLower = c ∨ isCaseForm c.toLower = true) ∧
      (c.toUpper = c ∨ isCaseForm c.toUpper = true) :=
  ascii_forall (P := fun c => (c.toLower = c ∨ isCaseForm c.toLower = true) ∧
    (c.toUpper = c ∨ isCaseForm c.toUpper = true)) (by decide +kernel) ascii

/-- Whether a run moves its code points into one of the ranges. -/
def CaseRun.staysInside (run : CaseRun) : Bool :=
  formRanges.any fun range =>
    (range.1 : Int) ≤ run.first + run.distance && run.last + run.distance ≤ (range.2 : Int)

/-- What a character is moved to by runs that stay inside the ranges. -/
theorem shiftCase_cases {runs : List CaseRun} (inside : ∀ run ∈ runs, run.staysInside = true)
    (c : Char) : shiftCase runs c = c ∨ isCaseForm (shiftCase runs c) = true := by
  unfold shiftCase
  dsimp only
  split
  · next run found =>
    right
    apply isCaseForm_ofNat
    have stays := inside run (List.mem_of_find?_eq_some found)
    have held := List.find?_some found
    obtain ⟨range, isRange, low, high⟩ : ∃ range ∈ formRanges,
        (range.1 : Int) ≤ run.first + run.distance ∧ run.last + run.distance ≤ (range.2 : Int) := by
      simpa [CaseRun.staysInside] using stays
    simp only [Bool.and_eq_true, decide_eq_true_eq] at held
    refine List.any_eq_true.mpr ⟨range, isRange, ?_⟩
    simp only [Bool.and_eq_true, decide_eq_true_eq]
    omega
  · exact .inl rfl

/-- The lowercase form of a character. -/
theorem mem_lowerChar {c d : Char} (member : d ∈ lowerChar c) : d = c ∨ isCaseForm d = true := by
  have inside : ∀ run ∈ lowerRuns, run.staysInside = true := by decide +kernel
  unfold lowerChar at member
  split at member
  · next ascii =>
    rw [List.mem_singleton.mp member]
    exact (ascii_cases ascii).1
  · split at member
    · have forms : ['i', '\u0307'].all isCaseForm = true := by decide +kernel
      exact .inr (List.all_eq_true.mp forms d member)
    · rw [List.mem_singleton.mp member]
      exact shiftCase_cases inside c

/-- The uppercase form of a character. -/
theorem mem_upperChar {c d : Char} (member : d ∈ upperChar c) : d = c ∨ isCaseForm d = true := by
  have inside : ∀ run ∈ upperRuns, run.staysInside = true := by decide +kernel
  have sequences : ∀ entry ∈ upperSequences, ∀ code ∈ entry.2, inRanges formRanges code = true := by
    decide +kernel
  unfold upperChar at member
  split at member
  · next ascii =>
    rw [List.mem_singleton.mp member]
    exact (ascii_cases ascii).2
  · split at member
    · next codes found =>
      obtain ⟨front, back, whole, _⟩ := List.lookup_eq_some_iff.mp found
      obtain ⟨code, inCodes, rfl⟩ := List.mem_map.mp member
      have entry : (c.toNat, codes) ∈ upperSequences := by simp [whole]
      exact .inr (isCaseForm_ofNat (sequences _ entry code inCodes))
    · rw [List.mem_singleton.mp member]
      exact shiftCase_cases inside c

/-- A character without case does not come from others. -/
theorem notMem_lower {d : Char} (caseless : isCaseForm d = false) {text : Text}
    (without : d ∉ text) : d ∉ lower text := by
  have after (before : Text) : d ∉ lowerAfter before text := by
    induction text generalizing before with
    | nil => exact List.not_mem_nil
    | cons c rest inductionHypothesis =>
      rw [List.mem_cons, not_or] at without
      have tail := inductionHypothesis without.2 (c :: before)
      have notForm (form : Char) (isForm : isCaseForm form = true) : d ≠ form := by
        rintro rfl
        simp [isForm] at caseless
      unfold lowerAfter
      dsimp only
      rw [List.mem_append, not_or]
      refine ⟨?_, tail⟩
      split
      · split
        · simpa using notForm '\u03C2' (by decide)
        · simpa using notForm '\u03C3' (by decide)
      · intro member
        exact (mem_lowerChar member).elim without.1 fun isForm => notForm d isForm rfl
  exact after []

/-- No uppercase form is empty. -/
theorem upperChar_ne_nil (c : Char) : upperChar c ≠ [] := by
  have sequences : ∀ entry ∈ upperSequences, entry.2 ≠ [] := by decide +kernel
  unfold upperChar
  split
  · exact List.cons_ne_nil _ _
  · split
    · next codes found =>
      obtain ⟨front, back, whole, _⟩ := List.lookup_eq_some_iff.mp found
      have entry : (c.toNat, codes) ∈ upperSequences := by simp [whole]
      simpa using sequences _ entry
    · exact List.cons_ne_nil _ _

end FfiBindings.Text

namespace FfiBindings.Service

/-- A base name without line feeds gives a namespace segment without them. -/
theorem break_notMem_snakeCase {base : Text} (whole : '\n' ∉ base) : '\n' ∉ snakeCase base := by
  apply Text.notMem_lower (by decide)
  rw [List.mem_append, not_or]
  refine ⟨fun member => whole (List.mem_of_mem_take member), fun member => ?_⟩
  obtain ⟨c, inRest, isBreak⟩ := List.mem_flatMap.mp member
  have other : c ≠ '\n' := fun same => whole (same ▸ List.mem_of_mem_drop inRest)
  have fromCapital : '\n' ∈ ['_', c] := by
    split at isBreak
    · exact isBreak
    · exact List.mem_cons_of_mem _ isBreak
  exact other (List.mem_singleton.mp (List.mem_of_ne_of_mem (by decide) fromCapital)).symm

/-- A character of a class name is one of a part of the base name, or comes from its conversion. -/
theorem mem_pascalCase {base : Text} {d : Char} (member : d ∈ pascalCase base) :
    Text.isCaseForm d = true ∨ ∃ part ∈ Text.split '_' base, d ∈ part := by
  obtain ⟨part, cut, inPart⟩ := List.mem_flatMap.mp member
  cases part with
  | nil => contradiction
  | cons c rest =>
    rcases List.mem_append.mp inPart with inFirst | inRest
    · rcases Text.mem_upperChar inFirst with rfl | isForm
      · exact .inr ⟨d :: rest, cut, List.mem_cons_self⟩
      · exact .inl isForm
    · exact .inr ⟨c :: rest, cut, List.mem_cons_of_mem c inRest⟩

/-- A character without case is in a class name only if it is in the base name. -/
theorem notMem_pascalCase {d : Char} (caseless : Text.isCaseForm d = false) {base : Text}
    (without : d ∉ base) : d ∉ pascalCase base := by
  intro member
  rcases mem_pascalCase member with isForm | ⟨part, cut, inPart⟩
  · simp [isForm] at caseless
  · exact without (Text.mem_of_mem_splitWhen cut inPart)

/-- A base name without line feeds gives a class name without them. -/
theorem break_notMem_pascalCase {base : Text} (whole : '\n' ∉ base) : '\n' ∉ pascalCase base :=
  notMem_pascalCase (by decide) whole

/-- No underscore is left in a class name. -/
theorem underscore_notMem_pascalCase (base : Text) : '_' ∉ pascalCase base := by
  intro member
  rcases mem_pascalCase member with isForm | ⟨part, cut, inPart⟩
  · revert isForm
    decide
  · simpa using Text.kept_of_mem_splitWhen cut inPart

/-- Without underscores nothing of a base name is lost in the class name. -/
theorem length_le_pascalCase {base : Text} (single : '_' ∉ base) :
    base.length ≤ (pascalCase base).length := by
  have onePart : Text.split '_' base = [base] := by
    induction base with
    | nil => rfl
    | cons c rest inductionHypothesis =>
      rw [List.mem_cons, not_or] at single
      have rest_eq := inductionHypothesis single.2
      unfold Text.split at rest_eq ⊢
      simp [Text.splitWhen, rest_eq, Ne.symm single.1]
  rw [pascalCase, onePart, List.flatMap_cons, List.flatMap_nil, List.append_nil]
  cases base with
  | nil => exact Nat.le_refl 0
  | cons c rest =>
    have some := List.length_pos_iff.mpr (Text.upperChar_ne_nil c)
    rw [capitalise, List.length_append, List.length_cons]
    omega

/-- No base name is that of its own service class. -/
theorem ne_className (base : Text) : base ≠ (Names.ofBaseName base).className := by
  intro same
  have shape : base = pascalCase base ++ "Service" := same
  have single : '_' ∉ base := by
    rw [shape, List.mem_append, not_or]
    exact ⟨underscore_notMem_pascalCase base, by decide⟩
  have long := length_le_pascalCase single
  have longer := congrArg List.length shape
  rw [List.length_append] at longer
  have ending : ("Service" : Text).length = 7 := by decide
  omega

end FfiBindings.Service
