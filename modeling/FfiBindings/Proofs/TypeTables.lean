import FfiBindings.Service.TypeMap

/-!
# The two type tables

Documented types and type hints are read from two tables. The rules for strings, maps and slices stand
first in both, and those for numbers and truth values behind them. The table of hints has one rule more
in between, for pointers that are none to characters, and the table of documentation has one more at its
end, for results that are nothing.

The first of these rules can hide nothing behind it, since no other type is spelled with a star in front.
So the tables differ on two kinds of types only. Where the pointer rule decides, the hint is an array and
the documentation says `mixed`. Where no rule of values decides, there is no hint, and the documentation
says `void` or `mixed`. Everywhere else the hint is the documented type.
-/

namespace FfiBindings.Service

/-- A token that is told by its star alone: a pointer, to characters neither by the fragment `char` nor
by a rule for strings, and to no map or slice that a rule tells. -/
structure GenericPointer (token : Text) : Prop where
  starred : List.isPrefixOf ("*" : Text) token = true
  noCharacters : Text.hasFragment "char" token = false
  unclaimed : ∀ rule ∈ leadingRules, rule.fits token = false

instance (token : Text) : Decidable (GenericPointer token) :=
  decidable_of_iff
    (List.isPrefixOf ("*" : Text) token = true ∧ Text.hasFragment "char" token = false ∧
      ∀ rule ∈ leadingRules, rule.fits token = false)
    ⟨fun ⟨starred, noCharacters, unclaimed⟩ => ⟨starred, noCharacters, unclaimed⟩,
      fun ⟨starred, noCharacters, unclaimed⟩ => ⟨starred, noCharacters, unclaimed⟩⟩

variable {token : Text}

/-- The rules of one table are tried before those of another. -/
theorem firstFit_append (front back : List TypeRule) (token : Text) :
    firstFit (front ++ back) token = (firstFit front token).or (firstFit back token) := by
  rw [firstFit, firstFit, firstFit, List.find?_append, Option.map_or]

/-- No type is read where no rule fits. -/
theorem firstFit_eq_none_iff {rules : List TypeRule} :
    firstFit rules token = none ↔ ∀ rule ∈ rules, rule.fits (Text.trim token) = false := by
  simp [firstFit]

/-- A type that was read is that of a rule. -/
theorem exists_rule_of_firstFit {rules : List TypeRule} {type : ValueType}
    (read : firstFit rules token = some type) : ∃ rule ∈ rules, rule.type = type := by
  obtain ⟨rule, found, rfl⟩ := Option.map_eq_some_iff.mp read
  exact ⟨rule, List.mem_of_find?_eq_some found, rfl⟩

/-- The rules that both tables share give types of values. -/
theorem ne_of_sharedRules {type : ValueType}
    (read : firstFit (leadingRules ++ scalarRules) token = some type) :
    type ≠ .void ∧ type ≠ .mixed := by
  obtain ⟨rule, member, rfl⟩ := exists_rule_of_firstFit read
  have valued : ∀ rule ∈ leadingRules ++ scalarRules, rule.type ≠ .void ∧ rule.type ≠ .mixed := by
    decide
  exact valued rule member

/-- The rule for results that are nothing. -/
def voidRule : TypeRule := ⟨isOneOf voidSpellings, .void⟩

/-- The rule for pointers to anything but characters. -/
def pointerRule : TypeRule := ⟨isOtherPointer, .array⟩

/-- The documented type is read from the shared rules, and from the rule for nothing behind them. -/
theorem firstFit_docRules (token : Text) : firstFit docRules token =
    ((firstFit leadingRules token).or (firstFit scalarRules token)).or (firstFit [voidRule] token) := by
  rw [← firstFit_append, ← firstFit_append]
  rfl

/-- The hint is read from the shared rules, and from the rule for pointers between them. -/
theorem firstFit_hintRules (token : Text) : firstFit hintRules token =
    ((firstFit leadingRules token).or (firstFit [pointerRule] token)).or
      (firstFit scalarRules token) := by
  rw [← firstFit_append, ← firstFit_append]
  rfl

/-- A table of one rule gives its type where the rule fits. -/
theorem firstFit_singleton (rule : TypeRule) (token : Text) :
    firstFit [rule] token = if rule.fits (Text.trim token) then some rule.type else none := by
  cases fits : rule.fits (Text.trim token) <;> simp [firstFit, fits]

/-- A token with a star in front is none of the spellings without one. -/
theorem isOneOf_of_starred (spellings : List Text)
    (starred : List.isPrefixOf ("*" : Text) token = true)
    (plain : ∀ spelling ∈ spellings, List.isPrefixOf ("*" : Text) spelling = false) :
    isOneOf spellings token = false := by
  rw [← Bool.not_eq_true]
  intro listed
  have member : token ∈ spellings := by simpa [isOneOf] using listed
  rw [plain token member] at starred
  contradiction

/-- No number, truth value or result that is nothing is spelled with a star in front. -/
theorem firstFit_of_starred (starred : List.isPrefixOf ("*" : Text) (Text.trim token) = true) :
    firstFit scalarRules token = none ∧ firstFit [voidRule] token = none := by
  have integer := isOneOf_of_starred integerSpellings starred (by decide)
  have float := isOneOf_of_starred floatSpellings starred (by decide)
  have bool := isOneOf_of_starred boolSpellings starred (by decide)
  have void := isOneOf_of_starred voidSpellings starred (by decide)
  constructor
  · simp [firstFit_eq_none_iff, scalarRules, integer, float, bool]
  · simp [firstFit_eq_none_iff, voidRule, void]

/-- A generic pointer is a token on which the rule for pointers decides. -/
theorem genericPointer_iff : GenericPointer (Text.trim token) ↔
    firstFit leadingRules token = none ∧ isOtherPointer (Text.trim token) = true := by
  rw [firstFit_eq_none_iff, isOtherPointer, Bool.and_eq_true, Bool.not_eq_true']
  exact ⟨fun ⟨starred, noCharacters, unclaimed⟩ => ⟨unclaimed, starred, noCharacters⟩,
    fun ⟨unclaimed, starred, noCharacters⟩ => ⟨starred, noCharacters, unclaimed⟩⟩

/-- How a token can be typed: as a generic pointer, without a hint, or alike by both tables. The cases
follow the tables: a leading rule, the rule for pointers, a rule for numbers and truth values, none. -/
theorem types_cases (token : Text) :
    (GenericPointer (Text.trim token) ∧ hintType token = some .array ∧ docType token = .mixed) ∨
    (¬ GenericPointer (Text.trim token) ∧ hintType token = none ∧
      (docType token = .void ∨ docType token = .mixed)) ∨
    (¬ GenericPointer (Text.trim token) ∧ docType token ≠ .void ∧ docType token ≠ .mixed ∧
      hintType token = some (docType token)) := by
  have shared {type : ValueType}
      (read : (firstFit leadingRules token).or (firstFit scalarRules token) = some type) :
      type ≠ .void ∧ type ≠ .mixed := ne_of_sharedRules (by rw [firstFit_append, read])
  rw [genericPointer_iff, hintType, docType, firstFit_docRules, firstFit_hintRules,
    firstFit_singleton pointerRule]
  cases leading : firstFit leadingRules token with
  | some type =>
    have valued := shared (by rw [leading]; rfl)
    exact .inr (.inr ⟨by simp, valued.1, valued.2, rfl⟩)
  | none =>
    cases pointer : isOtherPointer (Text.trim token) with
    | true =>
      have generic := genericPointer_iff.mpr ⟨leading, pointer⟩
      obtain ⟨scalar, void⟩ := firstFit_of_starred generic.starred
      exact .inl ⟨by simp, by simp [pointerRule, pointer, scalar], by simp [scalar, void]⟩
    | false =>
      cases scalar : firstFit scalarRules token with
      | some type =>
        have valued := shared (by rw [leading, scalar]; rfl)
        exact .inr (.inr ⟨by simp, valued.1, valued.2, by simp [pointerRule, pointer]⟩)
      | none =>
        refine .inr (.inl ⟨by simp, by simp [pointerRule, pointer], ?_⟩)
        rw [firstFit_singleton]
        cases voidRule.fits (Text.trim token)
        · exact .inr rfl
        · exact .inl rfl

/-- No hint is read just for the spellings of nothing and for tokens that no rule tells. The rules for
hints fit none of these spellings, and there is only the rule for them beside the rules for hints. -/
theorem hintType_eq_none_iff (token : Text) : hintType token = none ↔
    (Text.trim token = "void" ∨ Text.trim token = "") ∨
      ∀ rule ∈ docRules ++ hintRules, rule.fits (Text.trim token) = false := by
  have unhinted : ∀ spelling ∈ voidSpellings, ∀ rule ∈ hintRules, rule.fits spelling = false := by
    decide
  have spelled_iff : Text.trim token ∈ voidSpellings ↔
      Text.trim token = "void" ∨ Text.trim token = "" := by simp [voidSpellings]
  have rule_cases : ∀ rule ∈ docRules ++ hintRules, rule ∈ hintRules ∨ rule = voidRule := by
    intro rule member
    simp only [docRules, hintRules, List.mem_append, List.mem_singleton] at member ⊢
    rcases member with ((leading | scalar) | void) | hinted
    · exact .inl (.inl (.inl leading))
    · exact .inl (.inr scalar)
    · exact .inr void
    · exact .inl hinted
  rw [hintType, firstFit_eq_none_iff, ← spelled_iff]
  constructor
  · intro unread
    by_cases spelled : Text.trim token ∈ voidSpellings
    · exact .inl spelled
    · refine .inr fun rule member => ?_
      rcases rule_cases rule member with hinted | rfl
      · exact unread rule hinted
      · simpa [voidRule, isOneOf] using spelled
  · rintro (spelled | untold)
    · exact unhinted _ spelled
    · exact fun rule member => untold rule (List.mem_append_right _ member)

/-- How the two tables agree. On a generic pointer the hint is an array and the documentation says
`mixed`. On any other token there is no hint where the documentation says `void` or `mixed`, and else the
hint is the documented type. So a hint is missing just for `void`, for the empty token and for tokens
that no rule tells, and a hint contradicts the documentation just on generic pointers. -/
theorem hintType_against_docType (token : Text) :
    (GenericPointer (Text.trim token) → hintType token = some .array ∧ docType token = .mixed) ∧
    (¬ GenericPointer (Text.trim token) → docType token = .void ∨ docType token = .mixed →
      hintType token = none) ∧
    (¬ GenericPointer (Text.trim token) → ¬ (docType token = .void ∨ docType token = .mixed) →
      hintType token = some (docType token)) ∧
    (hintType token = none ↔ (Text.trim token = "void" ∨ Text.trim token = "") ∨
      ∀ rule ∈ docRules ++ hintRules, rule.fits (Text.trim token) = false) ∧
    ((∃ hint, hintType token = some hint ∧ hint ≠ docType token) ↔
      GenericPointer (Text.trim token)) := by
  have none_iff := hintType_eq_none_iff token
  rcases types_cases token with
    ⟨generic, hint, doc⟩ | ⟨other, hint, doc⟩ | ⟨other, notVoid, notMixed, hint⟩
  · refine ⟨fun _ => ⟨hint, doc⟩, fun other => absurd generic other, fun other => absurd generic other,
      none_iff, fun _ => generic, fun _ => ⟨_, hint, by rw [doc]; decide⟩⟩
  · refine ⟨fun generic => absurd generic other, fun _ _ => hint, fun _ valued => absurd doc valued,
      none_iff, ?_, fun generic => absurd generic other⟩
    rintro ⟨type, read, -⟩
    rw [hint] at read
    contradiction
  · refine ⟨fun generic => absurd generic other, fun _ loose => ?_, fun _ _ => hint, none_iff, ?_,
      fun generic => absurd generic other⟩
    · exact absurd loose (not_or.mpr ⟨notVoid, notMixed⟩)
    · rintro ⟨type, read, different⟩
      exact absurd (Option.some.inj (read.symm.trans hint)) different

/-- The law at three pointers: to a structure, to characters that no rule tells, and to a string. -/
theorem hintType_against_docType_pointers :
    (GenericPointer (Text.trim " *C.GoInt ") ∧ hintType " *C.GoInt " = some .array ∧
      docType " *C.GoInt " = .mixed) ∧
    (¬ GenericPointer (Text.trim "*C.uchar") ∧
      (docType "*C.uchar" = .void ∨ docType "*C.uchar" = .mixed) ∧ hintType "*C.uchar" = none) ∧
    (¬ GenericPointer (Text.trim "**C.char") ∧
      ¬ (docType "**C.char" = .void ∨ docType "**C.char" = .mixed) ∧
      hintType "**C.char" = some (docType "**C.char")) := by
  have generic : GenericPointer (Text.trim " *C.GoInt ") := by decide
  have obscure : ¬ GenericPointer (Text.trim "*C.uchar") := by decide
  have loose : docType "*C.uchar" = .void ∨ docType "*C.uchar" = .mixed := by decide
  have known : ¬ GenericPointer (Text.trim "**C.char") := by decide
  have valued : ¬ (docType "**C.char" = .void ∨ docType "**C.char" = .mixed) := by decide
  exact ⟨⟨generic, (hintType_against_docType _).1 generic⟩,
    ⟨obscure, loose, (hintType_against_docType _).2.1 obscure loose⟩,
    ⟨known, valued, (hintType_against_docType _).2.2.1 known valued⟩⟩

end FfiBindings.Service
