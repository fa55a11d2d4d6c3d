import FfiBindings.Proofs.FileNames
import FfiBindings.Proofs.Saving

/-!
# Paths that are texts

A path may be any bytes, and those that spell a text are shown as they are. A slash among the bytes of a
text is a slash of the text, so a joined path is a text just where both of its parts are. What a project
file holds is read as texts, and so are the paths in it.
-/

namespace FfiBindings

namespace Utf8

/-- Bytes are shown as they are just where they are those of a text. -/
theorem encode_decodeLossy_iff {bytes : Bytes} :
    encode (decodeLossy bytes) = bytes ↔ ∃ text, bytes = encode text := by
  constructor
  · exact fun same => ⟨decodeLossy bytes, same.symm⟩
  · rintro ⟨text, rfl⟩
    rw [decodeLossy_encode]

end Utf8

namespace Path

variable {path directory : Path}

theorem isText_iff : path.IsText ↔ ∃ text, path.bytes = Utf8.encode text := by
  constructor
  · rintro ⟨text, rfl⟩
    exact ⟨text, rfl⟩
  · rintro ⟨text, spelled⟩
    exact ⟨text, congrArg Path.mk spelled⟩

theorem isText_ofText (text : Text) : (ofText text).IsText := ⟨text, rfl⟩

/-- What is shown of a path is the path itself just where it is a text. -/
theorem ofText_display_iff : ofText path.display = path ↔ path.IsText := by
  rw [isText_iff, ← Utf8.encode_decodeLossy_iff]
  constructor
  · exact fun same => congrArg Path.bytes same
  · exact fun same => congrArg Path.mk same

/-- On both sides of a slash, a text is a text. -/
theorem isText_append_slash {front back : Bytes} :
    IsText ⟨front ++ slash :: back⟩ ↔ IsText ⟨front⟩ ∧ IsText ⟨back⟩ := by
  simp only [isText_iff]
  constructor
  · rintro ⟨text, spelled⟩
    obtain ⟨before, after, -, isFront, isBack⟩ :=
      Utf8.exists_cut_of_ascii (by decide) spelled.symm
    exact ⟨⟨before, isFront⟩, ⟨after, isBack⟩⟩
  · rintro ⟨⟨before, rfl⟩, ⟨after, rfl⟩⟩
    exact ⟨before ++ '/' :: after, by rw [Utf8.encode_append]; rfl⟩

theorem isText_beforeName (directory : Path) : IsText ⟨directory.beforeName⟩ ↔ directory.IsText := by
  unfold beforeName
  split
  · rfl
  · rw [isText_append_slash]
    exact and_iff_left ⟨[], rfl⟩

/-- A joined path is a text where both parts are. An absolute path stands for itself. -/
theorem isText_join :
    (directory.join path).IsText ↔
      path.IsText ∧ (path.isAbsolute = true ∨ directory.IsText) := by
  cases absolute : path.isAbsolute with
  | true =>
    rw [join, absolute, if_pos rfl]
    exact (and_iff_left (.inl rfl)).symm
  | false =>
    rw [join_of_relative absolute, ← isText_beforeName directory]
    rcases allowsName_beforeName directory with empty | ⟨rest, ended⟩
    · rw [empty, List.nil_append]
      exact (and_iff_left (.inr ⟨[], rfl⟩)).symm
    · rw [ended, List.append_assoc, List.singleton_append, isText_append_slash, isText_append_slash]
      have blank : IsText ⟨[]⟩ := ⟨[], rfl⟩
      simp only [Bool.false_eq_true, false_or, blank, and_true]
      exact And.comm

end Path

/-! ### Project files -/

namespace Config

open Markup (Document Mark)

variable {document : Document} {path : FieldPath} {index after : Nat}

/-- What every field keeps, the fields of a mapping keep. -/
theorem readFields_inv {σ : Type} {Holds : σ → Prop}
    {readField : σ → Text → FieldPath → Nat → Except ReadError (σ × Nat)}
    (keeps : ∀ {fields name path index result}, Holds fields →
      readField fields name path index = .ok result → Holds result.1)
    {fuel : Nat} {fields : σ} {result : σ × Nat} (holds : Holds fields)
    (read : readFields document path readField fuel fields index = .ok result) :
    Holds result.1 := by
  induction fuel generalizing fields index with
  | zero =>
    obtain rfl := Except.ok.inj read
    exact holds
  | succ fuel inductionHypothesis =>
    unfold readFields at read
    split at read
    · contradiction
    · obtain rfl := Except.ok.inj read
      exact holds
    · obtain ⟨named, -, read⟩ := bind_eq_ok_iff.mp read
      obtain ⟨next, field, read⟩ := bind_eq_ok_iff.mp read
      exact inductionHypothesis (keeps holds field) read

/-- What is read of a mapping was finished from fields of which holds what every field keeps. -/
theorem readMapping_inv {σ α : Type} {Holds : σ → Prop} {expected : Expected} {start : σ}
    {readField : Mark → σ → Text → FieldPath → Nat → Except ReadError (σ × Nat)}
    {finish : Mark → σ → Except ReadError α} {result : α × Nat} (starts : Holds start)
    (keeps : ∀ {mark fields name path index result}, Holds fields →
      readField mark fields name path index = .ok result → Holds result.1)
    (read : readMapping document expected path start readField finish index = .ok result) :
    ∃ mark fields, Holds fields ∧ finish mark fields = .ok result.1 := by
  obtain ⟨⟨target, part, mark⟩, -, read⟩ := bind_eq_ok_iff.mp read
  dsimp only at read
  split at read
  · obtain ⟨⟨fields, _⟩, mapping, read⟩ := bind_eq_ok_iff.mp read
    obtain ⟨value, finished, read⟩ := bind_eq_ok_iff.mp read
    obtain rfl := Except.ok.inj read
    exact ⟨mark, fields, readFields_inv keeps starts mapping, finished⟩
  · obtain ⟨value, finished, read⟩ := bind_eq_ok_iff.mp read
    obtain rfl := Except.ok.inj read
    exact ⟨mark, start, starts, finished⟩
  · split at read
    · obtain ⟨value, finished, read⟩ := bind_eq_ok_iff.mp read
      obtain rfl := Except.ok.inj read
      exact ⟨mark, start, starts, finished⟩
    · contradiction
  · contradiction

/-- A field that may occur once holds what was read for it. -/
theorem readOnce_inv {α : Type} {Holds : α → Prop} {field : Option α} {name : Text}
    {owner : FieldPath} {mark : Mark} {read : Except ReadError (α × Nat)} {result : Option α × Nat}
    (reads : ∀ {value}, read = .ok value → Holds value.1)
    (once : readOnce field name owner mark read = .ok result) :
    ∀ value ∈ result.1, Holds value := by
  unfold readOnce at once
  split at once
  · contradiction
  · cases read with
    | error error => contradiction
    | ok value =>
      obtain rfl := Except.ok.inj once
      intro held isHeld
      obtain rfl := Option.some.inj isHeld
      exact reads rfl

theorem holds_getD {α : Type} {Holds : α → Prop} {field : Option α} {default : α}
    (holds : ∀ value ∈ field, Holds value) (otherwise : Holds default) :
    Holds (field.getD default) := by
  cases field with
  | none => exact otherwise
  | some value => exact holds value rfl

theorem readPath_inv {result : Path × Nat} (read : readPath document path index = .ok result) :
    result.1.IsText := by
  obtain ⟨⟨text, _⟩, -, read⟩ := bind_eq_ok_iff.mp read
  obtain rfl := Except.ok.inj read
  exact Path.isText_ofText text

/-- Whether the output places are texts. -/
def PlacesAreTexts (places : OutputPlaces) : Prop :=
  places.directory.IsText ∧ places.libraryDirectory.IsText

/-- Whether the output places that were read so far are texts. -/
def PlaceFields.AreTexts (fields : PlaceFields) : Prop :=
  (∀ path ∈ fields.directory, path.IsText) ∧ ∀ path ∈ fields.libraryDirectory, path.IsText

/-- Whether the paths that were read so far are texts. -/
def Fields.AreTexts (fields : Fields) : Prop :=
  (∀ path ∈ fields.source, path.IsText) ∧ ∀ places ∈ fields.output, PlacesAreTexts places

theorem placesAreTexts_default : PlacesAreTexts .default :=
  ⟨Path.isText_ofText _, Path.isText_ofText _⟩

theorem readPlaceField_inv {owner : FieldPath} {mark : Mark} {fields : PlaceFields} {name : Text}
    {result : PlaceFields × Nat} (texts : fields.AreTexts)
    (read : readPlaceField document owner mark fields name path index = .ok result) :
    result.1.AreTexts := by
  unfold readPlaceField at read
  split at read
  · obtain ⟨directory, once, read⟩ := bind_eq_ok_iff.mp read
    obtain rfl := Except.ok.inj read
    exact ⟨readOnce_inv readPath_inv once, texts.2⟩
  · split at read
    · obtain ⟨libraryDirectory, once, read⟩ := bind_eq_ok_iff.mp read
      obtain rfl := Except.ok.inj read
      exact ⟨texts.1, readOnce_inv readPath_inv once⟩
    · obtain ⟨skipped, -, read⟩ := bind_eq_ok_iff.mp read
      obtain rfl := Except.ok.inj read
      exact texts

theorem readPlaces_inv {result : OutputPlaces × Nat}
    (read : readPlaces document path index = .ok result) : PlacesAreTexts result.1 := by
  have starts : PlaceFields.AreTexts ⟨none, none⟩ := by simp [PlaceFields.AreTexts]
  obtain ⟨mark, fields, texts, finished⟩ := readMapping_inv starts readPlaceField_inv read
  rw [← Except.ok.inj finished]
  exact ⟨holds_getD texts.1 placesAreTexts_default.1, holds_getD texts.2 placesAreTexts_default.2⟩

theorem readField_inv {mark : Mark} {fields : Fields} {name : Text} {result : Fields × Nat}
    (texts : fields.AreTexts) (read : readField document mark fields name path index = .ok result) :
    result.1.AreTexts := by
  unfold readField at read
  split at read
  · obtain ⟨service, -, read⟩ := bind_eq_ok_iff.mp read
    obtain rfl := Except.ok.inj read
    exact texts
  · split at read
    · obtain ⟨source, once, read⟩ := bind_eq_ok_iff.mp read
      obtain rfl := Except.ok.inj read
      exact ⟨readOnce_inv readPath_inv once, texts.2⟩
    · split at read
      · obtain ⟨output, once, read⟩ := bind_eq_ok_iff.mp read
        obtain rfl := Except.ok.inj read
        exact ⟨texts.1, readOnce_inv readPlaces_inv once⟩
      · obtain ⟨skipped, -, read⟩ := bind_eq_ok_iff.mp read
        obtain rfl := Except.ok.inj read
        exact texts

/-- The paths of a project file are texts. -/
theorem isText_of_parse {text : Text} {config : Config} (parsed : parse text = .ok config) :
    config.source.IsText ∧ PlacesAreTexts config.output := by
  obtain ⟨⟨value, _⟩, read, parsed⟩ := bind_eq_ok_iff.mp parsed
  have starts : Fields.AreTexts ⟨none, none, none⟩ := by simp [Fields.AreTexts]
  obtain ⟨mark, fields, texts, finished⟩ := readMapping_inv starts readField_inv read
  have isValue : value = config := by
    dsimp only at parsed
    split at parsed
    · contradiction
    · split at parsed
      · contradiction
      · exact Except.ok.inj parsed
  subst isValue
  unfold ofFields at finished
  split at finished
  · contradiction
  · contradiction
  · next service source isService isSource =>
    obtain rfl := Except.ok.inj finished
    exact ⟨texts.1 source isSource, holds_getD texts.2 placesAreTexts_default⟩

end Config

end FfiBindings
