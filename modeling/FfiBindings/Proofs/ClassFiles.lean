import FfiBindings.Proofs.CaseConversion
import FfiBindings.Proofs.GeneratorRuns

/-!
# Where a service class is saved

The file of a service class lies in its directory itself: its name holds no slash and is neither `.`
nor `..`. The name is made from the base name of the source, but a source is never the file of its own
service class, whatever its name is and wherever the two directories are.
-/

namespace FfiBindings

namespace Utf8

theorem slash_notMem_encode {text : Text} (whole : '/' ∉ text) : Path.slash ∉ encode text := by
  intro member
  obtain ⟨c, inText, inBytes⟩ := List.mem_flatMap.mp member
  have code : c.toNat = '/'.toNat := toNat_of_mem_encodeChar inBytes (by decide)
  have same : c = '/' := by rw [← Char.ofNat_toNat c, code, Char.ofNat_toNat]
  exact whole (same ▸ inText)

theorem continuation_suffix (more value : Nat) (seen rest : Bytes) :
    (continuation more value seen rest).2 <:+ rest := by
  fun_induction continuation more value seen rest with
  | case1 => exact List.suffix_rfl
  | case2 => exact List.suffix_rfl
  | case3 value seen more b rest inside inductionHypothesis =>
    exact inductionHypothesis.trans (List.suffix_cons b rest)
  | case4 => exact List.suffix_rfl

/-- What follows the first piece of a byte string is the end of it. -/
theorem next_suffix (b : UInt8) (rest : Bytes) : (next b rest).2 <:+ rest := by
  unfold next
  split
  · exact List.suffix_rfl
  · split
    · split
      · exact (continuation_suffix ..).trans (List.suffix_cons ..)
      · exact List.suffix_rfl
    · exact List.suffix_rfl

/-- No slash is shown that is not in the bytes. -/
theorem slash_notMem_decodeLossy {bytes : Bytes} (whole : Path.slash ∉ bytes) :
    '/' ∉ decodeLossy bytes := by
  unfold decodeLossy
  fun_induction pieces bytes with
  | case1 => exact List.not_mem_nil
  | case2 b rest inductionHypothesis =>
    have later := inductionHypothesis fun member =>
      whole (List.mem_cons_of_mem b ((next_suffix b rest).subset member))
    rw [List.map_cons, List.mem_cons, not_or]
    refine ⟨?_, later⟩
    cases piece : (next b rest).1 with
    | broken bytes => simp [Piece.char?]
    | char c =>
      rintro rfl
      have spelled := encodeChar_of_next (Prod.ext piece rfl : next b rest = (.char '/', _))
      have first : b = Path.slash := (List.cons.inj spelled).1
      exact whole (first ▸ List.mem_cons_self)

end Utf8

namespace Path

variable {path : Path}

/-- The stem of a name with an extension. -/
theorem stemOf_append {stem extension : Bytes} (nonempty : stem ≠ []) (single : dot ∉ extension) :
    stemOf (stem ++ dot :: extension) = stem := by
  have behind : ∀ b ∈ extension.reverse, (b != dot) = true := by
    intro b member
    exact bne_iff_ne.mpr fun same => single (same ▸ List.mem_reverse.mp member)
  have cut : (stem ++ dot :: extension).reverse.dropWhile (· != dot) = dot :: stem.reverse := by
    rw [List.reverse_append, List.reverse_cons, List.append_assoc,
      List.dropWhile_append_of_pos behind]
    rfl
  unfold stemOf
  rw [cut]
  simp [nonempty]

/-- A base name is that of a name at the end of the path. -/
theorem baseName?_eq_some {base : Text} (named : path.baseName? = some base) :
    ∃ name, path.fileName? = some name ∧ base = Utf8.decodeLossy (stemOf name) := by
  obtain ⟨decoded, -⟩ := Option.filter_eq_some_iff.mp named
  obtain ⟨stem, stemmed, rfl⟩ := Option.map_eq_some_iff.mp decoded
  obtain ⟨name, isName, rfl⟩ := Option.map_eq_some_iff.mp stemmed
  exact ⟨name, isName, rfl⟩

/-- A stem is the beginning of its name. -/
theorem stemOf_start (name : Bytes) : stemOf name <+: name := by
  unfold stemOf
  split
  · dsimp only
    split
    · exact List.prefix_rfl
    · rw [← List.reverse_suffix, List.reverse_reverse]
      exact (List.drop_suffix 1 _).trans (List.dropWhile_suffix _)
  · exact List.prefix_rfl

/-- No base name holds a slash. -/
theorem slash_notMem_baseName {base : Text} (named : path.baseName? = some base) : '/' ∉ base := by
  obtain ⟨name, isName, rfl⟩ := baseName?_eq_some named
  obtain ⟨-, -, -, -, -, -, -, whole⟩ := steps_of_fileName? isName
  exact Utf8.slash_notMem_decodeLossy fun member => whole ((stemOf_start name).subset member)

end Path

namespace FileSystem

variable {working : Location} {path : Path} {name : Bytes}

/-- Steps that stay where they are lead nowhere else. -/
theorem walk_of_dots {steps : List Bytes} (dots : ∀ step ∈ steps, step = [Path.dot])
    (place : Location) : walk place steps = place := by
  induction steps with
  | nil => rfl
  | cons step rest inductionHypothesis =>
    obtain rfl : step = [Path.dot] := dots step List.mem_cons_self
    exact inductionHypothesis fun later member => dots later (List.mem_cons_of_mem _ member)

/-- A path that ends in a name leads to an entry of that name. -/
theorem head?_destination (named : path.fileName? = some name) :
    (destination working path).head? = some name := by
  obtain ⟨front, dots, shape, stay, -, notDot, notUp, -⟩ := Path.steps_of_fileName? named
  calc (destination working path).head?
      = (walk (stepFrom (walk (origin working path) front) name) dots).head? := by
        rw [destination, shape, walk, List.foldl_append, List.foldl_cons, walk, walk]
    _ = some name := by
        rw [walk_of_dots stay]
        simp [stepFrom, notDot, notUp]

/-- A name is found in the directory that it is joined to. -/
theorem destination_join (directory : Path) (nonempty : name ≠ []) (whole : Path.slash ∉ name)
    (notDot : name ≠ [Path.dot]) (notUp : name ≠ Path.dotDot) :
    destination working (directory.join ⟨name⟩) = name :: destination working directory := by
  have isRelative : (⟨name⟩ : Path).isAbsolute = false := by
    cases name with
    | nil => contradiction
    | cons b rest =>
      rw [List.mem_cons, not_or] at whole
      simpa [Path.isAbsolute] using Ne.symm whole.1
  unfold destination
  rw [origin, Path.isAbsolute_join isRelative, ← origin, Path.steps_join isRelative,
    Path.steps_of_name nonempty whole, walk, List.foldl_append]
  simp [stepFrom, notDot, notUp, walk]

end FileSystem

namespace Service

open FileSystem

variable {base : Text}

/-- The name of the file of a service class, in bytes. -/
theorem encode_fileName (base : Text) :
    Utf8.encode (Names.ofBaseName base).fileName =
      Utf8.encode (Names.ofBaseName base).className ++ Path.dot :: Utf8.encode "php" := by
  rw [Names.fileName, Utf8.encode, List.flatMap_append]
  rfl

/-- The file of a service class is in its directory itself. -/
theorem destination_classPath {working : Location} (directory : Path) (whole : '/' ∉ base) :
    destination working (classPath base directory) =
      Utf8.encode (Names.ofBaseName base).fileName :: destination working directory := by
  have wholeName : '/' ∉ (Names.ofBaseName base).fileName := by
    rw [Names.fileName, Names.className, List.mem_append, List.mem_append, not_or, not_or]
    exact ⟨⟨notMem_pascalCase (by decide) whole, by decide⟩, by decide⟩
  have long : 3 ≤ (Utf8.encode (Names.ofBaseName base).fileName).length := by
    rw [encode_fileName, List.length_append]
    exact Nat.le_add_left_of_le (by decide)
  refine destination_join directory ?_ (Utf8.slash_notMem_encode wholeName) ?_ ?_ <;> intro same <;>
    rw [same] at long <;> exact absurd long (by decide)

/-- A source is not called what the file of its own service class is called. -/
theorem fileName_ne_source {source : Path} {name : Bytes} (isName : source.fileName? = some name)
    (named : source.baseName? = some base) :
    name ≠ Utf8.encode (Names.ofBaseName base).fileName := by
  rintro rfl
  obtain ⟨other, isOther, stem⟩ := Path.baseName?_eq_some named
  obtain rfl := Option.some.inj (isName.symm.trans isOther)
  have classStem : base = (Names.ofBaseName base).className := by
    have nonempty : Utf8.encode (Names.ofBaseName base).className ≠ [] := by
      rw [Names.className, Utf8.encode, List.flatMap_append]
      exact List.append_ne_nil_of_right_ne_nil _ (by decide)
    rw [encode_fileName, Path.stemOf_append nonempty (by decide)] at stem
    rw [Utf8.decodeLossy_encode] at stem
    exact stem
  exact ne_className base classStem

/-- A source is not the file of its own service class. -/
theorem classPath_ne_source {source : Path} {working : Location} (directory : Path)
    (named : source.baseName? = some base) :
    destination working (classPath base directory) ≠ destination working source := by
  intro same
  obtain ⟨name, isName, -⟩ := Path.baseName?_eq_some named
  have last : (destination working source).head? = some name := head?_destination isName
  rw [← same, destination_classPath directory (Path.slash_notMem_baseName named),
    List.head?_cons] at last
  exact fileName_ne_source isName named (Option.some.inj last).symm

/-- The file of a service class is no project file. -/
theorem classPath_ne_config {working : Location} (directory projectDirectory : Path)
    (whole : '/' ∉ base) :
    destination working (classPath base directory) ≠
      destination working (projectDirectory.join Config.fileName) := by
  intro same
  rw [destination_classPath directory whole, Config.fileName, Path.ofText,
    destination_join projectDirectory (by decide) (by decide) (by decide) (by decide),
    encode_fileName] at same
  have last := congrArg List.getLast? (List.cons.inj same).1
  have ending : (Path.dot :: Utf8.encode "php").getLast? = some 0x70 := by decide
  rw [List.getLast?_append, ending, Option.some_or] at last
  exact absurd last (by decide)

end Service

end FfiBindings
