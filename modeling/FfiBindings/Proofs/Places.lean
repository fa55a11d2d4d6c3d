import FfiBindings.FileSystem.Access
import Mathlib.Data.List.Basic

/-!
# Where paths lead

Without links a path leads to one location, whatever the tree holds: its steps alone say which. A
tree can only bar the way. So every access by path that succeeds reads or changes the entry at the
location of its path, and no other.
-/

namespace FfiBindings

/-- Two steps succeed where each does, the second one with the result of the first. -/
theorem bind_eq_ok_iff {ε α β : Type} {first : Except ε α} {next : α → Except ε β} {value : β} :
    (first >>= next) = .ok value ↔ ∃ between, first = .ok between ∧ next between = .ok value := by
  cases first <;> simp [bind, Except.bind]

namespace FileSystem

variable {files before after : FileSystem} {working place next target : Location} {path : Path}

/-- Where one step leads when nothing bars the way. -/
def stepFrom (place : Location) (name : Bytes) : Location :=
  if name == [Path.dot] then place
  else if name == Path.dotDot then place.tail
  else name :: place

/-- Where steps lead from a location. -/
def walk (place : Location) (steps : List Bytes) : Location := steps.foldl stepFrom place

/-- The location that a path leads to from a working directory. -/
def destination (working : Location) (path : Path) : Location :=
  walk (origin working path) path.steps

/-- Whether an entry stands at a location, and then whether it is a directory. -/
def kindAt? (files : FileSystem) (location : Location) : Option Bool :=
  (files.entryAt? location).map (· == .directory)

theorem kindAt?_eq_true_iff {location : Location} :
    files.kindAt? location = some true ↔ files.entryAt? location = some .directory := by
  simp [kindAt?]

theorem kindAt?_eq_false_iff {location : Location} :
    files.kindAt? location = some false ↔
      ∃ content executable, files.entryAt? location = some (.file content executable) := by
  cases found : files.entryAt? location with
  | none => simp [kindAt?, found]
  | some entry => cases entry <;> simp [kindAt?, found]

/-! ### One step and many -/

theorem step_eq_ok {name : Bytes} (stepped : files.step place name = .ok next) :
    files.entryAt? place = some .directory ∧ next = stepFrom place name := by
  unfold step at stepped
  split at stepped
  · contradiction
  · contradiction
  · next found =>
    refine ⟨found, ?_⟩
    unfold stepFrom
    split at stepped
    · next isDot => simpa [isDot] using stepped.symm
    · next notDot =>
      split at stepped
      · next isUp => simpa [isUp, notDot] using stepped.symm
      · next notUp =>
        split at stepped
        · contradiction
        · simpa [notUp, notDot] using stepped.symm

theorem descend_cons {name : Bytes} {steps : List Bytes}
    (stepped : files.step place name = .ok next) :
    files.descend place (name :: steps) =
      match files.kindAt? next with
      | some _ => files.descend next steps
      | none => .error .notFound := by
  rw [descend, stepped]
  unfold kindAt?
  cases found : files.entryAt? next <;> simp [bind, Except.bind, found]

theorem descend_inv {name : Bytes} {steps : List Bytes}
    (reached : files.descend place (name :: steps) = .ok target) :
    ∃ next, files.step place name = .ok next ∧ (files.kindAt? next).isSome ∧
      files.descend next steps = .ok target := by
  cases stepped : files.step place name with
  | error fault => simp [descend, stepped, bind, Except.bind] at reached
  | ok next =>
    rw [descend_cons stepped] at reached
    cases kind : files.kindAt? next with
    | none => simp [kind] at reached
    | some isDirectory =>
      rw [kind] at reached
      exact ⟨next, rfl, by simp [kind], reached⟩

/-- Steps that can be followed lead where they lead by themselves. -/
theorem descend_eq_walk {steps : List Bytes}
    (reached : files.descend place steps = .ok target) : target = walk place steps := by
  induction steps generalizing place with
  | nil => exact (Except.ok.inj reached).symm
  | cons name rest inductionHypothesis =>
    obtain ⟨next, stepped, -, reached⟩ := descend_inv reached
    obtain ⟨-, rfl⟩ := step_eq_ok stepped
    exact inductionHypothesis reached

/-- What stands at a location in two trees where it is of the same kind. -/
theorem sameKind_cases {others : FileSystem} (same : files.kindAt? place = others.kindAt? place) :
    (files.entryAt? place = none ∧ others.entryAt? place = none) ∨
      (files.entryAt? place = some .directory ∧ others.entryAt? place = some .directory) ∨
      ∃ content executable other otherExecutable,
        files.entryAt? place = some (.file content executable) ∧
          others.entryAt? place = some (.file other otherExecutable) := by
  cases kind : files.kindAt? place with
  | none =>
    rw [kind] at same
    exact .inl ⟨Option.map_eq_none_iff.mp kind, Option.map_eq_none_iff.mp same.symm⟩
  | some isDirectory =>
    rw [kind] at same
    right
    cases isDirectory with
    | true => exact .inl ⟨kindAt?_eq_true_iff.mp kind, kindAt?_eq_true_iff.mp same.symm⟩
    | false =>
      obtain ⟨content, executable, here⟩ := kindAt?_eq_false_iff.mp kind
      obtain ⟨other, otherExecutable, there⟩ := kindAt?_eq_false_iff.mp same.symm
      exact .inr ⟨content, executable, other, otherExecutable, here, there⟩

/-- A step depends on the kind of what it starts from. -/
theorem step_congr {others : FileSystem} (same : files.kindAt? place = others.kindAt? place)
    (name : Bytes) : files.step place name = others.step place name := by
  unfold step
  rcases sameKind_cases same with ⟨here, there⟩ | ⟨here, there⟩ | ⟨_, _, _, _, here, there⟩ <;>
    rw [here, there]

/-- Which way steps lead, or why they lead nowhere, depends on kinds of entries alone. -/
theorem descend_congr {others : FileSystem} (same : files.kindAt? = others.kindAt?)
    (place : Location) (steps : List Bytes) :
    files.descend place steps = others.descend place steps := by
  induction steps generalizing place with
  | nil => rfl
  | cons name rest inductionHypothesis =>
    have stepSame := step_congr (congrFun same place) name
    cases stepped : files.step place name with
    | error fault =>
      rw [descend, descend, ← stepSame, stepped]
      rfl
    | ok next =>
      rw [descend_cons stepped, descend_cons (stepSame ▸ stepped), same]
      simp only [inductionHypothesis]

/-! ### Paths -/

/-- A path leads to a location when its steps can be followed there, and a path that can only name a
directory leads to one. -/
theorem locate_eq_ok_iff :
    files.locate working path = .ok place ↔
      checkPath path = .ok () ∧
        files.descend (origin working path) path.steps = .ok place ∧
        (files.kindAt? place = some true ∨
          files.kindAt? place = some false ∧ endsInSlash path = false) := by
  constructor
  · intro located
    obtain ⟨⟨⟩, accepted, located⟩ := bind_eq_ok_iff.mp located
    obtain ⟨reached, upTo, located⟩ := bind_eq_ok_iff.mp located
    split at located
    · contradiction
    · next found =>
      obtain rfl := Except.ok.inj located
      exact ⟨accepted, upTo, .inl (kindAt?_eq_true_iff.mpr found)⟩
    · next content executable found =>
      split at located
      · contradiction
      · next noSlash =>
        obtain rfl := Except.ok.inj located
        exact ⟨accepted, upTo, .inr
          ⟨kindAt?_eq_false_iff.mpr ⟨content, executable, found⟩, by simpa using noSlash⟩⟩
  · rintro ⟨accepted, upTo, isDirectory | ⟨isFile, noSlash⟩⟩
    · have found := kindAt?_eq_true_iff.mp isDirectory
      simp [locate, accepted, upTo, found, bind, Except.bind]
    · obtain ⟨content, executable, found⟩ := kindAt?_eq_false_iff.mp isFile
      simp [locate, accepted, upTo, found, noSlash, bind, Except.bind]

/-- A path has a place for a new entry when its steps but the last lead to a directory. -/
theorem locateNew_eq_ok_iff {last : Option Bytes} :
    files.locateNew working path = .ok (place, last) ↔
      checkPath path = .ok () ∧
        files.descend (origin working path) path.steps.dropLast = .ok place ∧
        files.entryAt? place = some .directory ∧ path.steps.getLast? = last := by
  constructor
  · intro placed
    obtain ⟨⟨⟩, accepted, placed⟩ := bind_eq_ok_iff.mp placed
    obtain ⟨reached, upTo, placed⟩ := bind_eq_ok_iff.mp placed
    split at placed
    · next inside =>
      obtain ⟨rfl, rfl⟩ := Prod.mk.inj (Except.ok.inj placed)
      exact ⟨accepted, upTo, inside, rfl⟩
    · contradiction
    · contradiction
  · rintro ⟨accepted, upTo, inside, rfl⟩
    simp [locateNew, accepted, upTo, inside, bind, Except.bind]

/-- One more step can be taken to an entry that is there. -/
theorem descend_concat {steps : List Bytes} {name : Bytes}
    (reached : files.descend place steps = .ok next) (stepped : files.step next name = .ok target)
    (present : (files.kindAt? target).isSome) :
    files.descend place (steps ++ [name]) = .ok target := by
  induction steps generalizing place with
  | nil =>
    obtain rfl := Except.ok.inj reached
    obtain ⟨kind, found⟩ := Option.isSome_iff_exists.mp present
    rw [List.nil_append, descend_cons stepped, found]
    rfl
  | cons first rest inductionHypothesis =>
    obtain ⟨second, firstStep, firstPresent, later⟩ := descend_inv reached
    obtain ⟨kind, found⟩ := Option.isSome_iff_exists.mp firstPresent
    rw [List.cons_append, descend_cons firstStep, found]
    exact inductionHypothesis later

theorem descend_concat_inv {steps : List Bytes} {name : Bytes}
    (reached : files.descend place (steps ++ [name]) = .ok target) :
    ∃ next, files.descend place steps = .ok next ∧ files.step next name = .ok target := by
  induction steps generalizing place with
  | nil =>
    obtain ⟨next, stepped, -, rest⟩ := descend_inv reached
    obtain rfl := Except.ok.inj rest
    exact ⟨place, rfl, stepped⟩
  | cons first rest inductionHypothesis =>
    obtain ⟨second, firstStep, firstPresent, later⟩ := descend_inv reached
    obtain ⟨kind, found⟩ := Option.isSome_iff_exists.mp firstPresent
    obtain ⟨next, upTo, stepped⟩ := inductionHypothesis later
    exact ⟨next, by rw [descend_cons firstStep, found]; exact upTo, stepped⟩

/-- What it takes for a path to name an entry of a directory, there already or not: the path but for
its last step leads to the directory, and the last step is the name of the entry. -/
structure Names (files : FileSystem) (working : Location) (path : Path) (above : Location)
    (name : Bytes) : Prop where
  accepted : checkPath path = .ok ()
  reached : files.descend (origin working path) path.steps.dropLast = .ok above
  inside : files.entryAt? above = some .directory
  last : path.steps.getLast? = some name
  notDot : name ≠ [Path.dot]
  notUp : name ≠ Path.dotDot
  short : name.length ≤ longestName

namespace Names

variable {above : Location} {name : Bytes}

theorem steps_eq (named : files.Names working path above name) :
    path.steps = path.steps.dropLast ++ [name] :=
  (List.dropLast_append_getLast? name named.last).symm

theorem step_eq (named : files.Names working path above name) :
    files.step above name = .ok (name :: above) := by
  have notLong : ¬ name.length > longestName := Nat.not_lt.mpr named.short
  simp [step, named.inside, named.notDot, named.notUp, notLong]

/-- The entry that a path names is at the location of the path. -/
theorem destination_eq (named : files.Names working path above name) :
    destination working path = name :: above := by
  have upTo : above = walk (origin working path) path.steps.dropLast :=
    descend_eq_walk named.reached
  calc destination working path
      = stepFrom (walk (origin working path) path.steps.dropLast) name := by
        rw [destination, named.steps_eq, walk, List.foldl_append, List.dropLast_concat]
        rfl
    _ = name :: above := by simp [← upTo, stepFrom, named.notDot, named.notUp]

/-- The path leads to the entry if it is there, and a path that can only name a directory if it is
one. -/
theorem locate_eq (named : files.Names working path above name)
    (kind : files.kindAt? (name :: above) = some true ∨
      files.kindAt? (name :: above) = some false ∧ endsInSlash path = false) :
    files.locate working path = .ok (name :: above) := by
  have present : (files.kindAt? (name :: above)).isSome := by
    rcases kind with found | ⟨found, -⟩ <;> simp [found]
  refine locate_eq_ok_iff.mpr ⟨named.accepted, ?_, kind⟩
  rw [named.steps_eq]
  exact descend_concat named.reached named.step_eq present

theorem locateNew_eq (named : files.Names working path above name) :
    files.locateNew working path = .ok (above, some name) :=
  locateNew_eq_ok_iff.mpr ⟨named.accepted, named.reached, named.inside, named.last⟩

/-- A path names an entry when its last step can be taken and is a name. -/
theorem of_step (placed : files.locateNew working path = .ok (above, some name))
    (notDot : name ≠ [Path.dot]) (notUp : name ≠ Path.dotDot)
    (stepped : files.step above name = .ok target) :
    files.Names working path above name ∧ target = name :: above := by
  obtain ⟨accepted, reached, inside, last⟩ := locateNew_eq_ok_iff.mp placed
  have step : files.step above name =
      if name.length > longestName then .error .nameTooLong else .ok (name :: above) := by
    simp [FileSystem.step, inside, notDot, notUp]
  rw [step] at stepped
  split at stepped
  · contradiction
  · next short =>
    exact ⟨⟨accepted, reached, inside, last, notDot, notUp, Nat.not_lt.mp short⟩,
      (Except.ok.inj stepped).symm⟩

end Names

/-- A file is opened for writing where a path names an entry that is no directory. -/
theorem openFile_eq_ok_iff :
    files.openFile working path = .ok target ↔
      ∃ above name, files.Names working path above name ∧ endsInSlash path = false ∧
        files.entryAt? target ≠ some .directory ∧ target = name :: above := by
  constructor
  · intro opened
    obtain ⟨⟨above, last⟩, placed, opened⟩ := bind_eq_ok_iff.mp opened
    cases last with
    | none => contradiction
    | some name =>
      dsimp only at opened
      split at opened
      · contradiction
      · next proper =>
        simp only [Bool.or_eq_true, beq_iff_eq, not_or] at proper
        obtain ⟨⟨noSlash, notDot⟩, notUp⟩ := proper
        obtain ⟨place, stepped, opened⟩ := bind_eq_ok_iff.mp opened
        obtain ⟨named, rfl⟩ := Names.of_step placed notDot notUp stepped
        split at opened
        · contradiction
        · next free =>
          obtain rfl := Except.ok.inj opened
          exact ⟨above, name, named, by simpa using noSlash, by simpa [isDirectory] using free, rfl⟩
  · rintro ⟨above, name, named, noSlash, free, rfl⟩
    simp [openFile, named.locateNew_eq, bind, Except.bind, noSlash, named.notDot, named.notUp,
      named.step_eq, isDirectory, free]

/-- A directory is made where a path names no entry yet. -/
theorem makeDirectory_eq_ok_iff {made : FileSystem} :
    files.makeDirectory working path = .ok made ↔
      ∃ above name, files.Names working path above name ∧
        files.entryAt? (name :: above) = none ∧ made = files.put (name :: above) .directory := by
  constructor
  · intro done
    obtain ⟨⟨above, last⟩, placed, done⟩ := bind_eq_ok_iff.mp done
    cases last with
    | none => contradiction
    | some name =>
      dsimp only at done
      split at done
      · contradiction
      · next proper =>
        simp only [Bool.or_eq_true, beq_iff_eq, not_or] at proper
        obtain ⟨place, stepped, done⟩ := bind_eq_ok_iff.mp done
        obtain ⟨named, rfl⟩ := Names.of_step placed proper.1 proper.2 stepped
        split at done
        · contradiction
        · next free => exact ⟨above, name, named, free, (Except.ok.inj done).symm⟩
  · rintro ⟨above, name, named, free, rfl⟩
    simp [makeDirectory, named.locateNew_eq, bind, Except.bind, named.notDot, named.notUp,
      named.step_eq, free]

/-- No directory is made where the path leads to one already. -/
theorem makeDirectory_of_located (located : files.locate working path = .ok target)
    (directory : files.entryAt? target = some .directory) :
    files.makeDirectory working path = .error .exists := by
  obtain ⟨accepted, reached, -⟩ := locate_eq_ok_iff.mp located
  rcases List.eq_nil_or_concat' path.steps with none | ⟨front, name, shape⟩
  · have placed := locateNew_eq_ok_iff.mpr
      ⟨accepted, by rw [none] at reached ⊢; exact reached, directory, rfl⟩
    simp [makeDirectory, placed, bind, Except.bind, none]
  · rw [shape] at reached
    obtain ⟨next, upTo, stepped⟩ := descend_concat_inv reached
    have placed := locateNew_eq_ok_iff.mpr
      ⟨accepted, by rw [shape, List.dropLast_concat]; exact upTo, (step_eq_ok stepped).1, rfl⟩
    simp [makeDirectory, placed, bind, Except.bind, shape, stepped, directory]

end FileSystem
end FfiBindings
