import FfiBindings.Proofs.Places
import FfiBindings.Proofs.PathSteps

/-!
# What accesses change

A tree grows when no entry of it is lost and none turns from a directory into a file or back: what a
path led to before, it leads to afterwards too. Every change that a command makes to files by path
lets the tree grow. Writing and appending change the entry at the location of their path and no
other. Making directories puts directories where nothing was, all of them on the way that the path
describes.
-/

namespace FfiBindings.FileSystem

variable {files before after later : FileSystem} {working place target : Location} {path : Path}

/-- Every entry is still there afterwards and of the kind that it was. -/
def Grows (before after : FileSystem) : Prop :=
  ∀ location kind, before.kindAt? location = some kind → after.kindAt? location = some kind

/-- Whatever there is outside of one location is the same in both trees. -/
def SameBesides (aside : Option Location) (before after : FileSystem) : Prop :=
  ∀ location, aside ≠ some location → after.entryAt? location = before.entryAt? location

/-- The location of a path and those that its first steps lead to. -/
def Passes (working : Location) (path : Path) (location : Location) : Prop :=
  ∃ steps, steps <+: path.steps ∧ location = walk (origin working path) steps

/-- Every directory was one before. -/
def NoNewDirectory (before after : FileSystem) : Prop :=
  ∀ location, after.entryAt? location = some .directory →
    before.entryAt? location = some .directory

/-- A directory stands where nothing was before. -/
def NewDirectory (before after : FileSystem) (location : Location) : Prop :=
  before.entryAt? location = none ∧ after.entryAt? location = some .directory

/-- Nothing was changed at a location, or a directory was made there and is allowed there. -/
def MayMake (allowed : Location → Prop) (before after : FileSystem) (location : Location) : Prop :=
  after.entryAt? location = before.entryAt? location ∨
    NewDirectory before after location ∧ allowed location

/-- Directories were made at some of the allowed locations, and nothing else was changed. -/
def OnlyMakes (allowed : Location → Prop) (before after : FileSystem) : Prop :=
  ∀ location, MayMake allowed before after location

namespace Grows

theorem refl (files : FileSystem) : Grows files files := fun _ _ kind => kind

theorem trans (first : Grows before after) (second : Grows after later) : Grows before later :=
  fun location kind found => second location kind (first location kind found)

/-- Putting an entry lets the tree grow when it replaces none or one of its own kind. -/
theorem put {location : Location} {entry : Entry} (inside : location ≠ [])
    (suits : ∀ kind, files.kindAt? location = some kind → (entry == .directory) = kind) :
    Grows files (files.put location entry) := by
  intro other kind found
  rw [kindAt?, entryAt?_put files location other entry inside]
  split
  · next same =>
    rw [same] at found
    rw [Option.map_some, suits kind found]
  · exact found

theorem directory (grown : Grows before after) (found : before.entryAt? place = some .directory) :
    after.entryAt? place = some .directory :=
  kindAt?_eq_true_iff.mp (grown place true (kindAt?_eq_true_iff.mpr found))

theorem step (grown : Grows before after) {name : Bytes} {next : Location}
    (stepped : before.step place name = .ok next) : after.step place name = .ok next := by
  have here := (step_eq_ok stepped).1
  rw [← stepped]
  apply step_congr
  rw [kindAt?_eq_true_iff.mpr here, kindAt?_eq_true_iff.mpr (grown.directory here)]

theorem descend (grown : Grows before after) {steps : List Bytes}
    (reached : before.descend place steps = .ok target) :
    after.descend place steps = .ok target := by
  induction steps generalizing place with
  | nil => exact reached
  | cons name rest inductionHypothesis =>
    obtain ⟨next, stepped, present, reached⟩ := descend_inv reached
    obtain ⟨kind, found⟩ := Option.isSome_iff_exists.mp present
    rw [descend_cons (grown.step stepped), grown next kind found]
    exact inductionHypothesis reached

/-- What a path led to, it leads to in a grown tree. -/
theorem locate (grown : Grows before after) (located : before.locate working path = .ok place) :
    after.locate working path = .ok place := by
  obtain ⟨accepted, reached, kind⟩ := locate_eq_ok_iff.mp located
  refine locate_eq_ok_iff.mpr ⟨accepted, grown.descend reached, ?_⟩
  rcases kind with isDirectory | ⟨isFile, noSlash⟩
  · exact .inl (grown place true isDirectory)
  · exact .inr ⟨grown place false isFile, noSlash⟩

end Grows

/-! ### Reading -/

/-- A path that leads somewhere leads to its location. -/
theorem locate_eq_destination (located : files.locate working path = .ok place) :
    place = destination working path :=
  descend_eq_walk (locate_eq_ok_iff.mp located).2.1

/-- A file is read where its path leads to it. -/
theorem read_eq_ok_iff {content : Bytes} :
    files.read working path = .ok content ↔
      files.locate working path = .ok (destination working path) ∧
        ∃ executable, files.entryAt? (destination working path) = some (.file content executable) := by
  constructor
  · intro done
    unfold read at done
    cases located : files.locate working path with
    | error fault => simp [located, bind, Except.bind] at done
    | ok place =>
      simp only [located, bind, Except.bind] at done
      obtain rfl := locate_eq_destination located
      split at done
      · next text executable found =>
        obtain rfl := Except.ok.inj done
        exact ⟨rfl, executable, found⟩
      · contradiction
      · contradiction
  · rintro ⟨located, executable, found⟩
    simp [read, located, bind, Except.bind, found]

/-- A file that could be read is read in a grown tree as long as it was not changed. -/
theorem Grows.read (grown : Grows before after) {content : Bytes}
    (kept : after.entryAt? (destination working path) = before.entryAt? (destination working path))
    (done : before.read working path = .ok content) : after.read working path = .ok content := by
  obtain ⟨located, executable, found⟩ := read_eq_ok_iff.mp done
  exact read_eq_ok_iff.mpr ⟨grown.locate located, executable, kept ▸ found⟩

/-- Steps lead to an entry that was there before if all directories on the way were there. -/
theorem descend_back {steps : List Bytes}
    (fixed : ∀ beginning, beginning <+: steps →
      after.entryAt? (walk place beginning) = some .directory →
        before.entryAt? (walk place beginning) = some .directory)
    (reached : after.descend place steps = .ok target) (present : (before.kindAt? target).isSome) :
    before.descend place steps = .ok target := by
  induction steps generalizing place with
  | nil => exact reached
  | cons name rest inductionHypothesis =>
    obtain ⟨next, stepped, -, onwards⟩ := descend_inv reached
    obtain ⟨here, rfl⟩ := step_eq_ok stepped
    have fixedLater (beginning : List Bytes) (isPrefix : beginning <+: rest) :=
      fixed (name :: beginning) (List.cons_prefix_cons.mpr ⟨rfl, isPrefix⟩)
    have hereBefore : before.entryAt? place = some .directory := fixed [] List.nil_prefix here
    have sameStep : before.step place name = .ok (stepFrom place name) := by
      rw [← stepped]
      apply step_congr
      rw [kindAt?_eq_true_iff.mpr here, kindAt?_eq_true_iff.mpr hereBefore]
    have nextPresent : (before.kindAt? (stepFrom place name)).isSome := by
      cases rest with
      | nil =>
        obtain rfl := Except.ok.inj onwards
        exact present
      | cons second later =>
        obtain ⟨beyond, secondStep, -⟩ := descend_inv onwards
        have next : before.entryAt? (stepFrom place name) = some .directory :=
          fixedLater [] List.nil_prefix (step_eq_ok secondStep).1
        rw [kindAt?_eq_true_iff.mpr next]
        rfl
    obtain ⟨kind, found⟩ := Option.isSome_iff_exists.mp nextPresent
    rw [descend_cons sameStep, found]
    exact inductionHypothesis fixedLater onwards

/-- A file that was not changed could be read before if all directories on the way were there. -/
theorem read_back {content : Bytes}
    (fixed : ∀ beginning, beginning <+: path.steps →
      after.entryAt? (walk (origin working path) beginning) = some .directory →
        before.entryAt? (walk (origin working path) beginning) = some .directory)
    (kept : after.entryAt? (destination working path) = before.entryAt? (destination working path))
    (done : after.read working path = .ok content) : before.read working path = .ok content := by
  obtain ⟨located, executable, found⟩ := read_eq_ok_iff.mp done
  obtain ⟨accepted, reached, kind⟩ := locate_eq_ok_iff.mp located
  have sameKind : after.kindAt? (destination working path) =
      before.kindAt? (destination working path) := by
    rw [kindAt?, kindAt?, kept]
  have present : (before.kindAt? (destination working path)).isSome := by
    rw [kindAt?, ← kept, found]
    rfl
  rw [sameKind] at kind
  exact read_eq_ok_iff.mpr
    ⟨locate_eq_ok_iff.mpr ⟨accepted, descend_back fixed reached present, kind⟩,
      executable, kept ▸ found⟩

theorem readText_eq_ok_iff {text : Text} :
    files.readText working path = .ok text ↔
      ∃ content, files.read working path = .ok content ∧ Utf8.decode? content = some text := by
  unfold readText
  cases files.read working path with
  | error fault => simp [bind, Except.bind]
  | ok content =>
    cases decoded : Utf8.decode? content <;> simp [bind, Except.bind, decoded]

/-! ### Writing -/

/-- A file that is opened for writing is at the location of its path. -/
theorem openFile_eq_destination (opened : files.openFile working path = .ok target) :
    target = destination working path := by
  obtain ⟨above, name, named, -, -, rfl⟩ := openFile_eq_ok_iff.mp opened
  exact named.destination_eq.symm

/-- Giving the opened file a content changes that file alone, lets the tree grow and makes no
directory. -/
theorem put_opened (opened : files.openFile working path = .ok target) (content : Bytes)
    (executable : Bool) :
    SameBesides (some (destination working path)) files
        (files.put target (.file content executable)) ∧
      (files.put target (.file content executable)).entryAt? (destination working path) =
        some (.file content executable) ∧
      Grows files (files.put target (.file content executable)) ∧
      NoNewDirectory files (files.put target (.file content executable)) := by
  obtain ⟨above, name, named, -, notDirectory, rfl⟩ := openFile_eq_ok_iff.mp opened
  have inside : name :: above ≠ [] := List.cons_ne_nil name above
  rw [named.destination_eq]
  refine ⟨fun location other => ?_, ?_, Grows.put inside fun kind found => ?_,
    fun location isDirectory => ?_⟩
  · rw [entryAt?_put files _ _ _ inside, if_neg fun same => other (congrArg some same.symm)]
  · rw [entryAt?_put files _ _ _ inside, if_pos rfl]
  · cases kind with
    | false => rfl
    | true => exact absurd (kindAt?_eq_true_iff.mp found) notDirectory
  · rw [entryAt?_put files _ _ _ inside] at isDirectory
    split at isDirectory
    · simp at isDirectory
    · exact isDirectory

/-- A content fits piece by piece as it fits in one. -/
theorem fitting_append (limit : Option Nat) (front back : Bytes) :
    fitting limit 0 (front ++ back) =
      fitting limit 0 front ++ fitting limit (fitting limit 0 front).length back := by
  cases limit with
  | none => rfl
  | some limit =>
    have left : limit - (front.take limit).length = limit - front.length := by
      rw [List.length_take]
      omega
    simp only [fitting, Nat.sub_zero, List.take_append, left]

/-- The front of a content fits into a file whatever stands behind it; or the content is cut within its
front, and then nothing more fits. -/
theorem fitting_cases (limit : Option Nat) (old front : Bytes) :
    (∀ back, fitting limit old.length (front ++ back) =
        front ++ fitting limit (old ++ front).length back) ∨
      ∃ cut, (∀ back, fitting limit old.length (front ++ back) = cut) ∧
        ∀ more, fitting limit (old ++ cut).length more = [] := by
  cases limit with
  | none => exact .inl fun back => rfl
  | some limit =>
    by_cases fits : front.length ≤ limit - old.length
    · left
      intro back
      have left : limit - old.length - front.length = limit - (old ++ front).length := by
        rw [List.length_append, Nat.sub_add_eq]
      rw [fitting, fitting, List.take_append, List.take_of_length_le fits, left]
    · have short : limit - old.length ≤ front.length := Nat.le_of_not_le fits
      refine .inr ⟨front.take (limit - old.length), fun back => ?_, fun more => ?_⟩
      · rw [fitting, List.take_append_of_le_length short]
      · have full : limit - (old ++ front.take (limit - old.length)).length = 0 := by
          rw [List.length_append, List.length_take, Nat.min_eq_left short]
          omega
        rw [fitting, full, List.take_zero]

/-- Only a file that cannot be opened is not added to. -/
theorem append_of_openFile (limit : Option Nat) (opened : files.openFile working path = .ok target)
    (content : Bytes) :
    files.append limit working path content =
      .ok (files.put target
        (.file ((files.contentAt target).1 ++ fitting limit (files.contentAt target).1.length content)
          (files.contentAt target).2)) := by
  rw [append, opened]
  rfl

/-- A name in a directory is still one in a grown tree. -/
theorem Grows.names (grown : Grows before after) {above : Location} {name : Bytes}
    (named : before.Names working path above name) : after.Names working path above name :=
  { named with
    reached := grown.descend named.reached
    inside := grown.directory named.inside }

/-- A file that was opened for writing can be opened in a grown tree, where it is still a file. -/
theorem Grows.openFile (grown : Grows before after)
    (opened : before.openFile working path = .ok target)
    (isFile : after.kindAt? target = some false) : after.openFile working path = .ok target := by
  obtain ⟨above, name, named, noSlash, -, same⟩ := openFile_eq_ok_iff.mp opened
  refine openFile_eq_ok_iff.mpr ⟨above, name, grown.names named, noSlash, fun directory => ?_, same⟩
  rw [kindAt?_eq_true_iff.mpr directory] at isFile
  contradiction

/-- Only a file that cannot be opened is not written. -/
theorem write_of_openFile (opened : files.openFile working path = .ok target) (content : Bytes) :
    ∃ after, files.write working path content = .ok after := by
  rw [write, opened]
  exact ⟨_, rfl⟩

/-- What an access to an opened file gives, it gives for the location of the path. -/
theorem openFile_bind_inv {change : Location → FileSystem}
    (done : (do
      let target ← files.openFile working path
      return change target : Except Fault FileSystem) = .ok after) :
    files.openFile working path = .ok (destination working path) ∧
      after = change (destination working path) := by
  cases opened : files.openFile working path with
  | error fault => simp [opened, bind, Except.bind] at done
  | ok target =>
    obtain rfl := openFile_eq_destination opened
    rw [opened] at done
    exact ⟨rfl, (Except.ok.inj done).symm⟩

theorem write_inv {content : Bytes} (done : files.write working path content = .ok after) :
    files.openFile working path = .ok (destination working path) ∧
      after = files.put (destination working path)
        (.file content (files.contentAt (destination working path)).2) :=
  openFile_bind_inv done

theorem append_inv {limit : Option Nat} {content : Bytes}
    (done : files.append limit working path content = .ok after) :
    files.openFile working path = .ok (destination working path) ∧
      after = files.put (destination working path)
        (.file ((files.contentAt (destination working path)).1 ++
            fitting limit (files.contentAt (destination working path)).1.length content)
          (files.contentAt (destination working path)).2) :=
  openFile_bind_inv done

/-- Writing changes the file of the path and nothing else, and the file can be opened again. -/
theorem write_changes {content : Bytes} (done : files.write working path content = .ok after) :
    SameBesides (some (destination working path)) files after ∧
      (∃ executable, after.entryAt? (destination working path) =
        some (.file content executable)) ∧
      Grows files after ∧
      after.openFile working path = .ok (destination working path) := by
  obtain ⟨opened, rfl⟩ := write_inv done
  obtain ⟨elsewhere, held, grown, -⟩ := put_opened opened content
    (files.contentAt (destination working path)).2
  exact ⟨elsewhere, ⟨_, held⟩, grown,
    grown.openFile opened (kindAt?_eq_false_iff.mpr ⟨_, _, held⟩)⟩

/-- Writing to a file what it holds already changes nothing. -/
theorem write_unchanged {content : Bytes} {executable : Bool}
    (done : files.write working path content = .ok after)
    (found : files.entryAt? (destination working path) = some (.file content executable)) :
    after.entryAt? (destination working path) = files.entryAt? (destination working path) := by
  obtain ⟨opened, rfl⟩ := write_inv done
  obtain ⟨-, held, -⟩ := put_opened opened content
    (files.contentAt (destination working path)).2
  rw [held, found, contentAt, found]

/-! ### Making directories -/

/-- What was made first is still there, and what is made later was free before. -/
theorem MayMake.trans {allowed : Location → Prop} {location : Location}
    (first : MayMake allowed before after location)
    (second : MayMake allowed after later location) : MayMake allowed before later location := by
  rcases second with kept | ⟨⟨free, directory⟩, isAllowed⟩
  · rw [MayMake, NewDirectory, kept]
    exact first
  · rcases first with kept | ⟨⟨-, directory⟩, -⟩
    · exact .inr ⟨⟨kept ▸ free, directory⟩, isAllowed⟩
    · rw [free] at directory
      contradiction

/-- Where there was an entry, it is as it was. -/
theorem MayMake.kept {allowed : Location → Prop} {location : Location} {entry : Entry}
    (made : MayMake allowed before after location)
    (found : before.entryAt? location = some entry) : after.entryAt? location = some entry := by
  rcases made with same | ⟨⟨free, -⟩, -⟩
  · rw [same, found]
  · rw [found] at free
    contradiction

namespace OnlyMakes

variable {allowed others : Location → Prop}

theorem refl (files : FileSystem) : OnlyMakes allowed files files := fun _ => .inl rfl

theorem mono (made : OnlyMakes allowed before after)
    (wider : ∀ location, allowed location → others location) : OnlyMakes others before after :=
  fun location => (made location).imp_right fun new => ⟨new.1, wider location new.2⟩

theorem trans (first : OnlyMakes allowed before after) (second : OnlyMakes allowed after later) :
    OnlyMakes allowed before later :=
  fun location => (first location).trans (second location)

theorem kept (made : OnlyMakes allowed before after) {entry : Entry}
    (found : before.entryAt? place = some entry) : after.entryAt? place = some entry :=
  (made place).kept found

theorem grows (made : OnlyMakes allowed before after) : Grows before after := by
  intro location kind found
  obtain ⟨entry, present, rfl⟩ := Option.map_eq_some_iff.mp found
  rw [kindAt?, made.kept present, Option.map_some]

end OnlyMakes

/-- A path for whose directory there is nothing left to make. -/
def Settled (files : FileSystem) (working : Location) (path : Path) : Prop :=
  path.bytes = [] ∨ files.follow? working path = some .directory

theorem follow?_eq_directory_iff :
    files.follow? working path = some .directory ↔
      files.locate working path = .ok (destination working path) ∧
        files.entryAt? (destination working path) = some .directory := by
  unfold follow?
  cases located : files.locate working path with
  | error fault => simp
  | ok place =>
    obtain rfl := locate_eq_destination located
    simp

theorem Grows.settled (grown : Grows before after) (settled : before.Settled working path) :
    after.Settled working path := by
  refine settled.imp_right fun led => ?_
  obtain ⟨located, found⟩ := follow?_eq_directory_iff.mp led
  exact follow?_eq_directory_iff.mpr ⟨grown.locate located, grown.directory found⟩

theorem passes_destination (working : Location) (path : Path) :
    Passes working path (destination working path) :=
  ⟨path.steps, List.prefix_rfl, rfl⟩

/-- The way of a parent is the beginning of the way of the path. -/
theorem Passes.of_parent {parent : Path} (above : path.parent? = some parent) {location : Location}
    (passed : Passes working parent location) : Passes working path location := by
  obtain ⟨beginning, sameStart⟩ := Path.steps_parent above
  obtain ⟨steps, isPrefix, rfl⟩ := passed
  exact ⟨steps, isPrefix.trans beginning, by rw [origin, origin, sameStart]⟩

/-- Making one directory puts it where the path leads. -/
theorem makeDirectory_changes (done : files.makeDirectory working path = .ok after) :
    OnlyMakes (Passes working path) files after ∧ after.Settled working path := by
  obtain ⟨above, name, named, free, rfl⟩ := makeDirectory_eq_ok_iff.mp done
  have inside : name :: above ≠ [] := List.cons_ne_nil name above
  have made : OnlyMakes (Passes working path) files (files.put (name :: above) .directory) := by
    intro location
    rw [MayMake, NewDirectory, entryAt?_put files _ _ _ inside]
    split
    · next here =>
      exact .inr ⟨⟨here ▸ free, rfl⟩, here ▸ named.destination_eq ▸ passes_destination working path⟩
    · exact .inl rfl
  have found : (files.put (name :: above) .directory).entryAt? (name :: above) =
      some .directory := by
    rw [entryAt?_put files _ _ _ inside, if_pos rfl]
  have located := (made.grows.names named).locate_eq (.inl (kindAt?_eq_true_iff.mpr found))
  refine ⟨made, .inr (follow?_eq_directory_iff.mpr ?_)⟩
  rw [named.destination_eq]
  exact ⟨located, found⟩

/-- Make one directory. One that is already there is no failure. -/
def ensureDirectory (files : FileSystem) (working : Location) (path : Path) :
    FileSystem × Except Fault Unit :=
  match files.makeDirectory working path with
  | .ok made => (made, .ok ())
  | .error fault =>
      if files.follow? working path == some .directory then (files, .ok ())
      else (files, .error fault)

/-- Making directories is making one, unless those above it are missing: then it is making them
first. -/
theorem makeDirectoriesUpTo_succ (working : Location) (fuel : Nat) (files : FileSystem)
    (path : Path) :
    makeDirectoriesUpTo working (fuel + 1) files path =
      if path.bytes.isEmpty then (files, .ok ())
      else
        match files.makeDirectory working path with
        | .error .notFound =>
            match path.parent? with
            | none => (files, .error .noRoot)
            | some parent =>
                match makeDirectoriesUpTo working fuel files parent with
                | (between, .error fault) => (between, .error fault)
                | (between, .ok ()) => between.ensureDirectory working path
        | _ => files.ensureDirectory working path := by
  rw [makeDirectoriesUpTo]
  unfold ensureDirectory
  rcases files.makeDirectory working path with fault | made
  · cases fault <;> rfl
  · rfl

theorem ensureDirectory_changes (files : FileSystem) (working : Location) (path : Path) :
    OnlyMakes (Passes working path) files (files.ensureDirectory working path).1 ∧
      ((files.ensureDirectory working path).2 = .ok () →
        (files.ensureDirectory working path).1.Settled working path) := by
  unfold ensureDirectory
  split
  · next made done => exact (makeDirectory_changes done).imp_right fun settled _ => settled
  · split
    · next led => exact ⟨.refl files, fun _ => .inr (by simpa using led)⟩
    · exact ⟨.refl files, fun done => by contradiction⟩

/-- Making directories makes some on the way of the path, and all of them unless it fails. The
induction is on how far up parents are tried. -/
theorem makeDirectoriesUpTo_changes (working : Location) (fuel : Nat) (files : FileSystem)
    (path : Path) :
    OnlyMakes (Passes working path) files (makeDirectoriesUpTo working fuel files path).1 ∧
      ((makeDirectoriesUpTo working fuel files path).2 = .ok () →
        (makeDirectoriesUpTo working fuel files path).1.Settled working path) := by
  induction fuel generalizing files path with
  | zero => exact ⟨.refl files, fun done => by simp [makeDirectoriesUpTo] at done⟩
  | succ fuel inductionHypothesis =>
    rw [makeDirectoriesUpTo_succ]
    split
    · next empty => exact ⟨.refl files, fun _ => .inl (List.isEmpty_iff.mp empty)⟩
    · split
      · split
        · exact ⟨.refl files, fun done => by contradiction⟩
        · next parent above =>
          have upTo := inductionHypothesis files parent
          rcases ended : makeDirectoriesUpTo working fuel files parent with ⟨between, fault | done⟩ <;>
            rw [ended] at upTo
          · exact ⟨upTo.1.mono fun _ => .of_parent above, fun done => by contradiction⟩
          · obtain ⟨madeHere, settled⟩ := ensureDirectory_changes between working path
            exact ⟨(upTo.1.mono fun _ => .of_parent above).trans madeHere, settled⟩
      · exact ensureDirectory_changes files working path

/-- Making directories changes nothing where there is nothing left to make. -/
theorem makeDirectories_of_settled (settled : files.Settled working path) :
    files.makeDirectories working path = (files, .ok ()) := by
  unfold makeDirectories makeDirectoriesUpTo
  rcases settled with empty | led
  · simp [empty]
  · obtain ⟨located, found⟩ := follow?_eq_directory_iff.mp led
    simp [makeDirectory_of_located located found, led]

/-- Making directories makes some on the way of the path, and all of them unless it fails. -/
theorem makeDirectories_changes (files : FileSystem) (working : Location) (path : Path) :
    OnlyMakes (Passes working path) files (files.makeDirectories working path).1 ∧
      ((files.makeDirectories working path).2 = .ok () →
        (files.makeDirectories working path).1.Settled working path) :=
  makeDirectoriesUpTo_changes working (path.bytes.length + 1) files path

end FfiBindings.FileSystem
