import FfiBindings.Program.Launch
import FfiBindings.Proofs.FileNames

/-!
# Which file a launch starts

A program that is given by a path with a slash is the file that the path leads to from the directory in
which the program is to work. One that is given by a bare name is the first file of that name in the
directories of the search path that can be run. It is in the working directory only where the entry of
the search path leads there.
-/

namespace FfiBindings.Program

open FileSystem

variable {files : FileSystem} {directory place : Location} {path program : Path} {content : Bytes}

theorem executableAt_inv (found : executableAt files directory path = .ok (place, content)) :
    place = destination directory path ∧ files.entryAt? place = some (.file content true) := by
  obtain ⟨located, isPlace, found⟩ := bind_eq_ok_iff.mp found
  obtain rfl := locate_eq_destination isPlace
  split at found
  · next held =>
    obtain ⟨rfl, rfl⟩ := Prod.mk.inj (Except.ok.inj found)
    exact ⟨rfl, held⟩
  · contradiction
  · contradiction

/-- What runs is the file that the path leads to. -/
theorem runnableAt_inv (runs : runnableAt files directory path = .ok place) :
    place = destination directory path ∧
      ∃ content, files.entryAt? place = some (.file content true) := by
  obtain ⟨⟨located, content⟩, found, runs⟩ := bind_eq_ok_iff.mp runs
  obtain ⟨rfl, held⟩ := executableAt_inv found
  obtain ⟨-, -, runs⟩ := bind_eq_ok_iff.mp runs
  obtain rfl := Except.ok.inj runs
  exact ⟨rfl, content, held⟩

/-- Whether a name is first found by an entry of a search path: the file there can be run, and no entry
before it leads to one that can. -/
def FirstBy (files : FileSystem) (directory : Location) (name : Path) (entries : List Path)
    (entry : Path) (place : Location) : Prop :=
  ∃ before later, entries = before ++ entry :: later ∧
    (∀ earlier ∈ before, ∀ other, runnableAt files directory (earlier.join name) ≠ .ok other) ∧
    runnableAt files directory (entry.join name) = .ok place

/-- A search ends at the first file that can be run. -/
theorem searchRunnable_inv {name : Path} {failure : Fault} {entries : List Path}
    (found : searchRunnable files directory name failure entries = .ok (place, path)) :
    ∃ entry, path = entry.join name ∧ FirstBy files directory name entries entry place := by
  induction entries generalizing failure with
  | nil => contradiction
  | cons first rest inductionHypothesis =>
    unfold searchRunnable at found
    dsimp only at found
    cases runs : runnableAt files directory (first.join name) with
    | ok here =>
      rw [runs] at found
      obtain ⟨rfl, rfl⟩ := Prod.mk.inj (Except.ok.inj found)
      exact ⟨first, rfl, [], rest, rfl, by simp, runs⟩
    | error fault =>
      rw [runs] at found
      have goesOn : ∃ failure, searchRunnable files directory name failure rest = .ok (place, path) := by
        cases fault <;> first | exact ⟨_, found⟩ | contradiction
      obtain ⟨failure, onwards⟩ := goesOn
      obtain ⟨entry, isPath, before, later, rfl, fails, runsThere⟩ := inductionHypothesis onwards
      refine ⟨entry, isPath, first :: before, later, rfl, ?_, runsThere⟩
      rw [List.forall_mem_cons]
      exact ⟨fun other isRun => by simp [runs] at isRun, fails⟩

/-- What is looked up is the file of a path with a slash, or the first one of a name. -/
theorem lookUp_inv {searchPath : Option Bytes} {name : Path}
    (found : lookUp files directory searchPath program = .ok (place, name)) :
    (Path.slash ∈ program.bytes → place = destination directory program) ∧
      (Path.slash ∉ program.bytes →
        ∃ entry, FirstBy files directory program
          (searchEntries (searchPath.getD defaultSearchPath)) entry place) := by
  unfold lookUp at found
  split at found
  · contradiction
  · split at found
    · next slashed =>
      obtain ⟨located, runs, found⟩ := bind_eq_ok_iff.mp found
      obtain ⟨rfl, rfl⟩ := Prod.mk.inj (Except.ok.inj found)
      exact ⟨fun _ => (runnableAt_inv runs).1, fun bare => absurd (by simpa using slashed) bare⟩
    · next bare =>
      split at found
      · contradiction
      · obtain ⟨entry, -, first⟩ := searchRunnable_inv found
        exact ⟨fun slashed => absurd (by simpa using slashed) bare, fun _ => ⟨entry, first⟩⟩

theorem enter_inv {host : Host} (entered : enter host path = .ok place) :
    place = destination host.directory path ∧ host.files.entryAt? place = some .directory := by
  obtain ⟨located, isPlace, entered⟩ := bind_eq_ok_iff.mp entered
  split at entered
  · next found =>
    obtain rfl := Except.ok.inj entered
    exact ⟨locate_eq_destination isPlace, by simpa [isDirectory] using found⟩
  · contradiction

/-- What a program is started with. -/
theorem invocation_inv {host : Host} {arguments : List Bytes} {started : Invocation}
    (begun : invocation host program arguments path = .ok started) :
    started.arguments = arguments ∧ started.environment = host.environment ∧
      started.directory = destination host.directory path ∧
      host.files.entryAt? started.directory = some .directory ∧
      lookUp host.files started.directory (host.environmentValue? "PATH") program =
        .ok (started.file, started.name) := by
  unfold invocation at begun
  split at begun
  · contradiction
  · obtain ⟨working, entered, begun⟩ := bind_eq_ok_iff.mp begun
    obtain ⟨⟨file, name⟩, found, begun⟩ := bind_eq_ok_iff.mp begun
    obtain rfl := Except.ok.inj begun
    obtain ⟨isWorking, isDirectory⟩ := enter_inv entered
    exact ⟨rfl, rfl, isWorking, isDirectory, found⟩

/-- A bare name that the search path leads to is found in the working directory just where the entry of
the search path leads there. -/
theorem FirstBy.here_iff {name : Bytes} {entries : List Path} {entry : Path}
    (named : isName name = true) (first : FirstBy files directory ⟨name⟩ entries entry place) :
    place = destination directory ⟨name⟩ ↔ destination directory entry = directory := by
  obtain ⟨-, -, -, -, runs⟩ := first
  obtain ⟨nonempty, notDot, notUp, whole⟩ := Path.isName_iff.mp named
  have here : destination directory ⟨name⟩ = name :: directory := by
    have down : stepFrom directory name = name :: directory := by simp [stepFrom, notDot, notUp]
    rw [destination, origin, Path.isAbsolute_name named, if_neg Bool.false_ne_true,
      Path.steps_of_name nonempty whole]
    exact down
  rw [(runnableAt_inv runs).1, Path.destination_join_name named, here, List.cons_inj_right]

end FfiBindings.Program
