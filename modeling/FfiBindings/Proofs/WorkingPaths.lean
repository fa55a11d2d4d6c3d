import FfiBindings.Host.Basic
import FfiBindings.Proofs.ClassFiles

/-!
# The path of the working directory

In a tree every entry has a proper name and stands in a directory. So all directories above a
directory exist, and the path that is made of its names leads to it and passes through nothing else.
-/

namespace FfiBindings

namespace FileSystem

variable {files : FileSystem} {location above : Location} {entry : Entry} {name : Bytes}

/-- Whether bytes can name an entry. -/
def isName (name : Bytes) : Bool :=
  !name.isEmpty && name != [Path.dot] && name != Path.dotDot && !name.contains Path.slash

/-- Whether every entry is listed under a name and stands in a directory. -/
def isTree (files : FileSystem) : Bool :=
  files.entries.all fun listed =>
    match listed.1 with
    | [] => false
    | name :: above => isName name && files.isDirectory above

theorem isTree_inv (tree : files.isTree = true) (found : files.entryAt? (name :: above) = some entry) :
    isName name = true ∧ files.entryAt? above = some .directory := by
  have listed : files.entries.lookup (name :: above) = some entry := found
  obtain ⟨front, back, whole, -⟩ := List.lookup_eq_some_iff.mp listed
  have member : (name :: above, entry) ∈ files.entries := by simp [whole]
  simpa [isDirectory] using List.all_eq_true.mp tree _ member

/-- All that a directory stands in are directories. -/
theorem directory_above (tree : files.isTree = true)
    (found : files.entryAt? location = some .directory) (isAbove : above <:+ location) :
    files.entryAt? above = some .directory := by
  induction location with
  | nil => rwa [List.suffix_nil.mp isAbove]
  | cons name rest inductionHypothesis =>
    rcases List.suffix_cons_iff.mp isAbove with rfl | further
    · exact found
    · exact inductionHypothesis (isTree_inv tree found).2 further

/-- All names on the way to a directory are proper. -/
theorem names_of_directory (tree : files.isTree = true)
    (found : files.entryAt? location = some .directory) : ∀ name ∈ location, isName name = true := by
  induction location with
  | nil => exact fun name member => absurd member List.not_mem_nil
  | cons name rest inductionHypothesis =>
    obtain ⟨named, directory⟩ := isTree_inv tree found
    exact List.forall_mem_cons.mpr ⟨named, inductionHypothesis directory⟩

/-- Names lead down. -/
theorem walk_names {names : List Bytes} (named : ∀ name ∈ names, isName name = true)
    (place : Location) : walk place names = names.reverse ++ place := by
  induction names generalizing place with
  | nil => rfl
  | cons name rest inductionHypothesis =>
    obtain ⟨isNamed, later⟩ := List.forall_mem_cons.mp named
    have down : stepFrom place name = name :: place := by
      unfold isName at isNamed
      simp_all [stepFrom]
    rw [walk, List.foldl_cons, ← walk, down, inductionHypothesis later]
    simp

end FileSystem

namespace Host

open FileSystem

variable {host : Host}

theorem isAbsolute_workingPath (host : Host) : host.workingPath.isAbsolute = true := by
  unfold workingPath Path.isAbsolute
  cases shape : host.directory.reverse with
  | nil => simp [List.reverse_eq_nil_iff.mp shape]
  | cons first rest =>
    have nonempty : host.directory.isEmpty = false := by
      cases above : host.directory <;> simp_all
    simp [nonempty]

/-- The steps of the path of the working directory are the names of the directory. -/
theorem steps_workingPath (named : ∀ name ∈ host.directory, isName name = true) :
    host.workingPath.steps = host.directory.reverse := by
  have steps (location : Location) (named : ∀ name ∈ location, isName name = true) :
      Path.steps ⟨location.reverse.flatMap (Path.slash :: ·)⟩ = location.reverse := by
    induction location with
    | nil => rfl
    | cons name above inductionHypothesis =>
      obtain ⟨isNamed, later⟩ := List.forall_mem_cons.mp named
      have proper : name ≠ [] ∧ Path.slash ∉ name := by
        unfold isName at isNamed
        simp_all
      rw [List.reverse_cons, List.flatMap_append, List.flatMap_cons, List.flatMap_nil,
        List.append_nil, Path.steps_append_slash, inductionHypothesis later,
        Path.steps_of_name proper.1 proper.2]
  unfold workingPath
  cases shape : host.directory with
  | nil => rfl
  | cons name above => exact steps (name :: above) (shape ▸ named)

/-- The path of the working directory leads there from everywhere. -/
theorem destination_workingPath (named : ∀ name ∈ host.directory, isName name = true)
    (working : Location) : destination working host.workingPath = host.directory := by
  have proper : ∀ name ∈ host.directory.reverse, isName name = true := fun name member =>
    named name (List.mem_reverse.mp member)
  rw [destination, origin, isAbsolute_workingPath, if_pos rfl, steps_workingPath named,
    walk_names proper, List.reverse_reverse, List.append_nil]

end Host

end FfiBindings
