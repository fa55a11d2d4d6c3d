import FfiBindings.Path

/-!
# File trees

A tree of directories and regular files without links. Every entry is found at its location, the
names from the entry up to the root, so that the containing directory is the tail. The root is
always a directory and is not listed.
-/

namespace FfiBindings

/-- The names that lead from an entry up to the root. -/
abbrev Location := List Bytes

/-- What stands at a location. -/
inductive Entry where
  | directory
  | file (content : Bytes) (executable : Bool)
  deriving Repr, DecidableEq

/-- A tree of entries, in the order in which they were made. -/
structure FileSystem where
  entries : List (Location × Entry)
  deriving Repr, DecidableEq

namespace FileSystem

/-- The entry at a location. -/
def entryAt? (files : FileSystem) (location : Location) : Option Entry :=
  if location.isEmpty then some .directory else files.entries.lookup location

/-- Whether a directory stands at the location. -/
def isDirectory (files : FileSystem) (location : Location) : Bool :=
  files.entryAt? location == some .directory

/-- Replace the entry listed for a location, or list it last. -/
def putEntry (location : Location) (entry : Entry) :
    List (Location × Entry) → List (Location × Entry)
  | [] => [(location, entry)]
  | (other, old) :: rest =>
      if other == location then (location, entry) :: rest
      else (other, old) :: putEntry location entry rest

/-- The tree with an entry at a location. -/
def put (files : FileSystem) (location : Location) (entry : Entry) : FileSystem :=
  ⟨putEntry location entry files.entries⟩

/-- The tree without a location and all that lies below it. -/
def remove (files : FileSystem) (location : Location) : FileSystem :=
  ⟨files.entries.filter fun listed => !location.isSuffixOf listed.1⟩

/-- The names in a directory. -/
def names (files : FileSystem) (location : Location) : List Bytes :=
  files.entries.filterMap fun listed =>
    match listed.1 with
    | name :: above => if above == location then some name else none
    | [] => none

theorem lookup_putEntry (entries : List (Location × Entry)) (location other : Location)
    (entry : Entry) :
    (putEntry location entry entries).lookup other =
      if other = location then some entry else entries.lookup other := by
  induction entries with
  | nil =>
    by_cases same : other = location
    · simp [putEntry, same]
    · simp [putEntry, List.lookup_cons, beq_false_of_ne same, same]
  | cons listed rest ih =>
    obtain ⟨here, old⟩ := listed
    by_cases found : here = location
    · subst found
      by_cases same : other = here
      · simp [putEntry, same]
      · simp [putEntry, List.lookup_cons, beq_false_of_ne same, same]
    · by_cases same : other = here
      · subst same
        simp [putEntry, found]
      · simp [putEntry, List.lookup_cons, found, beq_false_of_ne same, ih]

/-- Putting an entry changes what is found at its location and nowhere else. The root stays a
    directory whatever is put there. -/
theorem entryAt?_put (files : FileSystem) (location other : Location) (entry : Entry)
    (inside : location ≠ []) :
    (files.put location entry).entryAt? other =
      if other = location then some entry else files.entryAt? other := by
  by_cases root : other = []
  · subst root
    simp [entryAt?, Ne.symm inside]
  · simp [entryAt?, put, lookup_putEntry, root]

end FileSystem

end FfiBindings
