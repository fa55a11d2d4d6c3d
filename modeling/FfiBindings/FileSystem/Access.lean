import FfiBindings.FileSystem.Basic

/-!
# Reading and changing files by path

Paths are followed from a working directory, component by component, through directories that
exist. Each operation either changes exactly the entry that its path leads to or fails and changes
nothing; the failure is the one that is met first on the way. Files may have to stay within a size,
and then only the start of a content fits into one.
-/

namespace FfiBindings

/-- Why an access to files or a start of a program fails. -/
inductive Fault where
  | notFound
  | exists
  | notDirectory
  | isDirectory
  | permissionDenied
  | nameTooLong
  | notExecutableFormat
  /-- Too many files lead on to one another. -/
  | tooManyLevels
  /-- A file has reached the size that files have to stay within. -/
  | tooLarge
  /-- A file name holds a null character. -/
  | nullInName
  /-- An argument of a program holds a null character. -/
  | nullInArgument
  /-- The content of a file is not UTF-8. -/
  | invalidText
  /-- No directory of a path could be made. -/
  | noRoot
  deriving Repr, DecidableEq

/-- The failure in words. -/
def Fault.message : Fault → Text
  | .notFound => "No such file or directory (os error 2)"
  | .exists => "File exists (os error 17)"
  | .notDirectory => "Not a directory (os error 20)"
  | .isDirectory => "Is a directory (os error 21)"
  | .permissionDenied => "Permission denied (os error 13)"
  | .nameTooLong => "File name too long (os error 36)"
  | .notExecutableFormat => "Exec format error (os error 8)"
  | .tooManyLevels => "Too many levels of symbolic links (os error 40)"
  | .tooLarge => "File too large (os error 27)"
  | .nullInName => "file name contained an unexpected NUL byte"
  | .nullInArgument => "nul byte found in provided data"
  | .invalidText => "stream did not contain valid UTF-8"
  | .noRoot => "failed to create whole tree"

namespace FileSystem

/-- The longest name of an entry, in bytes. -/
def longestName : Nat := 255

/-- The length from which a path is too long, in bytes. -/
def pathLimit : Nat := 4096

/-- The location that one step leads to from a directory. -/
def step (files : FileSystem) (place : Location) (name : Bytes) : Except Fault Location :=
  match files.entryAt? place with
  | none => .error .notFound
  | some (.file ..) => .error .notDirectory
  | some .directory =>
      if name == [Path.dot] then .ok place
      else if name == Path.dotDot then .ok place.tail
      else if name.length > longestName then .error .nameTooLong
      else .ok (name :: place)

/-- Follow steps from a location. Every location passed on the way has to exist. -/
def descend (files : FileSystem) (place : Location) : List Bytes → Except Fault Location
  | [] => .ok place
  | name :: rest => do
      let next ← files.step place name
      match files.entryAt? next with
      | some _ => files.descend next rest
      | none => .error .notFound

/-- Refuse a path that no call accepts: one that holds a null, is empty or is too long. -/
def checkPath (path : Path) : Except Fault Unit :=
  if path.bytes.contains 0 then .error .nullInName
  else if path.bytes.isEmpty then .error .notFound
  else if path.bytes.length ≥ pathLimit then .error .nameTooLong
  else .ok ()

/-- Where a path starts: at the root or in the working directory. -/
def origin (working : Location) (path : Path) : Location :=
  if path.isAbsolute then [] else working

/-- Whether a path ends in a slash, and so can only name a directory. -/
def endsInSlash (path : Path) : Bool := path.bytes.getLast? == some Path.slash

/-- The existing location that a path leads to. -/
def locate (files : FileSystem) (working : Location) (path : Path) : Except Fault Location := do
  checkPath path
  let place ← files.descend (origin working path) path.steps
  match files.entryAt? place with
  | none => .error .notFound
  | some .directory => .ok place
  | some (.file ..) => if endsInSlash path then .error .notDirectory else .ok place

/-- Where a path would put a new entry: the directory that all its steps but the last lead to, and
    the last step, if there is one. -/
def locateNew (files : FileSystem) (working : Location) (path : Path) :
    Except Fault (Location × Option Bytes) := do
  checkPath path
  let place ← files.descend (origin working path) path.steps.dropLast
  match files.entryAt? place with
  | some .directory => .ok (place, path.steps.getLast?)
  | some (.file ..) => .error .notDirectory
  | none => .error .notFound

/-- The entry that a path leads to, if it leads to one. -/
def follow? (files : FileSystem) (working : Location) (path : Path) : Option Entry :=
  match files.locate working path with
  | .ok place => files.entryAt? place
  | .error _ => none

/-- The bytes of the file that a path leads to. -/
def read (files : FileSystem) (working : Location) (path : Path) : Except Fault Bytes := do
  let place ← files.locate working path
  match files.entryAt? place with
  | some (.file content _) => .ok content
  | some .directory => .error .isDirectory
  | none => .error .notFound

/-- The text of the file that a path leads to. -/
def readText (files : FileSystem) (working : Location) (path : Path) : Except Fault Text := do
  match Utf8.decode? (← files.read working path) with
  | some text => .ok text
  | none => .error .invalidText

/-- The location of the file that a path opens for writing, new or old. A path that can only name a
    directory opens none. -/
def openFile (files : FileSystem) (working : Location) (path : Path) :
    Except Fault Location := do
  let (place, last) ← files.locateNew working path
  match last with
  | none => .error .isDirectory
  | some name =>
      if endsInSlash path || name == [Path.dot] || name == Path.dotDot then .error .isDirectory
      else
        let target ← files.step place name
        if files.isDirectory target then .error .isDirectory else .ok target

/-- The content and mode of the file at a location, empty and plain where there is none yet. -/
def contentAt (files : FileSystem) (location : Location) : Bytes × Bool :=
  match files.entryAt? location with
  | some (.file content executable) => (content, executable)
  | _ => ([], false)

/-- What of a content fits into a file behind so many bytes, where files may have to stay within a
    size. -/
def fitting (limit : Option Nat) (size : Nat) (content : Bytes) : Bytes :=
  match limit with
  | none => content
  | some limit => content.take (limit - size)

/-- Open the file that a path names, and give it a new content. A file that was there keeps its
    mode. -/
def write (files : FileSystem) (working : Location) (path : Path) (content : Bytes) :
    Except Fault FileSystem := do
  let target ← files.openFile working path
  return files.put target (.file content (files.contentAt target).2)

/-- Add to the end of the file that a path names as much as fits. -/
def append (files : FileSystem) (limit : Option Nat) (working : Location) (path : Path)
    (content : Bytes) : Except Fault FileSystem := do
  let target ← files.openFile working path
  let (old, executable) := files.contentAt target
  return files.put target (.file (old ++ fitting limit old.length content) executable)

/-- Make the directory that a path names; the one that holds it has to exist. -/
def makeDirectory (files : FileSystem) (working : Location) (path : Path) :
    Except Fault FileSystem := do
  let (place, last) ← files.locateNew working path
  match last with
  | none => .error .exists
  | some name =>
      if name == [Path.dot] || name == Path.dotDot then .error .exists
      else
        let target ← files.step place name
        match files.entryAt? target with
        | some _ => .error .exists
        | none => .ok (files.put target .directory)

/-- Make a directory and those above it that are missing. Fuel bounds how far up the parents are
    tried; each parent is a shorter path. A directory that is already there is no failure. -/
def makeDirectoriesUpTo (working : Location) :
    Nat → FileSystem → Path → FileSystem × Except Fault Unit
  | 0, files, _ => (files, .error .noRoot)
  | fuel + 1, files, path =>
      if path.bytes.isEmpty then (files, .ok ())
      else
        let settle (files : FileSystem) (fault : Fault) : FileSystem × Except Fault Unit :=
          if files.follow? working path == some .directory then (files, .ok ())
          else (files, .error fault)
        match files.makeDirectory working path with
        | .ok made => (made, .ok ())
        | .error .notFound =>
            match path.parent? with
            | none => (files, .error .noRoot)
            | some parent =>
                match makeDirectoriesUpTo working fuel files parent with
                | (files, .error fault) => (files, .error fault)
                | (files, .ok ()) =>
                    match files.makeDirectory working path with
                    | .ok made => (made, .ok ())
                    | .error fault => settle files fault
        | .error fault => settle files fault

/-- Make a directory and those above it that are missing. What was made before a failure stays. -/
def makeDirectories (files : FileSystem) (working : Location) (path : Path) :
    FileSystem × Except Fault Unit :=
  makeDirectoriesUpTo working (path.bytes.length + 1) files path

/-- Remove the file that a path names. -/
def removeFile (files : FileSystem) (working : Location) (path : Path) :
    Except Fault FileSystem := do
  let place ← files.locate working path
  match files.entryAt? place with
  | some (.file ..) => .ok (files.remove place)
  | some .directory => .error .isDirectory
  | none => .error .notFound

end FileSystem

end FfiBindings
