import FfiBindings.Text.Quoted

/-!
# Paths

A path is any byte string. Its text is kept as it was written; only when its last component is
asked for are repeated slashes, slashes at the end and `.` components passed over. All functions
here look at the bytes alone and never at a file system.
-/

namespace FfiBindings

/-- A path, absolute or relative. -/
structure Path where
  bytes : Bytes
  deriving Repr, DecidableEq

namespace Path

/-- The slash between components. -/
def slash : UInt8 := 0x2F

/-- The full stop, which alone names the directory itself and starts a file extension. -/
def dot : UInt8 := 0x2E

/-- The component that names the parent directory. -/
def dotDot : Bytes := [dot, dot]

/-- The path that a text spells. -/
def ofText (text : Text) : Path := ⟨Utf8.encode text⟩

/-- The text of a path whose bytes are UTF-8. -/
def text? (path : Path) : Option Text := Utf8.decode? path.bytes

/-- The path as shown to people: broken bytes become replacement characters. -/
def display (path : Path) : Text := Utf8.decodeLossy path.bytes

/-- The path between quotes, with everything that cannot be seen written out. -/
def quoted (path : Path) : Text := Quoted.bytes path.bytes

/-- Whether the path starts at the root. -/
def isAbsolute (path : Path) : Bool := path.bytes.head? == some slash

/-- Take `path` from the directory `base`. An absolute path stands for itself. -/
def join (base path : Path) : Path :=
  if path.isAbsolute then path
  else if base.bytes.isEmpty || base.bytes.getLast? == some slash then ⟨base.bytes ++ path.bytes⟩
  else ⟨base.bytes ++ slash :: path.bytes⟩

/-- The number of bytes before the first component that can be dropped: the slash of the root, or
    the dot of a path that starts at the current directory. -/
def bodyStart (path : Path) : Nat :=
  match path.bytes with
  | first :: rest =>
      if first == slash then 1
      else if first == dot && (rest.isEmpty || rest.head? == some slash) then 1
      else 0
  | [] => 0

/-- The last component of a reversed path, itself reversed. -/
def backComponent (back : Bytes) : Bytes := back.takeWhile (· != slash)

/-- What is left of a reversed path without its last component, its slash included. -/
def backRest (back : Bytes) : Bytes := back.dropWhile (· != slash)

/-- Pass over slashes and `.` components at the end of a path given in reverse. -/
def trimBack (back : Bytes) : Bytes :=
  match back with
  | [] => []
  | last :: before =>
      if last == slash then trimBack before
      else if last == dot && (before.isEmpty || before.head? == some slash) then
        trimBack before
      else last :: before
termination_by back.length

/-- The last component, `..` included, with the bytes of the path before it. -/
def lastComponent? (path : Path) : Option (Bytes × Bytes) :=
  let back := trimBack (path.bytes.drop path.bodyStart).reverse
  if back.isEmpty then none
  else some (path.bytes.take path.bodyStart ++ (backRest back).reverse,
    (backComponent back).reverse)

/-- The last component where it names something: not the root, nor a directory by `.` or `..`. The
    bytes of the path before it come first. -/
def splitName? (path : Path) : Option (Bytes × Bytes) :=
  path.lastComponent?.filter (·.2 != dotDot)

/-- The name at the end of the path. -/
def fileName? (path : Path) : Option Bytes := path.splitName?.map (·.2)

/-- The part of a name before its last dot. A name that has no dot, or only one in front, is all
    stem. -/
def stemOf (name : Bytes) : Bytes :=
  if name.contains dot then
    let stem := ((name.reverse.dropWhile (· != dot)).drop 1).reverse
    if stem.isEmpty then name else stem
  else name

/-- The name at the end of the path without its extension. -/
def fileStem? (path : Path) : Option Bytes := path.fileName?.map stemOf

/-- The part of a name after its last dot, unless that dot stands in front. -/
def extensionOf? (name : Bytes) : Option Bytes :=
  if name.contains dot && stemOf name != name then
    some (name.reverse.takeWhile (· != dot)).reverse
  else none

/-- The path with as many bytes dropped at its end as its extension has. -/
def dropExtension (path : Path) : Path :=
  match path.fileName?.bind extensionOf? with
  | some extension => ⟨path.bytes.take (path.bytes.length - extension.length)⟩
  | none => path

/-- Replace the extension of the name at the end of the path, or add one. The old extension is
    dropped first, and if the path then ends in no name it gets no extension. -/
def withExtension (path : Path) (extension : Text) : Path :=
  match path.dropExtension.splitName? with
  | some (before, name) => ⟨before ++ stemOf name ++ dot :: Utf8.encode extension⟩
  | none => path.dropExtension

/-- The path without its last component. The root and the empty path have none. -/
def parent? (path : Path) : Option Path :=
  match path.lastComponent? with
  | some _ =>
      let back := trimBack (path.bytes.drop path.bodyStart).reverse
      some ⟨path.bytes.take path.bodyStart ++ (trimBack (backRest back)).reverse⟩
  | none =>
      if path.isAbsolute || path.bytes.isEmpty then none else some ⟨[]⟩

/-- The components that a walk along the path visits, from the outermost on. -/
def steps (path : Path) : List Bytes :=
  let rec cut : Bytes → List Bytes
    | [] => [[]]
    | b :: rest =>
        if b == slash then [] :: cut rest
        else
          match cut rest with
          | [] => [[b]]
          | name :: names => (b :: name) :: names
  (cut path.bytes).filter (! ·.isEmpty)

/-- The path that some steps lead to from this one. A `.` step is left out. -/
def descend (path : Path) (steps : List Bytes) : Path :=
  (steps.filter (· != [dot])).foldl (fun path step => path.join ⟨step⟩) path

/-- The base name of a source file, which names its service: the stem at the end of its path. -/
def baseName? (path : Path) : Option Text :=
  (path.fileStem?.map Utf8.decodeLossy).filter (! ·.isEmpty)

end Path

end FfiBindings
