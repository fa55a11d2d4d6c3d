import FfiBindings.Path

/-!
# Build targets

The platform that a shared library is built for, in the names of the Go toolchain, and what the
library and its header are called there.
-/

namespace FfiBindings.Build

/-- A platform in the names of the Go toolchain. -/
structure Target where
  system : Text
  architecture : Text
  deriving Repr, DecidableEq

namespace Target

/-- The toolchain's name for an operating system. -/
def systemName (name : Text) : Text :=
  if name == ("macos" : Text) then "darwin" else name

/-- The architectures that the toolchain calls by another name. -/
def architectureNames : List (String × String) :=
  [("x86_64", "amd64"), ("aarch64", "arm64"), ("x86", "386"), ("powerpc64", "ppc64"),
    ("loongarch64", "loong64")]

/-- The toolchain's name for an architecture. -/
def architectureName (name : Text) : Text :=
  match architectureNames.find? (·.1.toList == name) with
  | some (_, known) => known
  | none => name

/-- The target for a platform in its common names. -/
def ofPlatform (system architecture : Text) : Target :=
  ⟨systemName system, architectureName architecture⟩

/-- The platform that commands run on. -/
def host : Target := ofPlatform "linux" "x86_64"

/-- The file extension of shared libraries. -/
def libraryExtension (target : Target) : Text :=
  if target.system == ("windows" : Text) then "dll"
  else if target.system == ("darwin" : Text) then "dylib"
  else "so"

/-- The file name of the library built for a service. -/
def libraryName (target : Target) (service : Text) : Text :=
  service ++ "-" ++ target.system ++ "-" ++ target.architecture ++ "." ++ target.libraryExtension

end Target

end FfiBindings.Build
