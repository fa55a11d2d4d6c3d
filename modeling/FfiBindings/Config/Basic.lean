import FfiBindings.Path

/-!
# Project configuration

What a project file says: the name of the service, the source with its exported functions, and the
directories for what is generated and what is built.
-/

namespace FfiBindings

/-- Where generated and built files go. -/
structure OutputPlaces where
  /-- The directory of the service class. -/
  directory : Path
  /-- The directory of the shared library and its header. -/
  libraryDirectory : Path
  deriving Repr, DecidableEq

/-- The places used when nothing else is said. -/
def OutputPlaces.default : OutputPlaces :=
  ⟨Path.ofText "dist", Path.ofText "dist/lib"⟩

/-- The configuration of a project. -/
structure Config where
  /-- The name that the shared library is built under. -/
  service : Text
  source : Path
  output : OutputPlaces
  deriving Repr, DecidableEq

namespace Config

/-- A configuration with the default places. -/
def new (service : Text) (source : Path) : Config := ⟨service, source, .default⟩

/-- The name of the project file, which is looked for in the project's directory. -/
def fileName : Path := Path.ofText ".gophp.yaml"

end Config

end FfiBindings
