import FfiBindings.Build.Target
import FfiBindings.Project

/-!
# Build plans

What a build will be asked to do: the library to write, the header that appears next to it, and the
arguments for the toolchain.
-/

namespace FfiBindings.Build

/-- The paths and arguments of one build. -/
structure Plan where
  library : Path
  header : Path
  arguments : List Text
  deriving Repr, DecidableEq

/-- The header that is written next to a library. -/
def headerPath (library : Path) : Path := library.withExtension "h"

/-- The arguments that ask the toolchain for a C shared library. -/
def sharedLibraryArguments (library source : Path) : List Text :=
  ["build", "-buildmode=c-shared", "-o", library.display, source.display]

/-- The plan to build a project for a target. -/
def Plan.ofProject (project : Project) (target : Target) : Plan :=
  let library := project.libraryDirectory.join (.ofText (target.libraryName project.service))
  { library
    header := headerPath library
    arguments := sharedLibraryArguments library project.source }

end FfiBindings.Build
