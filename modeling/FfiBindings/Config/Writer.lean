import FfiBindings.Config.Basic
import FfiBindings.Markup.Printer

/-!
# Writing a project file

A configuration is written under a heading, with every field and in a fixed order. A path has to be
a text for that.
-/

namespace FfiBindings.Config

/-- The first line of a project file. -/
def heading : Text := "# Go-PHP FFI Service Configuration\n"

/-- Why a configuration cannot be written. -/
inductive WriteError where
  /-- A path is not UTF-8. -/
  | pathNotText
  deriving Repr, DecidableEq

/-- The error in words. -/
def WriteError.message : WriteError → Text
  | .pathNotText => "path contains invalid UTF-8 characters"

/-- The text of a path. -/
def pathText (path : Path) : Except WriteError Text :=
  match path.text? with
  | some text => .ok text
  | none => .error .pathNotText

/-- The text of the project file for a configuration. -/
def render (config : Config) : Except WriteError Text := do
  let source ← pathText config.source
  let directory ← pathText config.output.directory
  let libraryDirectory ← pathText config.output.libraryDirectory
  return heading ++ Markup.printField 0 "service" config.service ++
    Markup.printField 0 "source" source ++ "output:\n" ++
    Markup.printField 1 "dir" directory ++ Markup.printField 1 "lib_dir" libraryDirectory

end FfiBindings.Config
