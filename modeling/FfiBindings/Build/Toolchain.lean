import FfiBindings.Build.Plan
import FfiBindings.Program.Launch

/-!
# Finding the toolchain

The environment may name the toolchain's program; otherwise it is looked for on the search path.
-/

namespace FfiBindings.Build

/-- The name of the toolchain's program. -/
def toolchainProgram : Path := Path.ofText "go"

/-- The part of the program that looks for the toolchain, as it names itself in events. -/
def toolchainTarget : Text := "gophp_config::toolchain"

/-- Whether a path starts with a tilde that stands for the home directory. -/
def startsAtHome (path : Path) : Bool :=
  !path.isAbsolute && path.steps.head? == some (Utf8.encode "~")

/-- An entry of the search path with a tilde in front replaced by the home directory. -/
def expandHome (host : Host) (entry : Path) : Path :=
  match (host.environmentValue? "HOME").filter (! ·.isEmpty) with
  | some home =>
      if startsAtHome entry then Path.descend ⟨home⟩ (entry.steps.drop 1) else entry
  | none => entry

/-- A path as it is found from the working directory. One that still starts with a tilde is left
    alone. -/
def anchor (host : Host) (path : Path) : Path :=
  if path.isAbsolute || startsAtHome path then path else host.workingPath.descend path.steps

/-- Whether a path leads to a regular file that may be executed. -/
def isExecutable (host : Host) (path : Path) : Bool :=
  match host.follow? path with
  | some (.file _ true) => true
  | _ => false

/-- The first toolchain on the search path, of which an empty entry is the working directory. -/
def searchToolchain (host : Host) : Option Path := do
  let searchPath ← host.environmentValue? "PATH"
  let candidates := (Program.searchEntries searchPath).map fun entry =>
    anchor host ((expandHome host entry).join toolchainProgram)
  candidates.find? (isExecutable host)

/-- Find the toolchain's program. -/
def resolveToolchain : Action ToolchainError Path := do
  let host ← get
  match host.environmentValue? toolchainVariable with
  | some named =>
      let path : Path := ⟨named⟩
      Host.report .debug toolchainTarget
        ("Using Go toolchain from " ++ toolchainVariable ++ ": " ++ path.display)
      if host.isFile path then return path
      throw (.missingOverride path)
  | none =>
      match searchToolchain host with
      | some path =>
          Host.report .debug toolchainTarget ("Found Go toolchain at " ++ path.display)
          return path
      | none => throw .notOnSearchPath

end FfiBindings.Build
