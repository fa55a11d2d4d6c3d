import FfiBindings.CommandLine.Arguments

/-!
# Pages of help

A page tells what a command does, how it is called, and what its arguments and options mean. The
options of the program are those of every command too, so each page lists them.
-/

namespace FfiBindings.CommandLine

/-- A thing that a page explains. -/
structure Entry where
  label : Text
  meaning : Text
  deriving Repr, DecidableEq

/-- A titled list of things that a page explains. -/
structure Topic where
  title : Text
  entries : List Entry
  deriving Repr, DecidableEq

/-- The column, counted from the labels, in which the meanings of some entries start. -/
def meaningColumn (entries : List Entry) : Nat :=
  (entries.map fun entry => entry.label.length).foldr max 0 + 2

/-- The lines of a topic with each meaning beside its label. -/
def Topic.briefLines (topic : Topic) : List Text :=
  let column := meaningColumn topic.entries
  topic.title :: topic.entries.map fun entry =>
    "  " ++ entry.label ++ List.replicate (column - entry.label.length) ' ' ++ entry.meaning

/-- The lines of a topic with each meaning below its label. -/
def Topic.longLines (topic : Topic) : List Text :=
  topic.title :: List.intercalate [[]] (topic.entries.map fun entry =>
    ["  " ++ entry.label, List.replicate 10 ' ' ++ entry.meaning])

/-- What a command does, in a line. -/
def CommandName.purpose : CommandName → Text
  | .init => "Create a new Go service from a template"
  | .generate => "Generate the PHP service class from a Go source file"
  | .build => "Build the Go shared library (.so/.dylib/.dll)"
  | .make => "Generate bindings and build the library"
  | .help => "Print this message or the help of the given subcommand(s)"

/-- The commands of the program. -/
def commandTopic : Topic :=
  ⟨"Commands:", CommandName.all.map fun name => ⟨name.text, name.purpose⟩⟩

/-- The option to be quiet. -/
def quietEntry : Entry := ⟨"-q, --quiet", "Decrease verbosity"⟩

/-- The option to give consent. -/
def yesEntry : Entry := ⟨"-y, --yes", "Overwrite an existing source file without asking"⟩

/-- The option to say more. -/
def verboseEntry : Entry :=
  ⟨"-v, --verbose...", "Increase verbosity (-v for debug, -vv for trace)"⟩

/-- The option to ask for help, which may point to another page. -/
def helpEntry (pointer : Text) : Entry := ⟨"-h, --help", "Print help" ++ pointer⟩

/-- The option to ask for the version. -/
def versionEntry : Entry := ⟨"-V, --version", "Print version"⟩

/-- The options of the program. -/
def programOptions (pointer : Text) : Topic :=
  ⟨"Options:", [quietEntry, verboseEntry, helpEntry pointer, versionEntry]⟩

/-- How the program is called. -/
def programUsage : Text := "Usage: gophpffi [OPTIONS] <COMMAND>"

/-- The arguments in the call of a command. -/
def CommandName.usage : CommandName → Text
  | .init => "[OPTIONS] <NAME>"
  | .help => "[COMMAND]..."
  | _ => "[OPTIONS] [SOURCE]"

/-- The arguments of a command. -/
def CommandName.argumentEntry : CommandName → Entry
  | .init => ⟨"<NAME>", "Name of the new service; the Go source becomes `<name>.go`"⟩
  | .help => ⟨"[COMMAND]...", "Print help for the subcommand(s)"⟩
  | _ => ⟨"[SOURCE]", "Go source file (defaults to `source` from .gophp.yaml)"⟩

/-- The options of a command. The command for help has none. -/
def CommandName.optionTopics : CommandName → List Topic
  | .init => [⟨"Options:", [quietEntry, yesEntry, verboseEntry, helpEntry ""]⟩]
  | .help => []
  | _ => [⟨"Options:", [quietEntry, verboseEntry, helpEntry ""]⟩]

/-- The paragraphs of a page, each with its lines. -/
def HelpPage.paragraphs : HelpPage → List (List Text)
  | .summary =>
      [["Go-PHP FFI service generator"], [programUsage], commandTopic.briefLines,
        (programOptions " (see more with '--help')").briefLines]
  | .full =>
      [["gophpffi generates PHP FFI bindings for Go shared libraries."],
        ["Functions marked with `//export Name` in a Go source file become methods of a PHP " ++
          "service class."],
        [programUsage], commandTopic.briefLines,
        (programOptions " (see a summary with '-h')").longLines]
  | .command name =>
      [[name.purpose], ["Usage: gophpffi " ++ name.text ++ " " ++ name.usage],
        (⟨"Arguments:", [name.argumentEntry]⟩ : Topic).briefLines] ++
        name.optionTopics.map Topic.briefLines

/-- The lines of a page, with an empty line between paragraphs. -/
def HelpPage.lines (page : HelpPage) : List Text := List.intercalate [[]] page.paragraphs

end FfiBindings.CommandLine
