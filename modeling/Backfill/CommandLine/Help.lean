import Backfill.CommandLine.Options
import Backfill.Text.Paint

/-!
# Help texts

A help text says what a command is for and how it is called, and lists what it takes. In a list the
explanations are aligned. Titles and what is typed as it stands have styles of their own.
-/

namespace Backfill.CommandLine

open Text

/-- Environment variables with their values. -/
abbrev Environment := List (String × String)

/-- The variable of an option with its current value. -/
def variableNote (env : Environment) (o : Opt) : String :=
  match o.envName? with
  | none => ""
  | some name =>
    if o.isSecret then " [env: " ++ name ++ "]"
    else " [env: " ++ name ++ "=" ++ (env.lookup name).getD "" ++ "]"

/-! ### Styles -/

/-- The style of a title. -/
def heading (s : String) : String :=
  Paint.applyAll [.bold, .underlined] s

/-- The style of what is typed as it stands. -/
def literal (s : String) : String :=
  Paint.applyAll [.bold] s

/-! ### Sections -/

/-- An entry of a list: how long it is when shown, its text with styles, and its explanation. -/
structure Entry where
  width : Nat
  text : String
  about : String

namespace Entry

/-- An entry without styles. -/
def ofText (text about : String) : Entry :=
  ⟨text.length, text, about⟩

/-- A command in a list. -/
def ofScope (scope : Scope) : Entry :=
  ⟨scope.name.length, literal scope.name, scope.about⟩

/-- An option in a list: its letter or the space for one, and its name. -/
def ofOpt (env : Environment) (o : Opt) : Entry :=
  let letter := match o.short? with
    | some c => literal ("-" ++ String.ofList [c]) ++ ", "
    | none => "    "
  let name := literal ("--" ++ o.long)
  { width := 4 + o.shown.length
    text := letter ++ if o.argument = .nothing then name else name ++ " <" ++ o.valueName ++ ">"
    about := o.about ++ variableNote env o }

end Entry

/-- A section of a help text: a title and entries, each with its explanation. -/
def listing (title : String) (entries : List Entry) : String :=
  let width := (entries.map Entry.width).foldl max 0
  let blanks (n : Nat) : String := String.ofList (List.replicate n ' ')
  -- further lines of an explanation stand below its first
  let indent := blanks (width + 4)
  String.join ((heading (title ++ ":") ++ "\n") :: entries.map fun entry =>
    "  " ++ entry.text ++ blanks (width - entry.width) ++ "  " ++
      entry.about.replace "\n" ("\n" ++ indent) ++ "\n")

/-- How a command is called. -/
def usage (scope : Scope) : String :=
  let (called, takes) := match scope with
    | .root => ("crategraph", " [OPTIONS] <COMMAND>")
    | .sync => ("crategraph sync", " [OPTIONS] <TARGET>")
    | .status => ("crategraph status", " [OPTIONS]")
    | .help => ("crategraph help", " [COMMAND]...")
  heading "Usage:" ++ " " ++ literal called ++ takes

/-- What a command takes beside options. -/
def argumentEntries : Scope → List Entry
  | .sync =>
    [.ofText "<TARGET>" "Which entities to sync [possible values: crates, versions, all]"]
  | .help => [.ofText "[COMMAND]..." "Print help for the subcommand(s)"]
  | .root | .status => []

/-- The help text of a scope, with styles. -/
def helpText (env : Environment) (scope : Scope) : String :=
  let sections :=
    [("Commands", scope.commands.map Entry.ofScope),
      ("Arguments", argumentEntries scope),
      ("Options", scope.general.map (Entry.ofOpt env)),
      ("Connection", if scope = .help then [] else Opt.connection.map (Entry.ofOpt env))]
  let shown := sections.filter fun (_, entries) => !entries.isEmpty
  "\n".intercalate
    ((scope.about ++ "\n") :: (usage scope ++ "\n") ::
      shown.map fun (title, entries) => listing title entries)

/-- The version text of a scope. -/
def versionText : Scope → String
  | .root | .help => "crategraph 0.1.0\n"
  | scope => "crategraph-" ++ scope.name ++ " 0.1.0\n"

end Backfill.CommandLine
