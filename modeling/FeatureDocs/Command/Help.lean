import FeatureDocs.Command.Line

/-!
# Help and version texts

The help of a command is its description, its usage line, and a section for its positional
arguments and one for its options, each entry followed by what it does. Entries of a section
line up in one column two places after the longest entry; when one description would not fit in
a line of 100 characters beside that column (and the column starts past 40 characters), every
description of the section goes on its own line instead, indented by ten spaces.

* `helpWidth`, `Section`, `Section.lines`;
* `Grammar.help`, `programHelp`, `helpCommandHelp`, `Topic.text`, `versionText`.
-/

namespace FeatureDocs.Command

/-- The width help texts are laid out for. -/
def helpWidth : Nat := 100

/-- The indentation of a description on its own line. -/
def nextLineIndent : String := "          "

/-- Spaces. -/
def spaces (n : Nat) : String := String.ofList (List.replicate n ' ')

/-- One entry of a help section: what is printed before the name (a short option or its
padding), the name whose width counts for the column, and the description. -/
structure Entry where
  lead : String
  name : String
  doc : String

/-- A help section: its title and its entries. -/
structure Section where
  title : String
  entries : List Entry

/-- The lines of a section: its title, then one entry a line, or two when the descriptions go on
their own lines. -/
def Section.lines (s : Section) : List String :=
  let longest := s.entries.foldl (fun m e => max m e.name.length) 2
  let taken := s.entries.foldl (fun m e => max m e.lead.length) 0 + longest + 4
  let apart := s.entries.any fun e =>
    taken ≤ helpWidth && 40 * helpWidth < 100 * taken && e.doc.length + taken > helpWidth
  (s.title ++ ":") :: s.entries.flatMap fun e =>
    if apart then ["  " ++ e.lead ++ e.name, nextLineIndent ++ e.doc]
    else ["  " ++ e.lead ++ e.name ++ spaces (longest + 2 - e.name.length) ++ e.doc]

/-- The help entry of an option: the short letter (or room for one) before the long name, and the
default after the description when the help shows one. -/
def OptionSpec.entry (o : OptionSpec) : Entry where
  lead := match o.short with
    | some c => "-" ++ String.singleton c ++ ", "
    | none => "    "
  name := o.display
  doc := match o.shownDefault with
    | some d => o.doc ++ " [default: " ++ d ++ "]"
    | none => o.doc

/-- The entry of the help option. -/
def helpEntry : Entry := ⟨"-h, ", "--help", "Print help"⟩

/-- The entry of the version option. -/
def versionEntry : Entry := ⟨"-V, ", "--version", "Print version"⟩

/-- A help text of sections, each line ended by a newline and sections apart by a blank line. -/
def helpText (about usage : String) (sections : List Section) : String :=
  let blocks := [[about], ["Usage: " ++ usage]] ++ sections.map Section.lines
  "\n".intercalate (blocks.map fun b => String.join (b.map (· ++ "\n")))

/-- The help of a command. -/
def Grammar.help (g : Grammar) : String :=
  helpText g.about g.usage
    [⟨"Arguments", g.positionals.map fun p => ⟨"", p.display, p.doc⟩⟩,
      ⟨"Options", g.options.map OptionSpec.entry ++ [helpEntry]⟩]

/-- The help of the program. -/
def programHelp : String :=
  helpText "Gherkin feature documentation generator - CLI" programUsage
    [⟨"Commands", [⟨"", "build", buildGrammar.about⟩, ⟨"", "sphinx-config", configGrammar.about⟩,
        ⟨"", "help", "Print this message or the help of the given subcommand(s)"⟩]⟩,
      ⟨"Options", [helpEntry, versionEntry]⟩]

/-- The help of the help command, which has no options of its own. -/
def helpCommandHelp : String :=
  helpText "Print this message or the help of the given subcommand(s)" helpCommandUsage
    [⟨"Arguments", [⟨"", "[COMMAND]...", "Print help for the subcommand(s)"⟩]⟩]

/-- The help text of a topic. -/
def Topic.text : Topic → String
  | .program => programHelp
  | .build => buildGrammar.help
  | .sphinxConfig => configGrammar.help
  | .helpCommand => helpCommandHelp

/-- The version of the program. -/
def versionText : String := "gherkindoc 0.1.0\n"

end FeatureDocs.Command
