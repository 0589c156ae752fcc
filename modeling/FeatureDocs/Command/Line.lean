import FeatureDocs.Settings.Load
import FeatureDocs.Text.Similarity

/-!
# The command line

The program has two commands, `build` and `sphinx-config`, and `help`. The arguments of a command
are read against a table of its options and positional arguments, one argument at a time:

* a long option is `--name`, with its value attached as `--name=value` or in the next argument;
* short options may share one argument (`-nq`), and the first one that takes a value takes the
  rest of the argument (after an optional `=`) or the next argument;
* an argument that starts with `-` (other than a lone `-`) is never the value of an option;
* an option of many values takes the plain arguments after it, and an attached value is its only
  one; after `--` every argument is positional;
* an option or a positional argument is taken once its values are complete, that is when the next
  option or positional argument comes or the arguments end. Only then is it checked: an option
  needs a value, an option of one value and a flag come once only, a path is not empty, and a
  count is a number.

A refusal shows a usage line. It is the full one, or, where the refusal names what was given,
the options given, in order, and the positional arguments given or required, in place.

* `OptionSpec`, `PositionalSpec`, `Grammar`, `Reader`, `UsageError`;
* `readArgs`: the arguments taken, or a refusal, or a request for help;
* `BuildRequest`, `ConfigRequest`, `Topic`, `Invocation`, `Invocation.parse`;
* `BuildRequest.commandLineSettings`: the settings the command line overrides.
-/

namespace FeatureDocs.Command

open FeatureDocs.Store FeatureDocs.Settings

/-- How many values an option takes. -/
inductive Arity where
  | flag
  | one
  | many
deriving DecidableEq, Repr

/-- What the values of an argument must be: any text, a path (which is not empty), or a count. -/
inductive ValueKind where
  | text
  | path
  | count
deriving DecidableEq, Repr

/-- An option of a command: its long name, its short letter, its arity, the name of its value in
messages, what it does, the default the help shows, and what its values must be. -/
structure OptionSpec where
  long : String
  short : Option Char := none
  arity : Arity
  valueName : String := ""
  doc : String := ""
  shownDefault : Option String := none
  kind : ValueKind := .text
deriving Repr

/-- The option as messages show it: the long name and, when it takes values, the value name. -/
def OptionSpec.display (o : OptionSpec) : String :=
  match o.arity with
  | .flag => "--" ++ o.long
  | .one => "--" ++ o.long ++ " <" ++ o.valueName ++ ">"
  | .many => "--" ++ o.long ++ " <" ++ o.valueName ++ ">..."

/-- The option that asks for help. -/
def helpOption : OptionSpec := { long := "help", short := some 'h', arity := .flag, doc := "Print help" }

/-- A positional argument of a command: its value name, what it is, whether it takes every value
left, whether it must be given, and what its values must be. -/
structure PositionalSpec where
  name : String
  doc : String
  many : Bool := false
  required : Bool := false
  kind : ValueKind := .text
deriving Repr

/-- The argument as the help and messages show it: `<NAME>` when required, `[NAME]` otherwise,
and `...` after one of many values. -/
def PositionalSpec.display (p : PositionalSpec) : String :=
  (if p.required then "<" ++ p.name ++ ">" else "[" ++ p.name ++ "]") ++ if p.many then "..." else ""

/-- The argument as a usage line shows it once given. -/
def PositionalSpec.given (p : PositionalSpec) : String :=
  "<" ++ p.name ++ ">" ++ if p.many then "..." else ""

/-- Why a command line was refused. -/
inductive UsageError where
  | unexpectedArgument (arg : String) (tip : Option String) (usage : String)
  | unexpectedValue (value : String) (option : String) (usage : String)
  | missingValue (option : String)
  | repeated (option : String) (usage : String)
  | invalidValue (value : String) (option : String) (reason : String)
  | missingArguments (names : List String) (usage : String)
  /-- A word that names no command: the commands like it, the usage line, and whether the
  message ends by pointing to the help option. -/
  | unrecognizedSubcommand (name : String) (similar : List String) (usage : String) (helpHint : Bool)
  | missingSubcommand
deriving DecidableEq, Repr

/-- The usage line of the program without a command. -/
def programUsage : String := "gherkindoc <COMMAND>"

/-- The usage line of the help command. -/
def helpCommandUsage : String := "gherkindoc help [COMMAND]..."

/-- A tip line, set apart by blank lines. -/
def tipText : Option String → String
  | some tip => "\n  tip: " ++ tip ++ "\n"
  | none => ""

/-- The tip naming the commands like a word. -/
def similarCommandsTip : List String → Option String
  | [] => none
  | [c] => some ("a similar subcommand exists: \x27" ++ c ++ "\x27")
  | cs => some ("some similar subcommands exist: " ++ ", ".intercalate (cs.map fun c => "\x27" ++ c ++ "\x27"))

/-- The last line of a refusal. -/
def helpHintText : String := "\n\nFor more information, try \x27--help\x27.\n"

/-- The text of a refusal, followed by the usage line when it helps. -/
def UsageError.message : UsageError → String
  | .unexpectedArgument arg tip usage =>
    "error: unexpected argument \x27" ++ arg ++ "\x27 found\n" ++ tipText tip ++ "\nUsage: " ++ usage ++
      helpHintText
  | .unexpectedValue value option usage =>
    "error: unexpected value \x27" ++ value ++ "\x27 for \x27" ++ option ++
      "\x27 found; no more were expected\n\nUsage: " ++ usage ++ helpHintText
  | .missingValue option =>
    "error: a value is required for \x27" ++ option ++ "\x27 but none was supplied" ++ helpHintText
  | .repeated option usage =>
    "error: the argument \x27" ++ option ++ "\x27 cannot be used multiple times\n\nUsage: " ++ usage ++
      helpHintText
  | .invalidValue value option reason =>
    "error: invalid value \x27" ++ value ++ "\x27 for \x27" ++ option ++ "\x27: " ++ reason ++ helpHintText
  | .missingArguments names usage =>
    "error: the following required arguments were not provided:\n" ++
      String.join (names.map fun n => "  " ++ n ++ "\n") ++ "\nUsage: " ++ usage ++ helpHintText
  | .unrecognizedSubcommand name similar usage helpHint =>
    "error: unrecognized subcommand \x27" ++ name ++ "\x27\n" ++ tipText (similarCommandsTip similar) ++
      "\nUsage: " ++ usage ++ if helpHint then helpHintText else "\n"
  | .missingSubcommand => "Usage: " ++ programUsage ++ helpHintText

/-- The largest value a count may have: counts are 64-bit words. -/
def countLimit : Nat := 18446744073709551616

/-- Read a count: decimal digits after an optional `+`, below the limit. -/
def readCount (s : String) : Except String Nat :=
  let digits := match s.toList with
    | '+' :: ds => ds
    | ds => ds
  if s.isEmpty then .error "cannot parse integer from empty string"
  else if digits.isEmpty || !digits.all Char.isDigit then .error "invalid digit found in string"
  else
    let n := digits.foldl (fun n c => 10 * n + (c.toNat - '0'.toNat)) 0
    if n < countLimit then .ok n else .error "number too large to fit in target type"

/-- Check a value of an argument shown as `shown`. -/
def ValueKind.check (shown v : String) : ValueKind → Except UsageError Unit
  | .text => .ok ()
  | .path => if v.isEmpty then .error (.missingValue shown) else .ok ()
  | .count =>
    match readCount v with
    | .ok _ => .ok ()
    | .error reason => .error (.invalidValue v shown reason)

/-- An argument of a command: an option by its long name, or a positional one by its place. -/
inductive Slot where
  | option (long : String)
  | positional (index : Nat)
deriving DecidableEq, Repr

/-- The state of reading the arguments of a command. -/
structure Reader where
  /-- The arguments taken, each with its values, in the order they first came. -/
  taken : List (Slot × List String) := []
  /-- The argument whose values are being gathered, with its values so far. -/
  pending : Option (Slot × List String) := none
  /-- The option that takes the next plain argument as a value. -/
  awaiting : Option OptionSpec := none
  /-- The place of the next positional argument. -/
  position : Nat := 0
  /-- A `--` was met: every argument after it is positional. -/
  escaped : Bool := false
deriving Repr

namespace Reader

/-- The argument was taken. -/
def has (r : Reader) (s : Slot) : Bool := r.taken.any fun e => e.1 == s

/-- The values taken for an argument. -/
def values (r : Reader) (s : Slot) : List String :=
  ((r.taken.find? fun e => e.1 == s).map Prod.snd).getD []

/-- The first value taken for an argument. -/
def value? (r : Reader) (s : Slot) : Option String := (r.values s).head?

/-- The arguments taken, in order. -/
def slots (r : Reader) : List Slot := r.taken.map Prod.fst

/-- Take values for an argument, after those it has. -/
def add (r : Reader) (s : Slot) (vs : List String) : Reader :=
  if r.has s then { r with taken := r.taken.map fun e => if e.1 == s then (e.1, e.2 ++ vs) else e }
  else { r with taken := r.taken ++ [(s, vs)] }

/-- Forget an argument. -/
def drop (r : Reader) (s : Slot) : Reader := { r with taken := r.taken.filter fun e => e.1 != s }

end Reader

/-- How reading stops early: a refusal, or a request for help. -/
inductive Halt where
  | refused (e : UsageError)
  | helpAsked
deriving Repr

/-- A refusal as a way to stop reading. -/
def refuse {α : Type} : Except UsageError α → Except Halt α
  | .ok a => .ok a
  | .error e => .error (.refused e)

/-- A command: what it does, its name with the program's, its full usage line, its positional
arguments and its options. -/
structure Grammar where
  about : String
  command : String
  usage : String
  positionals : List PositionalSpec := []
  options : List OptionSpec

namespace Grammar

variable (g : Grammar)

/-- The option of a long name; the help option is one of every command. -/
def byLong (name : String) : Option OptionSpec :=
  match g.options.find? fun o => o.long == name with
  | some o => some o
  | none => if name == helpOption.long then some helpOption else none

/-- The option of a short letter. -/
def byShort (c : Char) : Option OptionSpec :=
  match g.options.find? fun o => o.short == some c with
  | some o => some o
  | none => if c == 'h' then some helpOption else none

/-- The tip for an argument that looks like an option where a value may stand. -/
def trailingTip (arg : String) : Option String :=
  if g.positionals.isEmpty then none
  else some ("to pass \x27" ++ arg ++ "\x27 as a value, use \x27-- " ++ arg ++ "\x27")

/-- The usage line for what was given: the options given, each once and in order, then the
positional arguments given or required, in place; the full usage line when nothing was given. -/
def usageFor (given : List Slot) : String :=
  if given.isEmpty then g.usage
  else
    let opts := (given.filterMap fun s =>
      match s with
      | .option long => (g.byLong long).map OptionSpec.display
      | .positional _ => none).eraseDups
    let places := (g.positionals.zipIdx.filter fun (p, i) => p.required || given.contains (.positional i)).map
      fun (p, _) => p.given
    " ".intercalate (g.command :: opts ++ places)

/-- The closest long option to a name, if one is alike enough. -/
def similarLong (name : String) : Option String :=
  Text.closest? ⟨7, 10⟩ name (g.options.map OptionSpec.long ++ [helpOption.long])

/-- Take values for an argument: an option needs a value unless it is a flag, an option of one
value and a flag come once only, and every value must be of the argument's kind. -/
def accept (r : Reader) (s : Slot) (vs : List String) : Except UsageError Reader :=
  match s with
  | .option long =>
    match g.byLong long with
    | none => .ok r
    | some o =>
      if o.arity != .flag && vs.isEmpty then .error (.missingValue o.display)
      else if o.arity != .many && r.has s then .error (.repeated o.display g.usage)
      else (vs.forM fun v => o.kind.check o.display v).map fun _ => r.add s vs
  | .positional i =>
    match g.positionals[i]? with
    | none => .ok r
    | some p => (vs.forM fun v => p.kind.check p.display v).map fun _ => r.add s vs

/-- Take the argument whose values were being gathered. -/
def settle (r : Reader) : Except UsageError Reader :=
  match r.pending with
  | none => .ok r
  | some (s, vs) => g.accept { r with pending := none } s vs

/-- Take the argument whose values were being gathered on the way to another refusal, which the
usage line then reflects: a repeated argument is forgotten, and one with a value of the wrong kind
counts as given. -/
def settleQuietly (r : Reader) : Reader :=
  match r.pending with
  | none => r
  | some (s, vs) =>
    let r := { r with pending := none }
    match g.accept r s vs with
    | .ok r' => r'
    | .error (.repeated _ _) => r.drop s
    | .error (.invalidValue _ _ _) => r.add s []
    | .error (.missingValue _) => if vs.isEmpty then r else r.add s []
    | .error _ => r

/-- Start an option: take it at once when it is a flag or has its value attached, otherwise
gather the values that follow. -/
def startOption (r : Reader) (o : OptionSpec) (attached : Option String) : Except Halt Reader := do
  let r ← refuse (g.settle r)
  if o.long == helpOption.long then throw .helpAsked
  match o.arity, attached with
  | .flag, _ =>
    let r ← refuse (g.accept r (.option o.long) [])
    pure { r with awaiting := none }
  | _, some v =>
    let r ← refuse (g.accept r (.option o.long) [v])
    pure { r with awaiting := none }
  | _, none => pure { r with pending := some (.option o.long, []), awaiting := some o }

/-- Read a long option, the text after the leading `--`. -/
def longOption (r : Reader) (text : String) : Except Halt Reader :=
  let name := String.ofList (text.toList.takeWhile (· != '='))
  let attached := if name.length == text.length then none
    else some (String.ofList (text.toList.drop (name.length + 1)))
  match g.byLong name, attached with
  | none, _ =>
    let r := g.settleQuietly r
    let arg := "--" ++ name
    match g.similarLong name with
    | some long =>
      let given := if r.has (.option long) then r.slots else r.slots ++ [.option long]
      .error (.refused (.unexpectedArgument arg (some ("a similar argument exists: \x27--" ++ long ++ "\x27"))
        (g.usageFor given)))
    | none => .error (.refused (.unexpectedArgument arg (g.trailingTip arg) (g.usageFor r.slots)))
  | some o, some v =>
    if o.arity == .flag then
      .error (.refused (.unexpectedValue v o.display (g.usageFor (r.slots ++ [.option o.long]))))
    else g.startOption r o (some v)
  | some o, none => g.startOption r o none

/-- Read a run of short options, the characters after the leading `-`. -/
def shortRun (r : Reader) : List Char → Except Halt Reader
  | [] => .ok r
  | c :: rest =>
    match g.byShort c with
    | none =>
      let arg := "-" ++ String.singleton c
      .error (.refused (.unexpectedArgument arg (g.trailingTip arg) g.usage))
    | some o =>
      if o.arity == .flag then do
        let r ← g.startOption r o none
        shortRun r rest
      else
        match rest with
        | [] => g.startOption r o none
        | '=' :: v => g.startOption r o (some (String.ofList v))
        | v => g.startOption r o (some (String.ofList v))

/-- Read a positional argument. -/
def positional (r : Reader) (arg : String) : Except Halt Reader :=
  match g.positionals[r.position]? with
  | some p => do
    let r ← refuse (g.settle r)
    let r := { r with pending := some (.positional r.position, [arg]), awaiting := none }
    pure (if p.many then r else { r with position := r.position + 1 })
  | none => .error (.refused (.unexpectedArgument arg none g.usage))

/-- Read a plain argument: a value of the option before it, or a positional argument. -/
def plain (r : Reader) (arg : String) : Except Halt Reader :=
  match r.awaiting with
  | some o =>
    let vs := match r.pending with
      | some (_, vs) => vs
      | none => []
    let r := { r with pending := some (.option o.long, vs ++ [arg]) }
    .ok (if o.arity == .many then r else { r with awaiting := none })
  | none => g.positional r arg

/-- Read one argument. -/
def step (r : Reader) (arg : String) : Except Halt Reader :=
  if r.escaped then g.positional r arg
  else if arg == "--" then .ok { r with escaped := true }
  else if arg.startsWith "--" then g.longOption r (String.ofList (arg.toList.drop 2))
  else if arg.startsWith "-" && arg != "-" then g.shortRun r (arg.toList.drop 1)
  else g.plain r arg

/-- Finish reading: take the last argument, and refuse when a required one is missing. -/
def finish (r : Reader) : Except UsageError Reader := do
  let r ← g.settle r
  let missing := g.positionals.zipIdx.filter fun (p, i) => p.required && !r.has (.positional i)
  if missing.isEmpty then pure r
  else throw (.missingArguments (missing.map fun (p, _) => p.given)
    (g.usageFor (r.slots ++ missing.map fun (_, i) => .positional i)))

/-- Read the arguments that are left. -/
def readFrom (r : Reader) : List String → Except Halt Reader
  | [] => refuse (g.finish r)
  | arg :: rest => do
    let r ← g.step r arg
    readFrom r rest

end Grammar

/-- The arguments of a command line as the grammar takes them. -/
def readArgs (g : Grammar) (args : List String) : Except Halt Reader := g.readFrom {} args

/-- The options of the build command. -/
def buildGrammar : Grammar where
  about := "Generate rST documentation from a tree of feature files"
  command := "gherkindoc build"
  usage := "gherkindoc build [OPTIONS] [GHERKIN_PATH] [OUTPUT_PATH] [EXCLUDE_PATTERNS]..."
  positionals :=
    [ { name := "GHERKIN_PATH", doc := "Directory to search for Gherkin files (overrides config)", kind := .path },
      { name := "OUTPUT_PATH", doc := "Directory to place all output (overrides config)", kind := .path },
      { name := "EXCLUDE_PATTERNS", many := true,
        doc := "Shell-style patterns to exclude: directories by full path, files by name" } ]
  options :=
    [ { long := "maxtocdepth", short := some 'd', arity := .one, valueName := "MAX_TOC_DEPTH",
        doc := "Maximum depth of the tables of contents", kind := .count },
      { long := "dry-run", short := some 'n', arity := .flag,
        doc := "Walk, parse and render without writing anything" },
      { long := "private", short := some 'P', arity := .flag,
        doc := "Include \x60_private\x60 directories" },
      { long := "toc-name", short := some 'N', arity := .one, valueName := "TOC_NAME",
        doc := "File name of the top-level table of contents (default: gherkin)" },
      { long := "doc-project", short := some 'H', arity := .one, valueName := "DOC_PROJECT",
        doc := "Project name for the glossary and tag list (default: source directory name)" },
      { long := "quiet", short := some 'q', arity := .flag, doc := "Suppress status output" },
      { long := "verbose", short := some 'v', arity := .flag, doc := "Enable verbose logging" },
      { long := "step-glossary-name", short := some 'G', arity := .one, valueName := "STEP_GLOSSARY_NAME",
        doc := "Write a step glossary under this name" },
      { long := "group-step-glossary", short := some 'T', arity := .flag,
        doc := "Group the step glossary by step type" },
      { long := "tag-list-name", arity := .one, valueName := "TAG_LIST_NAME",
        doc := "Write a tag list under this name" },
      { long := "integrate-background", arity := .flag, doc := "Fold background steps into each scenario" },
      { long := "background-step-format", arity := .one, valueName := "BACKGROUND_STEP_FORMAT",
        doc := "Format for integrated background steps, with a single \x60\x7b\x7d\x60" },
      { long := "parser", arity := .one, valueName := "PARSER", doc := "Feature parser (gherkin, pytest-bdd)" },
      { long := "url-from-tag", arity := .one, valueName := "URL_FROM_TAG",
        doc := "Resolver (declared in the config file) building URLs from tags" },
      { long := "url-from-step", arity := .one, valueName := "URL_FROM_STEP",
        doc := "Resolver (declared in the config file) building URLs from steps" },
      { long := "display-name-from-dir", arity := .one, valueName := "DISPLAY_NAME_FROM_DIR",
        doc := "Directory display-name converter (verbatim, title-case, sentence-case)" },
      { long := "raw-descriptions", arity := .flag, doc := "Treat feature and scenario descriptions as raw rST" },
      { long := "exclude-tags", arity := .many, valueName := "EXCLUDE_TAGS",
        doc := "Leave out scenarios carrying any of these tags" },
      { long := "include-tags", arity := .many, valueName := "INCLUDE_TAGS",
        doc := "Keep only scenarios carrying one of these tags" },
      { long := "config", short := some 'c', arity := .one, valueName := "CONFIG",
        doc := "Path to configuration file (default: auto-discover gherkindoc.toml)", kind := .path } ]

/-- The options of the sphinx-config command. -/
def configGrammar : Grammar where
  about := "Print a sample Sphinx configuration"
  command := "gherkindoc sphinx-config"
  usage := "gherkindoc sphinx-config [OPTIONS] <PROJECT> <AUTHOR>"
  positionals :=
    [ { name := "PROJECT", doc := "Name of the project", required := true },
      { name := "AUTHOR", doc := "Author of the project", required := true } ]
  options :=
    [ { long := "project-version", arity := .one, valueName := "PROJECT_VERSION",
        doc := "Version of the project, if any", shownDefault := some "" },
      { long := "release", arity := .one, valueName := "RELEASE",
        doc := "Release of the project, if any", shownDefault := some "" } ]

/-- The arguments of a build. -/
structure BuildRequest where
  sourceDir : Option Path := none
  outputDir : Option Path := none
  excludePatterns : List String := []
  maxTocDepth : Option Nat := none
  dryRun : Bool := false
  includePrivate : Bool := false
  tocName : Option String := none
  project : Option String := none
  quiet : Bool := false
  verbose : Bool := false
  glossaryName : Option String := none
  groupGlossary : Bool := false
  tagListName : Option String := none
  integrateBackground : Bool := false
  backgroundStepFormat : Option String := none
  parser : Option String := none
  tagUrl : Option String := none
  stepUrl : Option String := none
  displayName : Option String := none
  rawDescriptions : Bool := false
  excludeTags : List String := []
  includeTags : List String := []
  config : Option Path := none
deriving Repr

/-- The arguments of the sample configuration. -/
structure ConfigRequest where
  project : String
  author : String
  version : String := ""
  release : String := ""
deriving Repr

/-- What help is asked for: the program's, a command's, or the help command's own. -/
inductive Topic where
  | program
  | build
  | sphinxConfig
  | helpCommand
deriving DecidableEq, Repr

/-- What the command line asks for. -/
inductive Invocation where
  | build (request : BuildRequest)
  | sphinxConfig (request : ConfigRequest)
  | help (topic : Topic)
  | version
deriving Repr

/-- The build request of the arguments taken. -/
def BuildRequest.ofReader (r : Reader) : BuildRequest :=
  let opt := fun long => r.value? (.option long)
  let flag := fun long => r.has (.option long)
  { sourceDir := (r.value? (.positional 0)).map Store.Path.mk
    outputDir := (r.value? (.positional 1)).map Store.Path.mk
    excludePatterns := r.values (.positional 2)
    maxTocDepth := (opt "maxtocdepth").bind fun v => (readCount v).toOption
    dryRun := flag "dry-run"
    includePrivate := flag "private"
    tocName := opt "toc-name"
    project := opt "doc-project"
    quiet := flag "quiet"
    verbose := flag "verbose"
    glossaryName := opt "step-glossary-name"
    groupGlossary := flag "group-step-glossary"
    tagListName := opt "tag-list-name"
    integrateBackground := flag "integrate-background"
    backgroundStepFormat := opt "background-step-format"
    parser := opt "parser"
    tagUrl := opt "url-from-tag"
    stepUrl := opt "url-from-step"
    displayName := opt "display-name-from-dir"
    rawDescriptions := flag "raw-descriptions"
    excludeTags := r.values (.option "exclude-tags")
    includeTags := r.values (.option "include-tags")
    config := (opt "config").map Store.Path.mk }

/-- The sample configuration request of the arguments taken. -/
def ConfigRequest.ofReader (r : Reader) : ConfigRequest :=
  { project := (r.value? (.positional 0)).getD ""
    author := (r.value? (.positional 1)).getD ""
    version := (r.value? (.option "project-version")).getD ""
    release := (r.value? (.option "release")).getD "" }

/-- The command a word names below a help topic. -/
def Topic.sub? : Topic → String → Option Topic
  | .program, "build" => some .build
  | .program, "sphinx-config" => some .sphinxConfig
  | .program, "help" => some .helpCommand
  | _, _ => none

/-- The usage line of a help topic. -/
def Topic.usage : Topic → String
  | .program => programUsage
  | .build => buildGrammar.usage
  | .sphinxConfig => configGrammar.usage
  | .helpCommand => helpCommandUsage

/-- The topic the words after `help` name, each a command of the one before. -/
def helpTopic (t : Topic) : List String → Except UsageError Topic
  | [] => .ok t
  | w :: ws =>
    match t.sub? w with
    | some t' => helpTopic t' ws
    | none => .error (.unrecognizedSubcommand w [] t.usage (t != .helpCommand))

/-- The names of the commands. -/
def commandNames : List String := ["build", "sphinx-config", "help"]

/-- The long options of each command. -/
def commandLongs : List (String × List String) :=
  [("build", buildGrammar.options.map OptionSpec.long ++ [helpOption.long]),
    ("sphinx-config", configGrammar.options.map OptionSpec.long ++ [helpOption.long]),
    ("help", [])]

/-- For an unknown long option of the program, a like option of a command named among the
arguments that follow; of several, that of the command named first. -/
def commandFlagTip (name : String) (rest : List String) : Option String :=
  let found := commandLongs.filterMap fun (cmd, longs) =>
    match Text.closest? ⟨7, 10⟩ name longs, rest.idxOf? cmd with
    | some long, some place => some (place, cmd, long)
    | _, _ => none
  let first := found.foldl (fun best c =>
    match best with
    | some b => if c.1 < b.1 then some c else best
    | none => some c) none
  first.map fun (_, cmd, long) => "\x27" ++ cmd ++ " --" ++ long ++ "\x27 exists"

/-- The refusal of a word where a command should stand. -/
def commandRefusal (escaped : Bool) (word : String) : UsageError :=
  if escaped && commandNames.contains word then
    .unexpectedArgument word
      (some ("subcommand \x27" ++ word ++ "\x27 exists; to use it, remove the \x27--\x27 before it")) programUsage
  else .unrecognizedSubcommand word (Text.alike ⟨7, 10⟩ word commandNames) programUsage true

/-- Read a long option of the program, the text after the leading `--`. -/
def programLong (text : String) (rest : List String) : Except UsageError Invocation :=
  let name := String.ofList (text.toList.takeWhile (· != '='))
  let attached := if name.length == text.length then none
    else some (String.ofList (text.toList.drop (name.length + 1)))
  let own := fun (long : String) (result : Invocation) =>
    match attached with
    | some v => .error (.unexpectedValue v ("--" ++ long) ("gherkindoc --" ++ long ++ " <COMMAND>"))
    | none => .ok result
  if name == "help" then own "help" (.help .program)
  else if name == "version" then own "version" .version
  else
    let arg := "--" ++ name
    match Text.closest? ⟨7, 10⟩ name ["help", "version"] with
    | some long =>
      .error (.unexpectedArgument arg (some ("a similar argument exists: \x27--" ++ long ++ "\x27"))
        ("gherkindoc --" ++ long ++ " <COMMAND>"))
    | none => .error (.unexpectedArgument arg (commandFlagTip name rest) programUsage)

/-- Read a command's arguments into what it asks for; a help option asks for its help. -/
def readCommand {α : Type} (g : Grammar) (t : Topic) (args : List String) (make : Reader → α)
    (wrap : α → Invocation) : Except UsageError Invocation :=
  match readArgs g args with
  | .ok r => .ok (wrap (make r))
  | .error .helpAsked => .ok (.help t)
  | .error (.refused e) => .error e

/-- Read a command line up to its command; `escaped` tells whether `--` was met. -/
def parseFrom (escaped : Bool) : List String → Except UsageError Invocation
  | [] => .error .missingSubcommand
  | arg :: rest =>
    if escaped then .error (commandRefusal true arg)
    else if arg == "build" then readCommand buildGrammar .build rest BuildRequest.ofReader .build
    else if arg == "sphinx-config" then
      readCommand configGrammar .sphinxConfig rest ConfigRequest.ofReader .sphinxConfig
    else if arg == "help" then .help <$> helpTopic .program rest
    else if arg == "--" then parseFrom true rest
    else if arg.startsWith "--" then programLong (String.ofList (arg.toList.drop 2)) rest
    else if arg.startsWith "-" && arg != "-" then
      match arg.toList.drop 1 with
      | 'h' :: _ => .ok (.help .program)
      | 'V' :: _ => .ok .version
      | c :: _ => .error (.unexpectedArgument ("-" ++ String.singleton c) none programUsage)
      | [] => .error (commandRefusal false arg)
    else .error (commandRefusal false arg)

/-- Read a command line, without the program name. -/
def Invocation.parse (args : List String) : Except UsageError Invocation := parseFrom false args

/-- The settings a build request overrides: a flag only when it is given, a list only when it is
not empty. -/
def BuildRequest.commandLineSettings (r : BuildRequest) : CommandLineSettings :=
  let nonEmpty (xs : List String) : Option (List String) := if xs.isEmpty then none else some xs
  let given (b : Bool) : Option Bool := if b then some true else none
  { sourceDir := r.sourceDir
    outputDir := r.outputDir
    exclude := nonEmpty r.excludePatterns
    includePrivate := given r.includePrivate
    parser := r.parser
    tocName := r.tocName
    maxTocDepth := r.maxTocDepth
    project := r.project
    glossaryName := r.glossaryName
    groupGlossary := given r.groupGlossary
    tagListName := r.tagListName
    integrateBackground := given r.integrateBackground
    backgroundStepFormat := r.backgroundStepFormat
    rawDescriptions := given r.rawDescriptions
    includeTags := nonEmpty r.includeTags
    excludeTags := nonEmpty r.excludeTags
    tagUrl := r.tagUrl
    stepUrl := r.stepUrl
    displayName := r.displayName }

end FeatureDocs.Command
