import FeatureDocs.Gherkin.Languages
import FeatureDocs.Gherkin.Syntax
import FeatureDocs.Text.Blank
import FeatureDocs.Text.Dedent

/-!
# Reading a feature file

A parsing-expression grammar over the characters of the file: every rule either consumes a
prefix of what is left or fails, alternatives are tried in order, and a failed alternative
gives its input back. Two faults end the whole reading at once: an unknown language, and a
table whose rows have different numbers of cells.

The layout rules:

* a line break is an optional carriage return and a line feed, and takes the comment lines
  that follow it;
* a comment is a line whose first non-blank character is `#`; after a tag line it may also
  follow the tags;
* after a title or a step, the line break, blank lines, comments and the next line's
  indentation are skipped (or the file ends there);
* a keyword is read when the text starts with one of the words of its list, the first such
  word in list order being the one read; a step keyword ends with its own space (or an
  apostrophe), and more spaces or tabs may follow it;
* a description is the lines after a title up to a line that starts with `@` or with a keyword
  that may follow it;
* a doc string is enclosed in three double quotes or three backticks;
* a table row is cells between `|` characters, each trimmed; a backslash does not escape `|`.

The file is a feature: tags, its title, a description, a background, scenarios and rules, and
nothing after them.
-/

namespace FeatureDocs.Gherkin

open FeatureDocs.Text

/-- Why a reading stopped: the rule did not match here, or the whole file is refused. -/
inductive Stop where
  | fail
  | fatal
deriving DecidableEq, Repr

/-- The position of a reading: the text left, the current line, and the kind of the last step
read, which `And` and `But` steps take. -/
structure Cursor where
  rest : List Char
  line : Nat
  lastStep : Option StepKind
deriving Repr

/-- A rule of the grammar. -/
abbrev Reader := StateT Cursor (Except Stop)

/-! ## The blank and comment layer -/

/-- The text after a line break at its start. -/
def newline? : List Char → Option (List Char)
  | '\r' :: '\n' :: r => some r
  | '\n' :: r => some r
  | _ => none

/-- The text from the next line break on (or nothing). -/
def toLineEnd : List Char → List Char
  | [] => []
  | c :: r => if (newline? (c :: r)).isSome then c :: r else toLineEnd r

/-- The text after leading spaces and tabs. -/
def dropSpaces (cs : List Char) : List Char := cs.dropWhile fun c => c == ' ' || c == '\t'

mutual
/-- A comment line: spaces, `#`, the rest of the line, and the blanks after it. -/
def comment? : Nat → List Char → Option (List Char)
  | 0, _ => none
  | fuel + 1, cs =>
    match dropSpaces cs with
    | '#' :: r => lineGap? fuel (toLineEnd r)
    | _ => none

/-- Any number of comment lines. -/
def comments : Nat → List Char → List Char
  | 0, cs => cs
  | fuel + 1, cs =>
    match comment? fuel cs with
    | some r => if r.length < cs.length then comments fuel r else cs
    | none => cs

/-- A line break and the comment lines after it. -/
def lineBreak? : Nat → List Char → Option (List Char)
  | 0, _ => none
  | fuel + 1, cs => (newline? cs).map (comments fuel)

/-- Line breaks, spaces and tabs, as many as there are. -/
def blanks : Nat → List Char → List Char
  | 0, cs => cs
  | fuel + 1, cs =>
    match lineBreak? fuel cs with
    | some r => blanks fuel r
    | none =>
      match cs with
      | ' ' :: r | '\t' :: r => blanks fuel r
      | _ => cs

/-- The end of a line: at least one line break, space or tab, or the end of the file. -/
def lineGap? : Nat → List Char → Option (List Char)
  | 0, _ => none
  | fuel + 1, cs =>
    if cs.isEmpty then some []
    else
      let r := blanks fuel cs
      if r.length < cs.length then some r else none
end

/-- Enough fuel for the blank layer on a text. -/
def fuelFor (cs : List Char) : Nat := 8 * cs.length + 8

/-! ## Combinators -/

namespace Reader

/-- Fail here. -/
def fail {α : Type} : Reader α := throw .fail

/-- Refuse the whole file. -/
def fatal {α : Type} : Reader α := throw .fatal

/-- Move to the text a function leaves, counting the line breaks passed. -/
def move (f : List Char → Option (List Char)) : Reader Unit := do
  let s ← get
  match f s.rest with
  | none => fail
  | some r =>
    let passed := s.rest.take (s.rest.length - r.length)
    set { s with rest := r, line := s.line + passed.count '\n' }

/-- Read a value off the front of the text. -/
def take {α : Type} (f : List Char → Option (α × List Char)) : Reader α := do
  let s ← get
  match f s.rest with
  | none => fail
  | some (a, r) =>
    let passed := s.rest.take (s.rest.length - r.length)
    set { s with rest := r, line := s.line + passed.count '\n' }
    pure a

/-- The first alternative that matches; a refusal is not caught. -/
def orElse {α : Type} (p q : Reader α) : Reader α := fun s =>
  match p s with
  | .error .fail => q s
  | r => r

/-- The value of a rule, or none when it does not match. -/
def opt {α : Type} (p : Reader α) : Reader (Option α) := orElse (some <$> p) (pure none)

/-- Succeed, consuming nothing, when the rule does not match here. -/
def notAhead {α : Type} (p : Reader α) : Reader Unit := fun s =>
  match p s with
  | .ok _ => .error .fail
  | .error .fail => .ok ((), s)
  | .error .fatal => .error .fatal

/-- Repeat a rule while it matches and consumes, at most `fuel` times. -/
def manyFrom {α : Type} (p : Reader α) : Nat → List α → Reader (List α)
  | 0, acc => pure acc.reverse
  | fuel + 1, acc => fun s =>
    match p s with
    | .ok (a, s') =>
      if s'.rest.length < s.rest.length then manyFrom p fuel (a :: acc) s'
      else .ok ((a :: acc).reverse, s')
    | .error .fail => .ok (acc.reverse, s)
    | .error .fatal => .error .fatal

/-- Repeat a rule while it matches. -/
def many {α : Type} (p : Reader α) : Reader (List α) := do
  let s ← get
  manyFrom p (s.rest.length + 1) []

/-- Zero or more matches of a rule, separated by another. -/
def sepBy {α β : Type} (p : Reader α) (sep : Reader β) : Reader (List α) := do
  match ← opt p with
  | none => pure []
  | some a => return a :: (← many (do let _ ← sep; p))

/-- The first alternative of a list that matches. -/
def firstOf {α : Type} : List (Reader α) → Reader α
  | [] => fail
  | p :: ps => orElse p (firstOf ps)

end Reader

open Reader

/-- Spaces and tabs. -/
def spaces : Reader Unit := move fun cs => some (dropSpaces cs)

/-- At least one space or tab. -/
def spaces1 : Reader Unit := move fun cs => let r := dropSpaces cs; if r.length < cs.length then some r else none

/-- A fixed text. -/
def lit (t : String) : Reader Unit := move fun cs => if t.toList.isPrefixOf cs then some (cs.drop t.length) else none

/-- The end of the file. -/
def eof : Reader Unit := move fun cs => if cs.isEmpty then some [] else none

/-- A line break with the comments after it. -/
def nl : Reader Unit := move fun cs => lineBreak? (fuelFor cs) cs

/-- Comment lines. -/
def skipComments : Reader Unit := move fun cs => some (comments (fuelFor cs) cs)

/-- One comment. -/
def comment : Reader Unit := move fun cs => comment? (fuelFor cs) cs

/-- The end of a line, with the blanks after it. -/
def lineEnd : Reader Unit := move fun cs => lineGap? (fuelFor cs) cs

/-- The rest of the line, at least one character. -/
def restOfLine : Reader String := take fun cs =>
  let r := toLineEnd cs
  if r.length < cs.length then some (String.ofList (cs.take (cs.length - r.length)), r) else none

/-- The rest of the line, possibly empty. -/
def restOfLineOrEmpty : Reader String := do return (← opt restOfLine).getD ""

/-- The current line number. -/
def here : Reader Nat := do return (← get).line

/-- A keyword of the list, after any comment lines: the first word the text starts with. -/
def keyword (words : List String) : Reader String := do
  skipComments
  let s ← get
  match words.find? fun w => w.toList.isPrefixOf s.rest with
  | some w => do lit w; pure w
  | none => fail

/-- A tag: `@` and the non-blank characters after it. -/
def tag : Reader String := do
  lit "@"
  take fun cs =>
    let t := cs.takeWhile fun c => !isBlank c
    if t.isEmpty then none else some (String.ofList t, cs.drop t.length)

/-- A line of tags, ended by a comment or a line break. -/
def tagLine : Reader (List String) := do
  spaces
  let first ← tag
  let more ← many (do spaces1; tag)
  spaces
  orElse comment (orElse nl eof)
  pure (first :: more)

/-- Lines of tags. -/
def tags : Reader (List String) := do return (← many tagLine).flatten

/-- A doc string between delimiters, freed of its shared indentation. -/
def delimited (d : String) : Reader String := do
  lit d
  let body ← take fun cs =>
    let rec scan : List Char → List Char → Option (List Char × List Char)
      | [], _ => none
      | c :: r, acc => if d.toList.isPrefixOf (c :: r) then some (acc.reverse, c :: r) else scan r (c :: acc)
    scan cs []
  lit d
  lineEnd
  pure (dedent (String.ofList body))

/-- A doc string. -/
def docstring : Reader String := orElse (delimited "\"\"\"") (delimited "```")

/-- A table cell: `|`, then the text up to the next `|`, unless the line ends first. -/
def cell : Reader String := do
  lit "|"
  spaces
  let s ← get
  if s.rest.isEmpty || (newline? s.rest).isSome then fail
  else take fun cs => let t := cs.takeWhile (· != '|'); some (String.ofList t, cs.drop t.length)

/-- A table row: its cells, trimmed, and the closing `|`. -/
def row : Reader (List String) := do
  let cells ← sepBy cell spaces
  spaces
  lit "|"
  spaces
  lineEnd
  pure (cells.map trimBlank)

/-- A table; rows of different widths refuse the file. -/
def table : Reader (List (List String)) := do
  spaces
  let first ← row
  let rows := first :: (← many (do spaces; row))
  if rows.all fun r => r.length == first.length then pure rows else fatal

/-- A description: lines up to one that starts with `@` or with one of the given keywords. -/
def description (stops : List String) : Reader (Option String) := do
  let line : Reader String := do
    spaces
    notAhead (lit "@")
    notAhead (keyword stops)
    spaces
    restOfLineOrEmpty
  let ls ← sepBy line nl
  let d := "\n".intercalate ls
  pure (if (trimBlank d).isEmpty then none else some d)

variable (k : Keywords)

/-- A step of the given words; `kind` is the kind it has, none for a step that takes the kind of
the step before it. -/
def stepOf (words : List String) (kind : Option StepKind) : Reader StepNode := do
  skipComments
  spaces
  let line ← here
  let kw ← keyword words
  spaces
  let value ← restOfLine
  spaces
  lineEnd
  spaces
  let doc ← opt docstring
  let tbl ← opt table
  let s ← get
  let kind ← match kind, s.lastStep with
    | some k, _ => pure k
    | none, some k => pure k
    | none, none => fail
  modify fun s => { s with lastStep := some kind }
  pure ⟨kw, kind, value, doc, tbl, line⟩

/-- A step of any kind. -/
def step : Reader StepNode :=
  firstOf [stepOf k.givenWords (some .given), stepOf k.whenWords (some .when),
    stepOf k.thenWords (some .then), stepOf k.andWords none, stepOf k.butWords none]

/-- Steps, one after another. -/
def steps : Reader (List StepNode) := sepBy (step k) spaces

/-- A title line after a keyword: `:`, the name, and the end of the line. -/
def title : Reader String := do
  lit ":"
  spaces
  let name ← restOfLineOrEmpty
  spaces
  lineEnd
  pure name

/-- An examples table. -/
def examples : Reader ExamplesNode := do
  skipComments
  spaces
  let tg ← tags
  spaces
  let line ← here
  let kw ← keyword k.examples
  let name ← title
  let rows ← table
  pure ⟨kw, name, tg, rows, line⟩

/-- A background. -/
def background : Reader BackgroundNode := do
  skipComments
  spaces
  let line ← here
  let kw ← keyword k.background
  let name ← title
  let desc ← opt (description k.endBackgroundText)
  let _ ← many nl
  let ss ← opt (steps k)
  pure ⟨kw, name, desc.join, ss.getD [], line⟩

/-- A scenario introduced by one of the given words. -/
def scenarioOf (words : List String) : Reader ScenarioNode := do
  skipComments
  spaces
  let tg ← tags
  spaces
  let line ← here
  let kw ← keyword words
  let name ← title
  let desc ← opt (description k.endScenarioText)
  let _ ← many nl
  let ss ← opt (steps k)
  let exs ← many (examples k)
  pure ⟨kw, name, desc.join, tg, ss.getD [], exs, line⟩

/-- A scenario or an outline. -/
def scenario : Reader ScenarioNode := orElse (scenarioOf k k.scenario) (scenarioOf k k.scenarioOutline)

/-- A rule with its background and scenarios. -/
def rule : Reader RuleNode := do
  skipComments
  spaces
  let tg ← tags
  spaces
  let line ← here
  let kw ← keyword k.rule
  let name ← title
  let desc ← opt (description k.endRuleText)
  let _ ← many nl
  let bg ← opt (background k)
  let _ ← many nl
  let scs ← many (scenario k)
  let _ ← many nl
  pure ⟨kw, name, desc.join, tg, bg, scs, line⟩

/-- A whole feature file, nothing left after it. -/
def feature : Reader FeatureNode := do
  spaces
  let _ ← many nl
  skipComments
  spaces
  let tg ← tags
  spaces
  let line ← here
  let kw ← keyword k.feature
  let name ← title
  let desc ← opt (description k.endFeatureText)
  let _ ← many nl
  let bg ← opt (background k)
  let _ ← many nl
  let scs ← many (scenario k)
  let _ ← many nl
  let rules ← many (rule k)
  let _ ← many nl
  eof
  pure ⟨kw, name, desc.join, tg, bg, scs, rules, line⟩

/-- A first line naming the language, and the text after it. -/
def languageLine (cs : List Char) : Option (String × List Char) :=
  let lead := "# language: ".toList
  if lead.isPrefixOf cs then
    let r := cs.drop lead.length
    let rest := toLineEnd r
    if rest.length < r.length then
      (lineBreak? (fuelFor rest) rest).map fun after => (String.ofList (r.take (r.length - rest.length)), after)
    else none
  else none

/-- Read a feature file. -/
def parseFeature (text : String) : Except Stop FeatureNode :=
  let cs := text.toList
  match languageLine cs with
  | some (lang, rest) =>
    match keywordsOf? lang with
    | some kws =>
      let passed := cs.take (cs.length - rest.length)
      (feature kws).run' ⟨rest, 1 + passed.count '\n', none⟩
    | none => .error .fatal
  | none => (feature english).run' ⟨cs, 1, none⟩

end FeatureDocs.Gherkin
