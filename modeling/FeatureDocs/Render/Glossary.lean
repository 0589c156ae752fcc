import FeatureDocs.Data.Sorted
import FeatureDocs.Store.Path
import FeatureDocs.Markup.Escape
import FeatureDocs.Markup.Document
import FeatureDocs.Text.Case

/-!
# Step glossary

The glossary records every use of a step phrase. Uses whose phrases agree after lowercasing
share one entry, which keeps every spelling, the kind of the first step recorded with a kind,
and for each file the set of lines.

* `Glossary.addReference`, `Glossary.merge`;
* `Glossary.render`: a term list and a glossary block, most used entries first; grouped by step
  kind, `Given`, `When` and `Then` lead and the other kinds follow in byte order.
-/

namespace FeatureDocs.Render

open FeatureDocs.Data FeatureDocs.Store FeatureDocs.Markup FeatureDocs.Text

/-- The uses of one phrase, in all its spellings. -/
structure GlossaryEntry where
  /-- The spellings, sorted. -/
  names : List String
  /-- The kind of the first step recorded with a kind, or empty. -/
  stepType : String
  /-- For each file, the sorted lines; files sorted by path components. -/
  locations : List (Path × List Nat)
deriving DecidableEq, Repr, Inhabited

namespace GlossaryEntry

/-- The entry of one use. -/
def single (name stepType : String) (location : Path) (line : Nat) : GlossaryEntry :=
  ⟨[name], stepType, [(location, [line])]⟩

/-- Record one more use. -/
def addUse (e : GlossaryEntry) (name stepType : String) (location : Path) (line : Nat) :
    GlossaryEntry :=
  { names := insertBy compareText name e.names
    stepType := if e.stepType.isEmpty then stepType else e.stepType
    locations := upsertBy Path.compare location [line] (insertBy Ord.compare line) e.locations }

/-- Add the uses of another entry of the same phrase. -/
def absorb (e other : GlossaryEntry) : GlossaryEntry :=
  { names := insertAllBy compareText other.names e.names
    stepType := if e.stepType.isEmpty then other.stepType else e.stepType
    locations := other.locations.foldl
      (fun acc (loc, lines) => upsertBy Path.compare loc lines (insertAllBy Ord.compare lines) acc)
      e.locations }

/-- The number of files and the number of uses. -/
def usage (e : GlossaryEntry) : Nat × Nat :=
  (e.locations.length, e.locations.foldl (fun n l => n + l.2.length) 0)

/-- Most used first (by files, then by uses), then by spellings. -/
def displayOrder (a b : GlossaryEntry) : Ordering :=
  match Ord.compare b.usage.1 a.usage.1 with
  | .eq =>
    match Ord.compare b.usage.2 a.usage.2 with
    | .eq => compareLex compareText a.names b.names
    | o => o
  | o => o

end GlossaryEntry

/-- The glossary: entries by lowercased phrase, in key order. -/
structure Glossary where
  entries : List (String × GlossaryEntry) := []
deriving DecidableEq, Repr, Inhabited

namespace Glossary

/-- Record one use of a step phrase at a line of a file. -/
def addReference (g : Glossary) (name stepType : String) (location : Path) (line : Nat) :
    Glossary :=
  ⟨upsertBy compareText (lower name) (GlossaryEntry.single name stepType location line)
    (fun e => e.addUse name stepType location line) g.entries⟩

/-- Add every use recorded in another glossary. -/
def merge (g other : Glossary) : Glossary :=
  ⟨other.entries.foldl (fun acc (k, e) => upsertBy compareText k e (fun d => d.absorb e) acc)
    g.entries⟩

/-- The number of distinct phrases. -/
def size (g : Glossary) : Nat := g.entries.length

/-- The steps kinds that lead a grouped glossary, in order. -/
def mainStepTypes : List String := ["Given", "When", "Then"]

/-- The term list and the glossary block of some entries. -/
def renderEntries (d : Document) (entries : List GlossaryEntry) : Document :=
  let terms := entries.foldl (fun acc e => insertAllBy compareText e.names acc) []
  let d := terms.foldl (fun d t => d.add ("- :term:`" ++ escapeWithSlashes t ++ "`")) d
  let d := d.blankLine.add ".. glossary::"
  let sorted := entries.mergeSort fun a b => a.displayOrder b != .gt
  sorted.foldl (fun d e =>
    let d := e.names.foldl (fun d n => d.addOutput (escapeWithSlashes n) 1 indentDepth) d
    let d := e.locations.foldl (fun d (loc, lines) =>
      d.addOutput ("| " ++ loc.display ++ ": " ++ ", ".intercalate (lines.map toString)) 1
        (indentDepth * 2)) d
    d.blankLine) d

/-- The step kinds of the entries, each once, in byte order. -/
def stepTypes (g : Glossary) : List String :=
  g.entries.foldl (fun acc (_, e) => insertBy compareText e.stepType acc) []

/-- The entries of one step kind, in key order. -/
def entriesOfType (g : Glossary) (t : String) : List GlossaryEntry :=
  (g.entries.filter fun (_, e) => e.stepType == t).map Prod.snd

/-- The step kinds in the order of a grouped glossary. -/
def groupOrder (g : Glossary) : List String :=
  let present := g.stepTypes
  mainStepTypes.filter present.contains ++ present.filter (fun t => !mainStepTypes.contains t)

/-- The glossary document, or none when no step was recorded. -/
def render (g : Glossary) (project : String) (grouped : Bool) : Option Document :=
  if g.entries.isEmpty then none
  else
    let d := Document.empty.createSection 1 (project ++ " Glossary")
    if grouped then
      some (g.groupOrder.foldl (fun d t => renderEntries (d.createSection 2 t) (g.entriesOfType t)) d)
    else some (renderEntries d (g.entries.map Prod.snd))

end Glossary

end FeatureDocs.Render
