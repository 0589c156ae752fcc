import FeatureDocs.Store.Volume
import FeatureDocs.Markup.Document
import FeatureDocs.Text.Lines
import FeatureDocs.Tree.Heading
import FeatureDocs.Tree.Kind
import FeatureDocs.Tree.Naming
import FeatureDocs.Tree.Failure

/-!
# Tables of contents

Each documented directory gets a table of contents: its reStructuredText files inlined in name
order (they replace the generated heading), then a toctree that lists the other files and the
retained subdirectories by their flat names. Markdown files keep their own extension so that
the documentation tool picks the right reader.

* `displayName`: the heading of a directory, from a style, a marker file or its name;
* `TocBuilder.build`.
-/

namespace FeatureDocs.Tree

open FeatureDocs.Store FeatureDocs.Markup FeatureDocs.Data FeatureDocs.Text

/-- The marker file whose first line names its directory. -/
def displayNameFile : String := "display_name.txt"

/-- The heading of a directory: the style applied to its name when there is one, otherwise the
first line of its marker file if that is a file, otherwise its name title-cased with underscores
read as spaces. -/
def displayName (v : Volume) (dir : Path) (style : Option HeadingStyle) : Except OsError String :=
  let name := dir.fileName?.getD ""
  match style with
  | some s => .ok (s.apply name)
  | none =>
    let marker := dir.push displayNameFile
    if v.isFile marker then (v.readFile marker).map fun t => ((lines t).head?).getD ""
    else .ok (defaultHeading name)

/-- What every table of contents of a run shares. -/
structure TocBuilder where
  /-- The directory the path lists start from. -/
  rootPath : Path
  maxTocDepth : Nat
  style : Option HeadingStyle := none

/-- Names in character order. -/
def sortNames (names : List String) : List String :=
  names.mergeSort fun a b => compareText a b != .gt

/-- The table of contents of the directory at a path list, with the subdirectories and files
to list. -/
def TocBuilder.build (t : TocBuilder) (v : Volume) (pathList subdirs files : List String) :
    Except BuildError Document := do
  let dir := pathList.foldl Path.push t.rootPath
  let files := sortNames files
  let subdirs := sortNames subdirs
  let (doc, inlined) ← files.foldlM (fun (doc, inlined) file =>
    if isRstFile file then
      let source := dir.push file
      match v.readFile source with
      | .ok text => .ok (doc.addOutput text 2 0, true)
      | .error e => .error (.read source e)
    else .ok (doc, inlined)) (Document.empty, false)
  let doc ← if inlined then pure doc
    else
      match displayName v dir t.style with
      | .ok title => pure (doc.createSection 1 title)
      | .error e => .error (.read (dir.push displayNameFile) e)
  let doc := (doc.add ".. toctree::").addOutput (":maxdepth: " ++ toString t.maxTocDepth) 2 indentDepth
  let doc := (files.filter fun f => !isRstFile f).foldl (fun d file =>
    let ext := if isMarkdownFile file then none else some ""
    d.addOutput (flatName pathList (some file) false ext) 1 indentDepth) doc
  pure (subdirs.foldl (fun d sub => d.addOutput (flatName pathList (some sub) true (some "")) 1 indentDepth) doc)

end FeatureDocs.Tree
