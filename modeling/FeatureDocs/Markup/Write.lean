import FeatureDocs.Markup.Document
import FeatureDocs.Store.Volume

/-!
# Writing documents

A document is written to a file only when the file does not already hold its text, so that
unchanged documents keep their files untouched.
-/

namespace FeatureDocs.Markup

open FeatureDocs.Store

/-- What writing a document did. -/
inductive WriteOutcome where
  /-- The file was created or its text replaced. -/
  | written
  /-- The file already held the text. -/
  | unchanged
deriving DecidableEq, Repr

/-- Write the document's text to a path unless the file there already holds it. -/
def Document.writeTo (d : Document) (v : Volume) (p : Path) : Except OsError (WriteOutcome × Volume) :=
  match v.readFile p with
  | .ok existing => if existing == d.text then .ok (.unchanged, v) else (v.writeFile p d.text).map (.written, ·)
  | .error _ => (v.writeFile p d.text).map (.written, ·)

end FeatureDocs.Markup
