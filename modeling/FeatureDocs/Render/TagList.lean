import FeatureDocs.Data.Sorted
import FeatureDocs.Markup.Document

/-!
# Tag list

Every tag seen during a run, in byte order, and the document that lists them.
-/

namespace FeatureDocs.Render

open FeatureDocs.Data FeatureDocs.Markup

/-- The tags seen, sorted, each once. -/
structure TagList where
  tags : List String := []
deriving DecidableEq, Repr, Inhabited

namespace TagList

/-- Record a tag. -/
def register (t : TagList) (tag : String) : TagList := ⟨insertBy compareText tag t.tags⟩

/-- Record the tags of another list. -/
def merge (t other : TagList) : TagList := ⟨insertAllBy compareText other.tags t.tags⟩

/-- The number of tags. -/
def size (t : TagList) : Nat := t.tags.length

/-- The tag list document, or none when no tag was recorded. -/
def render (t : TagList) (project : String) : Option Document :=
  if t.tags.isEmpty then none
  else
    let d := Document.empty.createSection 1 (project ++ " Tag List")
    some (t.tags.foldl (fun d tag => (d.add ("* " ++ tag)).blankLine) d)

end TagList

end FeatureDocs.Render
