/-!
# Output names

Every output document lives in one flat directory, so its name spells the whole source path:
the path segments joined by dots, then a marker that tells a table of contents (`-toc`) from a
file (`-file`), then an extension.

* `flatName`;
* `outputExtension`: the extension of generated documents.
-/

namespace FeatureDocs.Tree

/-- The extension of every generated document. -/
def outputExtension : String := ".rst"

/-- The flat name of a path: the segments of `pathList` and then `leaf`, if any, joined by
dots; with an extension, a `-toc` or `-file` marker and the extension follow. -/
def flatName (pathList : List String) (leaf : Option String) (isDir : Bool)
    (ext : Option String) : String :=
  let name := ".".intercalate (pathList ++ leaf.toList)
  match ext with
  | none => name
  | some e => name ++ (if isDir then "-toc" else "-file") ++ e

end FeatureDocs.Tree
