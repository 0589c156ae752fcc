import FeatureDocs.Store.Volume
import FeatureDocs.Tree.Glob
import FeatureDocs.Feature.Dialect

/-!
# Scan and build errors

What can go wrong while scanning a source tree and while writing the documents, each with the
path it concerns and the text shown for it.
-/

namespace FeatureDocs.Tree

open FeatureDocs.Store FeatureDocs.Feature

/-- A failure to scan a source tree. -/
inductive ScanError where
  | invalidPattern (e : ExcludeError)
  | notADirectory (path : Path)
  | io (path : Path) (e : OsError)
deriving DecidableEq, Repr

/-- The text shown for a scan error. -/
def ScanError.message : ScanError → String
  | .invalidPattern e => e.message
  | .notADirectory p => "Not a directory: " ++ p.display
  | .io p e => "Cannot read " ++ p.display ++ ": " ++ e.message

/-- A failure while writing the documents. -/
inductive BuildError where
  | outputDir (path : Path) (e : OsError)
  | read (path : Path) (e : OsError)
  | write (path : Path) (e : OsError)
  | copy (source target : Path) (e : OsError)
  | parse (e : ParseError)
deriving DecidableEq, Repr

/-- The text shown for a build error. -/
def BuildError.message : BuildError → String
  | .outputDir p e => "Cannot create output directory " ++ p.display ++ ": " ++ e.message
  | .read p e => "Cannot read " ++ p.display ++ ": " ++ e.message
  | .write p e => "Cannot write " ++ p.display ++ ": " ++ e.message
  | .copy a b e => "Cannot copy " ++ a.display ++ " to " ++ b.display ++ ": " ++ e.message
  | .parse e => e.message

end FeatureDocs.Tree
