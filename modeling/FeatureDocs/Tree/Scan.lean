import FeatureDocs.Store.Volume
import FeatureDocs.Tree.Glob
import FeatureDocs.Tree.Kind
import FeatureDocs.Tree.Failure

/-!
# Scanning a source tree

The scan walks the source directory top down and records every directory worth documenting:
its visible subdirectories (private ones, starting with `_`, only on request) and its source
files, both sorted. Hidden names (starting with `.`) are skipped, excluded directories are not
entered, excluded file names are left out, and links to directories are not followed.

The directories are listed parent first, so taking them from the end visits every directory
after all of its subdirectories.

* `DirEntry`, `WorkList`, `Scanner.scan`.
-/

namespace FeatureDocs.Tree

open FeatureDocs.Store

/-- One directory found by a scan. -/
structure DirEntry where
  absolutePath : Path
  /-- The names from the scanned root's parent down to this directory. -/
  pathList : List String
  subDirectories : List String
  files : List String
deriving DecidableEq, Repr, Inhabited

/-- The directories of a scan, parents before their subdirectories. -/
structure WorkList where
  /-- The parent of the scanned root; path lists start below it. -/
  rootPath : Path
  entries : List DirEntry
deriving DecidableEq, Repr

/-- What a scan leaves out. -/
structure Scanner where
  includePrivate : Bool := false
  exclude : ExcludePatterns := {}

namespace Scanner

/-- The subdirectories and source files of a directory's entries, in name order. -/
def sortEntries (s : Scanner) (v : Volume) (dir : Path) (kids : List (String × Node)) :
    List String × List String :=
  kids.foldr (fun (name, node) (subs, files) =>
    if isHidden name then (subs, files)
    else if node == .dir then
      if s.includePrivate || !isPrivate name then (name :: subs, files) else (subs, files)
    else if v.isFile (dir.push name) && isSourceFile name && !s.exclude.matches name then
      (subs, name :: files)
    else (subs, files)) ([], [])

/-- Scan a directory and, after it, each of its subdirectories; `fuel` bounds the depth. An
excluded or unreadable directory is left out with everything below it. -/
def scanDir (s : Scanner) (v : Volume) : Nat → Path → List String → List DirEntry → List DirEntry
  | 0, _, _, acc => acc
  | fuel + 1, dir, pathList, acc =>
    if s.exclude.matches dir.text then acc
    else
      match v.readDir dir with
      | .error _ => acc
      | .ok (_, kids) =>
        let (subs, files) := s.sortEntries v dir kids
        let acc := acc ++ [⟨dir, pathList, subs, files⟩]
        subs.foldl (fun acc sub => s.scanDir v fuel (dir.push sub) (pathList ++ [sub]) acc) acc

/-- Scan a source directory, read against the volume's working directory and folded. -/
def scan (s : Scanner) (v : Volume) (root : Path) : Except ScanError WorkList :=
  match Path.absoluteNames v.cwd root with
  | .error msg => .error (.io root (.invalid msg))
  | .ok names =>
    let top := Location.path names
    match v.metadata top with
    | .error e => .error (.io root e)
    | .ok .dir =>
      match v.readDir top with
      | .error e => .error (.io top e)
      | .ok _ =>
        let rootPath := (top.parent?).getD top
        .ok ⟨rootPath, s.scanDir v (v.entries.length + 1) top [(top.fileName?).getD ""] []⟩
    | .ok _ => .error (.notADirectory top)

end Scanner

end FeatureDocs.Tree
