import FeatureDocs.Store.Path
import FeatureDocs.Data.Sorted

/-!
# Volumes

A volume is a file system held as a value: each entry is a directory, a file with its text, or
a symbolic link with its target, keyed by its physical location (the names from the root). The
root is always a directory. Operations follow the rules of a Linux file system:

* a path is walked from the root or from the working directory; `..` goes to the physical
  parent; a link met on the way is replaced by its target (read from the link's directory),
  and more than forty links in one walk is an error;
* a final link is followed unless the operation says otherwise; a trailing separator asks for a
  directory;
* writing creates or truncates a file (also through a dangling link), making a directory makes
  exactly one, and making a whole tree makes the missing ancestors first.

Errors are the operating system's, with its texts.
-/

namespace FeatureDocs.Store

open FeatureDocs.Data

/-- An error of a file system operation. -/
inductive OsError where
  | notFound
  | notADirectory
  | isADirectory
  | alreadyExists
  | tooManyLinks
  /-- An operation refused before reaching the file system, with its message. -/
  | invalid (msg : String)
deriving DecidableEq, Repr, Inhabited

/-- The text of the error. -/
def OsError.message : OsError → String
  | .notFound => "No such file or directory (os error 2)"
  | .notADirectory => "Not a directory (os error 20)"
  | .isADirectory => "Is a directory (os error 21)"
  | .alreadyExists => "File exists (os error 17)"
  | .tooManyLinks => "Too many levels of symbolic links (os error 40)"
  | .invalid msg => msg

/-- What a location holds. -/
inductive Node where
  | dir
  | file (text : String)
  | link (target : String)
deriving DecidableEq, Repr, Inhabited

/-- A physical location: the names from the root. -/
abbrev Location := List String

/-- The text of a location as an absolute path. -/
def Location.path (l : Location) : Path := ⟨"/" ++ "/".intercalate l⟩

/-- A file system as a value. -/
structure Volume where
  /-- Every entry but the root, by location. -/
  entries : List (Location × Node) := []
  /-- The working directory, against which relative paths are read. -/
  cwd : Location := []
deriving Repr, Inhabited

/-- Where a walk ends: at an entry, or at a missing name in an existing directory. -/
inductive Found where
  | entry (place : Location) (node : Node)
  | missing (place : Location)
deriving DecidableEq, Repr

/-- The most links one walk may follow. -/
def linkBudget : Nat := 40

/-- The steps of a path after its root: names and `..`, with `.` and empty pieces dropped, except
that a path ending in a separator or in `.` keeps a final `.`, which asks for a directory. -/
def walkSteps (text : String) : List String :=
  let pieces := (Path.mk text).pieces.drop (if (Path.mk text).isAbsolute then 1 else 0)
  let steps := pieces.filter fun s => s != "" && s != "."
  match pieces.getLast? with
  | some last => if (last == "" || last == ".") && !steps.isEmpty then steps ++ ["."] else steps
  | none => steps

namespace Volume

/-- The node at a location, without following links. -/
def lookup (v : Volume) (l : Location) : Option Node :=
  if l.isEmpty then some .dir else v.entries.lookup l

/-- Walk the steps from the directory `cur`; a final link is followed when `follow` is set. A
link met on the way is handed to `next` with the place to read its target from, or is one link
too many when there is no `next`. -/
def walkWith (v : Volume) (follow : Bool)
    (next : Option (Location → List String → Except OsError Found)) :
    Location → List String → Except OsError Found
  | cur, [] => .ok (.entry cur .dir)
  | cur, "." :: rest => v.walkWith follow next cur rest
  | cur, ".." :: rest => v.walkWith follow next cur.dropLast rest
  | cur, name :: rest =>
    let here := cur ++ [name]
    match v.lookup here with
    | none => if rest.isEmpty then .ok (.missing here) else .error .notFound
    | some .dir => v.walkWith follow next here rest
    | some (.file t) => if rest.isEmpty then .ok (.entry here (.file t)) else .error .notADirectory
    | some (.link target) =>
      if rest.isEmpty && !follow then .ok (.entry here (.link target))
      else
        match next with
        | none => .error .tooManyLinks
        | some go => go (if target.startsWith "/" then [] else cur) (walkSteps target ++ rest)

/-- Walk the steps from the directory `cur`, following at most `budget` links; a final link is
followed when `follow` is set. -/
def walk (v : Volume) (follow : Bool) : Nat → Location → List String → Except OsError Found
  | 0 => v.walkWith follow none
  | b + 1 => v.walkWith follow (some (v.walk follow b))

/-- Where a path leads; the empty path leads nowhere. -/
def resolve (v : Volume) (p : Path) (follow : Bool) : Except OsError Found :=
  if p.text.isEmpty then .error .notFound
  else v.walk follow linkBudget (if p.isAbsolute then [] else v.cwd) (walkSteps p.text)

/-- The entry a path names, links followed. -/
def metadata (v : Volume) (p : Path) : Except OsError Node :=
  match v.resolve p true with
  | .ok (.entry _ n) => .ok n
  | .ok (.missing _) => .error .notFound
  | .error e => .error e

/-- The entry a path names, a final link not followed. -/
def linkMetadata (v : Volume) (p : Path) : Except OsError Node :=
  match v.resolve p false with
  | .ok (.entry _ n) => .ok n
  | .ok (.missing _) => .error .notFound
  | .error e => .error e

/-- The path names a directory (links followed). -/
def isDir (v : Volume) (p : Path) : Bool :=
  match v.metadata p with
  | .ok .dir => true
  | _ => false

/-- The path names a file (links followed). -/
def isFile (v : Volume) (p : Path) : Bool :=
  match v.metadata p with
  | .ok (.file _) => true
  | _ => false

/-- The path names something (links followed). -/
def pathExists (v : Volume) (p : Path) : Bool := (v.metadata p).toOption.isSome

/-- The text of a file. -/
def readFile (v : Volume) (p : Path) : Except OsError String :=
  match v.metadata p with
  | .ok (.file t) => .ok t
  | .ok _ => .error .isADirectory
  | .error e => .error e

/-- Put a node at a location, replacing what was there. -/
def set (v : Volume) (l : Location) (n : Node) : Volume :=
  { v with entries := (l, n) :: v.entries.filter fun e => e.1 != l }

/-- Write a file: create it or replace its text. -/
def writeFile (v : Volume) (p : Path) (text : String) : Except OsError Volume :=
  match v.resolve p true with
  | .ok (.entry l (.file _)) => .ok (v.set l (.file text))
  | .ok (.entry _ _) => .error .isADirectory
  | .ok (.missing l) =>
    if (walkSteps p.text).getLast? == some "." then .error .isADirectory
    else .ok (v.set l (.file text))
  | .error e => .error e

/-- Make one directory; its parent must exist and the name must be free. -/
def makeDir (v : Volume) (p : Path) : Except OsError Volume :=
  if p.text.isEmpty then .error .notFound
  else
    let steps := (walkSteps p.text).reverse.dropWhile (· == ".") |>.reverse
    match v.walk false linkBudget (if p.isAbsolute then [] else v.cwd) steps with
    | .ok (.entry _ _) => .error .alreadyExists
    | .ok (.missing l) => .ok (v.set l .dir)
    | .error e => .error e

/-- Make a symbolic link with the given target; the name must be free. -/
def makeLink (v : Volume) (p : Path) (target : String) : Except OsError Volume :=
  match v.resolve p false with
  | .ok (.entry _ _) => .error .alreadyExists
  | .ok (.missing l) => .ok (v.set l (.link target))
  | .error e => .error e

/-- Make a directory and its missing ancestors; an existing directory is fine. `fuel` bounds the
depth of ancestors tried. -/
def makeDirsFrom (v : Volume) : Nat → Path → Except OsError Volume
  | 0, _ => .error (.invalid "failed to create whole tree")
  | fuel + 1, p =>
    if p.text.isEmpty then .ok v
    else
      match v.makeDir p with
      | .ok v' => .ok v'
      | .error .notFound =>
        match p.parent? with
        | none => .error (.invalid "failed to create whole tree")
        | some q =>
          match v.makeDirsFrom fuel q with
          | .error e => .error e
          | .ok v' =>
            match v'.makeDir p with
            | .ok v'' => .ok v''
            | .error e => if v'.isDir p then .ok v' else .error e
      | .error e => if v.isDir p then .ok v else .error e

/-- Make a directory and its missing ancestors. -/
def makeDirs (v : Volume) (p : Path) : Except OsError Volume :=
  v.makeDirsFrom (p.components.length + 1) p

/-- Copy a file's text to another path, which is created or replaced. -/
def copyFile (v : Volume) (src dst : Path) : Except OsError Volume :=
  match v.metadata src with
  | .ok (.file t) => v.writeFile dst t
  | .ok _ => .error (.invalid "the source path is neither a regular file nor a symlink to a regular file")
  | .error e => .error e

/-- The entries directly inside a location, by name in character order. -/
def children (v : Volume) (l : Location) : List (String × Node) :=
  let direct := v.entries.filterMap fun (k, n) =>
    if k.dropLast == l && k.length == l.length + 1 then k.getLast?.map fun name => (name, n) else none
  direct.mergeSort fun a b => compareText a.1 b.1 != .gt

/-- The entries of a directory, by name; links in it are not followed. -/
def readDir (v : Volume) (p : Path) : Except OsError (Location × List (String × Node)) :=
  match v.resolve p true with
  | .ok (.entry l .dir) => .ok (l, v.children l)
  | .ok (.entry _ _) => .error .notADirectory
  | .ok (.missing _) => .error .notFound
  | .error e => .error e

/-- Remove what a path names, with everything below it when it is a directory. -/
def remove (v : Volume) (p : Path) : Except OsError Volume :=
  match v.resolve p false with
  | .ok (.entry l _) =>
    if l.isEmpty then .error (.invalid "cannot remove the root")
    else .ok { v with entries := v.entries.filter fun e => !l.isPrefixOf e.1 }
  | .ok (.missing _) => .error .notFound
  | .error e => .error e

/-- Everything below a location, each with its path relative to it and its node, directories
before their contents and names in character order. `fuel` bounds the depth. -/
def treeFrom (v : Volume) : Nat → Location → String → List (String × Node)
  | 0, _, _ => []
  | fuel + 1, l, pre =>
    (v.children l).flatMap fun (name, n) =>
      match n with
      | .dir => (pre ++ name ++ "/", n) :: v.treeFrom fuel (l ++ [name]) (pre ++ name ++ "/")
      | _ => [(pre ++ name, n)]

/-- Everything below a location. -/
def tree (v : Volume) (l : Location) : List (String × Node) := v.treeFrom (v.entries.length + 1) l ""

end Volume

end FeatureDocs.Store
