import FeatureDocs.Data.Sorted

/-!
# Paths

A path is kept as written; its components are read off the text. A leading `/` is the root,
a leading `.` stays as the current directory, other `.` pieces and empty pieces (repeated or
trailing separators) are dropped, and `..` is kept. Paths compare by their components, and a
path is shown as written.

* `Component`, `Path.components`, `Path.fileName?`, `Path.parent?`;
* `Path.join`: a relative path is appended with one separator, an absolute one replaces;
* `Path.stripPrefix?`: the text after a prefix of components, with leading and trailing
  separators and `.` pieces removed;
* `Path.absoluteNames`: a path made absolute and folded without looking at the file system.
-/

namespace FeatureDocs.Store

open FeatureDocs.Data

/-- One component of a path. The order of the constructors is the order of components. -/
inductive Component where
  | root
  | current
  | parent
  | normal (name : String)
deriving DecidableEq, Repr, Inhabited

/-- The rank of a component kind in the order of components. -/
def Component.rank : Component → Nat
  | .root => 0
  | .current => 1
  | .parent => 2
  | .normal _ => 3

/-- Components in order: the root, the current directory, the parent, then names in the order
of their characters. -/
def Component.compare (a b : Component) : Ordering :=
  match a, b with
  | .normal x, .normal y => compareText x y
  | _, _ => Ord.compare a.rank b.rank

/-- Component lists compared lexicographically: a proper prefix comes first. -/
def compareComponents (a b : List Component) : Ordering := compareLex Component.compare a b

/-- A path, as written. -/
structure Path where
  text : String
deriving DecidableEq, Repr, Inhabited

namespace Path

/-- The pieces of the text between separators. -/
def pieces (p : Path) : List String := (p.text.toList.splitOn '/').map String.ofList

/-- The path starts at the root. -/
def isAbsolute (p : Path) : Bool := p.text.toList.head? == some '/'

/-- The component of a piece in the body of a path, if it has one. -/
def pieceComponent (s : String) : Option Component :=
  if s = "" ∨ s = "." then none else if s = ".." then some .parent else some (.normal s)

/-- The leading pieces that are not part of the body: the empty piece before a root, or a
leading `.` of a relative path. -/
def headComponent (p : Path) : Option Component :=
  match p.pieces with
  | "" :: _ :: _ => some .root
  | "." :: _ => some .current
  | _ => none

/-- The pieces after the root or the leading current directory. -/
def bodyPieces (p : Path) : List String :=
  match p.headComponent with
  | some _ => p.pieces.drop 1
  | none => p.pieces

/-- The components of the path. -/
def components (p : Path) : List Component :=
  p.headComponent.toList ++ p.bodyPieces.filterMap pieceComponent

/-- The last component, when it is a name. -/
def fileName? (p : Path) : Option String :=
  match p.components.getLast? with
  | some (.normal n) => some n
  | _ => none

/-- The pieces without the trailing ones that hold no component. -/
def dropEmptyEnd (ps : List String) : List String :=
  (ps.reverse.dropWhile fun s => (pieceComponent s).isNone).reverse

/-- The pieces without the leading ones that hold no component. -/
def dropEmptyStart (ps : List String) : List String :=
  ps.dropWhile fun s => (pieceComponent s).isNone

/-- The text of a head and body pieces. -/
def ofParts (head : Option Component) (body : List String) : Path :=
  match head with
  | some .root => ⟨"/" ++ "/".intercalate body⟩
  | some .current => ⟨"/".intercalate ("." :: body)⟩
  | _ => ⟨"/".intercalate body⟩

/-- The path without its last component; none for the root and the empty path. -/
def parent? (p : Path) : Option Path :=
  let body := dropEmptyEnd p.bodyPieces
  match body.getLast? with
  | some _ => some (ofParts p.headComponent (dropEmptyEnd body.dropLast))
  | none =>
    match p.headComponent with
    | some .current => some ⟨""⟩
    | _ => none

/-- Append a path: an absolute path replaces the base, and a separator is put between them
unless the base is empty or already ends with one. -/
def join (base p : Path) : Path :=
  if p.isAbsolute then p
  else if base.text.isEmpty || base.text.toList.getLast? == some '/' then ⟨base.text ++ p.text⟩
  else ⟨base.text ++ "/" ++ p.text⟩

/-- Append a name. -/
def push (base : Path) (name : String) : Path := base.join ⟨name⟩

/-- The body pieces paired with their components, the empty ones with none. -/
def bodyParts (p : Path) : List (String × Option Component) :=
  p.bodyPieces.map fun s => (s, pieceComponent s)

/-- Consume the given components from the front of the body parts, returning what is left. -/
def consume : List Component → List (String × Option Component) →
    Option (List (String × Option Component))
  | [], rest => some rest
  | _ :: _, [] => none
  | c :: cs, (_, none) :: rest => consume (c :: cs) rest
  | c :: cs, (_, some d) :: rest => if c = d then consume cs rest else none

/-- The path relative to a prefix of its components, shown with the text that follows the
prefix; none when the components of `base` do not begin those of `p`. -/
def stripPrefix? (p base : Path) : Option Path :=
  match p.headComponent, base.components with
  | h, b :: bs =>
    if h = some b then
      (consume bs p.bodyParts).map fun rest =>
        ⟨"/".intercalate (dropEmptyEnd (dropEmptyStart (rest.map Prod.fst)))⟩
    else if h.isNone then
      (consume (b :: bs) p.bodyParts).map fun rest =>
        ⟨"/".intercalate (dropEmptyEnd (dropEmptyStart (rest.map Prod.fst)))⟩
    else none
  | _, [] => some (ofParts p.headComponent (dropEmptyEnd p.bodyPieces))

/-- The names of a path made absolute against a working directory (given by its names) and
folded: `.` is dropped and `..` removes the name before it, without looking at the file system.
The empty path cannot be made absolute. -/
def absoluteNames (cwd : List String) (p : Path) : Except String (List String) :=
  if p.text.isEmpty then .error "cannot make an empty path absolute"
  else
    let start := if p.isAbsolute then [] else cwd
    .ok (p.components.foldl (fun acc c =>
      match c with
      | .parent => acc.dropLast
      | .normal n => acc ++ [n]
      | _ => acc) start)

/-- Paths compared by their components. -/
def compare (p q : Path) : Ordering := compareComponents p.components q.components

/-- Two paths are equal as paths when their components are. -/
def sameAs (p q : Path) : Bool := p.components == q.components

/-- The path as text. -/
def display (p : Path) : String := p.text

end Path

end FeatureDocs.Store
