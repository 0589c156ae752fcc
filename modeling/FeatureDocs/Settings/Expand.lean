import FeatureDocs.Text.Category

/-!
# Environment variables in settings

Two settings, the project name and the URL templates of link rules, may refer to environment
variables, and are expanded only when they contain `${`:

* `${NAME}` is the variable's value, and an error when it is not set;
* `${NAME:-default}` is the value when the variable is set (even when empty), the default
  otherwise; the default runs to the first `}` and is not expanded again; without a name
  before it, `:-` is part of the name;
* `$NAME` takes the longest run of letters, digits and underscores as the name;
* a name made only of digits (the empty name included) is kept as written, or replaced by its
  default when it has one;
* `$$` is one `$`, and a `$` that starts nothing is kept, as is a `${` without its `}`.
-/

namespace FeatureDocs.Settings

open FeatureDocs.Text

/-- The value of a variable: set to a value, or not set (an error unless there is a default).
A name made only of digits is never looked up. -/
inductive Lookup where
  | value (v : String)
  | keep
  | unset
deriving DecidableEq, Repr

/-- Look a name up in an environment. -/
def lookupVar (env : String → Option String) (name : String) : Lookup :=
  if name.toList.all Char.isDigit then .keep
  else
    match env name with
    | some v => .value v
    | none => .unset

/-- The characters of a name after `$`. -/
def isNameChar (c : Char) : Bool := isAlphanumeric c || c == '_'

/-- The position of `:-` in a list, if any. -/
def defaultSplit : List Char → Option (List Char × List Char)
  | ':' :: '-' :: r => some ([], r)
  | c :: r => (defaultSplit r).map fun (a, b) => (c :: a, b)
  | [] => none

/-- Expand the characters after `acc`; an unset variable without default gives its name.
Each step consumes at least one character. -/
def expandChars (env : String → Option String) : Nat → List Char → String → Except String String
  | 0, _, acc => .ok acc
  | _ + 1, [], acc => .ok acc
  | fuel + 1, '$' :: '{' :: rest, acc =>
    let inside := rest.takeWhile (· != '}')
    if inside.length == rest.length then expandChars env fuel rest (acc ++ "$\x7b")
    else
      let after := rest.drop (inside.length + 1)
      let (name, dflt) := match defaultSplit inside with
        | some (n@(_ :: _), d) => (n, some d)
        | _ => (inside, none)
      let nameText := String.ofList name
      match lookupVar env nameText, dflt with
      | .value v, _ => expandChars env fuel after (acc ++ v)
      | _, some d => expandChars env fuel after (acc ++ String.ofList d)
      | .keep, none => expandChars env fuel after (acc ++ "$\x7b" ++ String.ofList inside ++ "\x7d")
      | .unset, none => .error nameText
  | fuel + 1, '$' :: rest, acc =>
    let name := rest.takeWhile isNameChar
    if name.isEmpty then
      match rest with
      | '$' :: r => expandChars env fuel r (acc.push '$')
      | _ => expandChars env fuel rest (acc.push '$')
    else
      let nameText := String.ofList name
      match lookupVar env nameText with
      | .value v => expandChars env fuel (rest.drop name.length) (acc ++ v)
      | .keep => expandChars env fuel (rest.drop name.length) (acc ++ "$" ++ nameText)
      | .unset => .error nameText
  | fuel + 1, c :: rest, acc => expandChars env fuel rest (acc.push c)

/-- Expand a setting that contains `${`; the error is the name of a variable that is not set. -/
def expandEnv (env : String → Option String) (s : String) : Except String String :=
  if (s.splitOn "$\x7b").length > 1 then expandChars env (s.length + 1) s.toList ""
  else .ok s

end FeatureDocs.Settings
