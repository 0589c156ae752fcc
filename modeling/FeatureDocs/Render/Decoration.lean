/-!
# Step decoration

Background steps folded into scenarios can be wrapped in literal text, given as a template with
exactly one `{}` placeholder.

* `Decoration`, `Decoration.ofTemplate`, `Decoration.apply`;
* `placeholderCount`: the number of non-overlapping placeholders, read left to right.
-/

namespace FeatureDocs.Render

/-- How a folded background step is written. -/
inductive Decoration where
  /-- Unchanged. -/
  | plain
  /-- Between a prefix and a suffix. -/
  | template (pre post : String)
deriving DecidableEq, Repr, Inhabited

/-- A template without exactly one placeholder, with the number it has. -/
structure DecorationError where
  template : String
  found : Nat
deriving DecidableEq, Repr

/-- The message of a template error. -/
def DecorationError.message (e : DecorationError) : String :=
  "Step format '" ++ e.template ++ "' must contain exactly one '" ++ "\x7b\x7d" ++
    "' placeholder, found " ++ toString e.found

/-- The number of non-overlapping `{}` placeholders, read left to right. -/
def placeholderCount : List Char → Nat
  | '{' :: '}' :: rest => placeholderCount rest + 1
  | _ :: rest => placeholderCount rest
  | [] => 0

/-- The characters before the first placeholder and those after it, if there is one. -/
def splitAtPlaceholder : List Char → Option (List Char × List Char)
  | '{' :: '}' :: rest => some ([], rest)
  | c :: rest => (splitAtPlaceholder rest).map fun p => (c :: p.1, p.2)
  | [] => none

/-- The decoration of a template: plain when the template is the placeholder alone, the text
around it otherwise; an error unless there is exactly one placeholder. -/
def Decoration.ofTemplate (t : String) : Except DecorationError Decoration :=
  let found := placeholderCount t.toList
  match splitAtPlaceholder t.toList with
  | some (pre, post) =>
    if found = 1 then
      if pre.isEmpty && post.isEmpty then .ok .plain
      else .ok (.template (String.ofList pre) (String.ofList post))
    else .error ⟨t, found⟩
  | none => .error ⟨t, found⟩

/-- A step written with the decoration. -/
def Decoration.apply : Decoration → String → String
  | .plain, s => s
  | .template pre post, s => pre ++ s ++ post

end FeatureDocs.Render
