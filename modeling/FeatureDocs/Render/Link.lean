import FeatureDocs.Regex.Template
import FeatureDocs.Data.Sorted

/-!
# Link rules

A link rule turns a tag or a step into a URL: a pattern finds the first match in the text and
a template builds the URL from its groups. No match, or an empty URL, means no link.

* `LinkRule`, `LinkRule.make`, `LinkRule.resolve`;
* `LinkRegistry`: rules under names, kept in name order, a later rule replacing an earlier one.
-/

namespace FeatureDocs.Render

open FeatureDocs.Regex

/-- A failure to make or find a link rule. -/
inductive LinkError where
  /-- The pattern of the named rule is not a valid regular expression. -/
  | invalidPattern (name : String)
  /-- No rule has this name. -/
  | unknown (name : String)
deriving Repr, DecidableEq

/-- The text shown for the error. -/
def LinkError.message : LinkError → String
  | .invalidPattern name => "Invalid pattern for resolver '" ++ name ++ "'"
  | .unknown name => "Unknown URL resolver '" ++ name ++ "'"

/-- A pattern and the URL template applied to its first match. -/
structure LinkRule where
  pattern : Pattern
  template : String

/-- The rule for a pattern written as text; the name only labels the error. -/
def LinkRule.make (name pattern template : String) : Except LinkError LinkRule :=
  match Pattern.parse pattern with
  | .ok p => .ok { pattern := p, template := template }
  | .error _ => .error (.invalidPattern name)

/-- The URL for a text: the template expanded at the first match, unless empty. -/
def LinkRule.resolve (rule : LinkRule) (text : String) : Option String :=
  match rule.pattern.captures text with
  | none => none
  | some caps =>
    let url := caps.expand rule.template
    if url.isEmpty then none else some url

/-- Link rules by name, in name order. -/
structure LinkRegistry where
  rules : List (String × LinkRule) := []

/-- Register a rule under a name, replacing the rule of that name. -/
def LinkRegistry.register (reg : LinkRegistry) (name : String) (rule : LinkRule) : LinkRegistry :=
  { rules := Data.upsertBy Data.compareText name rule (fun _ => rule) reg.rules }

/-- The rule of a name. -/
def LinkRegistry.get (reg : LinkRegistry) (name : String) : Except LinkError LinkRule :=
  match reg.rules.lookup name with
  | some rule => .ok rule
  | none => .error (.unknown name)

/-- The registered names, in order. -/
def LinkRegistry.names (reg : LinkRegistry) : List String := reg.rules.map Prod.fst

end FeatureDocs.Render
