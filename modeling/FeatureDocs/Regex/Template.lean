import FeatureDocs.Regex.Machine

/-!
# Regular expressions: captures and replacement templates

The text of each group of a match, and the expansion of a template that refers to groups:

* `$$` is a dollar sign;
* `$name` takes the longest run of ASCII letters, digits and underscores as the reference;
* `${name}` takes everything up to the next closing brace, and stays as written when there is none;
* a reference that reads as a number (an optional plus sign and decimal digits that fit in
  64 bits) is a group index, any other is a group name;
* a group that does not exist or did not take part in the match adds nothing;
* a dollar sign that starts no reference is kept.

`Pattern.replaceAll` replaces every match of a pattern, searched for left to right without
overlaps, by a template expanded with the match's groups.
-/

namespace FeatureDocs.Regex

/-- The groups of one match. -/
structure Captures where
  /-- The text of each group, by index; group 0 is the whole match. -/
  groups : Array (Option String)
  /-- The group names and their indices. -/
  names : List (String × Nat)
deriving Repr

/-- The captures of a match of the pattern in the text, from the spans of its groups. -/
def Captures.ofSpans (p : Pattern) (s : String) (spans : Array (Option (Nat × Nat))) : Captures :=
  { groups := spans.map fun span => span.map fun (a, b) => String.ofList ((s.toList.drop a).take (b - a))
    names := p.names }

/-- The captures of the first match of the pattern in the text. -/
def Pattern.captures (p : Pattern) (s : String) : Option Captures :=
  (p.captures? s).map (Captures.ofSpans p s)

/-- A reference to a group in a template. -/
inductive GroupRef where
  | index (n : Nat)
  | name (s : String)
deriving Repr, DecidableEq

/-- The decimal value of a nonempty run of digits. -/
def digitsValue (cs : List Char) : Option Nat :=
  if !cs.isEmpty && cs.all Char.isDigit then
    some (cs.foldl (fun n c => 10 * n + (c.toNat - '0'.toNat)) 0)
  else none

/-- The value of a reference read as an unsigned 64-bit number, if it reads as one. -/
def indexValue (s : String) : Option Nat :=
  let digits := match s.toList with
    | '+' :: rest => rest
    | cs => cs
  match digitsValue digits with
  | some n => if n < 18446744073709551616 then some n else none
  | none => none

/-- A reference as written: a number is an index, anything else a name. -/
def GroupRef.ofText (s : String) : GroupRef :=
  match indexValue s with
  | some n => .index n
  | none => .name s

/-- The text a reference stands for in a match. -/
def Captures.lookup (caps : Captures) : GroupRef → String
  | .index n => ((caps.groups[n]?).bind id).getD ""
  | .name s =>
    match caps.names.lookup s with
    | some n => ((caps.groups[n]?).bind id).getD ""
    | none => ""

/-- The characters allowed in a reference without braces. -/
def isRefChar (c : Char) : Bool := c.isAlphanum || c == '_'

/-- Expand the template's characters after `acc`; each step consumes at least one character,
so `fuel` above the length suffices. -/
def Captures.expandChars (caps : Captures) : Nat → List Char → String → String
  | 0, _, acc => acc
  | _ + 1, [], acc => acc
  | fuel + 1, '$' :: '$' :: rest, acc => caps.expandChars fuel rest (acc.push '$')
  | fuel + 1, '$' :: '{' :: rest, acc =>
    let name := rest.takeWhile (· != '}')
    match rest.drop name.length with
    | '}' :: after => caps.expandChars fuel after (acc ++ caps.lookup (GroupRef.ofText (String.ofList name)))
    | _ => caps.expandChars fuel ('{' :: rest) (acc.push '$')
  | fuel + 1, '$' :: rest, acc =>
    let name := rest.takeWhile isRefChar
    if name.isEmpty then caps.expandChars fuel rest (acc.push '$')
    else caps.expandChars fuel (rest.drop name.length) (acc ++ caps.lookup (GroupRef.ofText (String.ofList name)))
  | fuel + 1, c :: rest, acc => caps.expandChars fuel rest (acc.push c)

/-- The template with its group references replaced by the match's groups. -/
def Captures.expand (caps : Captures) (template : String) : String :=
  caps.expandChars (template.length + 1) template.toList ""

/-! ## Replacing every match -/

/-- The span of the whole match among a match's group spans. -/
def wholeSpan (spans : Array (Option (Nat × Nat))) : Option (Nat × Nat) := spans[0]?.bind id

/-- The matches from `start` on, left to right, each search starting where the last match ended;
`ended` says that a match ended at `start`. An empty match right there is passed over by
searching again one character further, so that no position is matched twice. -/
def Pattern.matchesFrom (p : Pattern) (text : Array Char) (start : Nat) (ended : Bool) :
    List (Array (Option (Nat × Nat))) :=
  let found :=
    match p.capturesFrom? text start with
    | some spans =>
      if ended && wholeSpan spans == some (start, start) then
        if start < text.size then p.capturesFrom? text (start + 1) else none
      else some spans
    | none => none
  match found with
  | none => []
  | some spans =>
    match wholeSpan spans with
    | some (_, stop) =>
      -- a match ends where its search started or later, and inside the text
      if start < stop ∧ stop ≤ text.size ∨ stop = start ∧ ended = false then
        spans :: p.matchesFrom text stop true
      else [spans]
    | none => []
termination_by (text.size + 1 - start, if ended then 0 else 1)
decreasing_by
  rename_i h
  rcases h with ⟨h₁, h₂⟩ | ⟨rfl, rfl⟩
  · exact Prod.Lex.left _ _ (by omega)
  · exact Prod.Lex.right _ (by simp)

/-- The text from position `last` on, with each listed match replaced by the template expanded
with the match's groups and the text between matches kept. -/
def Pattern.replaceMatches (p : Pattern) (s template : String) :
    Nat → List (Array (Option (Nat × Nat))) → String
  | last, [] => String.ofList (s.toList.drop last)
  | last, spans :: rest =>
    match wholeSpan spans with
    | some (a, b) =>
      String.ofList ((s.toList.drop last).take (a - last)) ++
        (Captures.ofSpans p s spans).expand template ++ p.replaceMatches s template b rest
    | none => p.replaceMatches s template last rest

/-- The text with every match of the pattern replaced by the template expanded with its groups. -/
def Pattern.replaceAll (p : Pattern) (s template : String) : String :=
  p.replaceMatches s template 0 (p.matchesFrom s.toList.toArray 0 false)

end FeatureDocs.Regex
