/-!
# Glob patterns

The patterns that leave files and directories out of a scan. A pattern is read into tokens:

* `?` is any one character, `*` any run of characters (separators included);
* `**` is any run that ends at a separator, and must be a whole component: at the start or
  after `/`, and at the end or before `/` (that `/` is part of it);
* `[...]` is one character from a set of characters and ranges `a-z`, `[!...]` one character
  outside it; a `]` right after the opening is a member, and a set without its closing `]` is
  an error;
* any other character stands for itself, compared exactly.

Errors carry the character position they were found at. Matching tries the shortest runs first
and stops early when the rest of the pattern cannot match whatever is skipped.
-/

namespace FeatureDocs.Tree

/-- One member of a character set. -/
inductive CharSpec where
  | single (c : Char)
  | range (lo hi : Char)
deriving DecidableEq, Repr

/-- The character is a member. -/
def CharSpec.holds (c : Char) : CharSpec → Bool
  | .single d => c == d
  | .range lo hi => decide (lo ≤ c) && decide (c ≤ hi)

/-- One token of a glob pattern. -/
inductive GlobToken where
  | char (c : Char)
  | anyChar
  | anySequence
  | anyRecursive
  | within (specs : List CharSpec)
  | except (specs : List CharSpec)
deriving DecidableEq, Repr

/-- A parsed glob pattern and its text. -/
structure GlobPattern where
  text : String
  tokens : List GlobToken
deriving Repr

/-- A pattern that cannot be read: the position of the fault and what it is. -/
structure GlobError where
  pos : Nat
  msg : String
deriving DecidableEq, Repr

/-- The text shown for a pattern error. -/
def GlobError.message (e : GlobError) : String :=
  "Pattern syntax error near position " ++ toString e.pos ++ ": " ++ e.msg

/-- The message for more than two stars in a row. -/
def wildcardsMessage : String := "wildcards are either regular `*` or recursive `**`"

/-- The message for `**` that is not a whole component. -/
def recursiveMessage : String := "recursive wildcards must form a single path component"

/-- The message for a set without its closing bracket. -/
def rangeMessage : String := "invalid range pattern"

/-- The members of a set as written: `a-b` is a range, anything else a single character. -/
def charSpecs : List Char → List CharSpec
  | a :: '-' :: b :: rest => .range a b :: charSpecs rest
  | c :: rest => .single c :: charSpecs rest
  | [] => []

/-- The characters before the first `]`, and what follows it; none without a `]`. -/
def untilClose : List Char → Option (List Char × List Char)
  | [] => none
  | ']' :: rest => some ([], rest)
  | c :: rest => (untilClose rest).map fun (inside, after) => (c :: inside, after)

/-- Read a set after its `[`: `pos` is the position of the `[`. Returns the token and the rest. -/
def readSet (pos : Nat) (cs : List Char) : Except GlobError (GlobToken × List Char × Nat) :=
  match cs with
  | '!' :: first :: second :: rest =>
    match untilClose (second :: rest) with
    | some (inside, after) => .ok (.except (charSpecs (first :: inside)), after, inside.length + 4)
    | none => .error ⟨pos, rangeMessage⟩
  | first :: c :: rest =>
    if first == '!' then .error ⟨pos, rangeMessage⟩
    else
      match untilClose (c :: rest) with
      | some (inside, after) => .ok (.within (charSpecs (first :: inside)), after, inside.length + 3)
      | none => .error ⟨pos, rangeMessage⟩
  | _ => .error ⟨pos, rangeMessage⟩

/-- Read the tokens of the characters from position `pos`; `prev` is the character before, and
`acc` the tokens so far, reversed. Each step consumes at least one character. -/
def readGlob : Nat → Nat → Option Char → List Char → List GlobToken → Except GlobError (List GlobToken)
  | 0, _, _, _, acc => .ok acc.reverse
  | _ + 1, _, _, [], acc => .ok acc.reverse
  | fuel + 1, pos, prev, c :: cs, acc =>
    match c with
    | '?' => readGlob fuel (pos + 1) (some c) cs (.anyChar :: acc)
    | '*' =>
      let stars := 1 + (cs.takeWhile (· == '*')).length
      let rest := cs.drop (stars - 1)
      if stars > 2 then .error ⟨pos + 2, wildcardsMessage⟩
      else if stars == 1 then readGlob fuel (pos + 1) (some '*') rest (.anySequence :: acc)
      else if !(prev.isNone || prev == some '/') then .error ⟨pos - 1, recursiveMessage⟩
      else
        let acc' := match acc with
          | .anyRecursive :: _ :: _ => acc
          | _ => .anyRecursive :: acc
        match rest with
        | '/' :: after => readGlob fuel (pos + 3) (some '/') after acc'
        | [] => .ok acc'.reverse
        | _ => .error ⟨pos + 2, recursiveMessage⟩
    | '[' =>
      match readSet pos cs with
      | .ok (tok, after, width) => readGlob fuel (pos + width) (some ']') after (tok :: acc)
      | .error e => .error e
    | _ => readGlob fuel (pos + 1) (some c) cs (.char c :: acc)

/-- Read a glob pattern. -/
def GlobPattern.parse (text : String) : Except GlobError GlobPattern :=
  (readGlob (text.length + 1) 0 none text.toList []).map fun toks => ⟨text, toks⟩

/-- How a match attempt ended: a match, no match from this point on, or no match for any way
of skipping characters before this point either. -/
inductive GlobOutcome where
  | matched
  | noMatchHere
  | noMatchAtAll
deriving DecidableEq, Repr

/-- The token matches one character. -/
def GlobToken.accepts (c : Char) : GlobToken → Bool
  | .char d => c == d
  | .anyChar => true
  | .within specs => specs.any (CharSpec.holds c)
  | .except specs => !specs.any (CharSpec.holds c)
  | .anySequence | .anyRecursive => false

/-- Skip characters one at a time for a run token, trying the rest of the pattern after each;
a recursive run only tries after a separator. When the text runs out, the rest of the pattern
is tried on nothing. -/
def skipRun (recursive : Bool) (rest : Bool → List Char → GlobOutcome) : Bool → List Char → GlobOutcome
  | afterSep, [] => rest afterSep []
  | _, c :: cs =>
    let afterSep := c == '/'
    if recursive && !afterSep then skipRun recursive rest afterSep cs
    else
      match rest afterSep cs with
      | .noMatchHere => skipRun recursive rest afterSep cs
      | m => m

/-- Match the tokens against the characters; `afterSep` tells whether the last character read
was a separator. -/
def globFrom : List GlobToken → Bool → List Char → GlobOutcome
  | [], _, text => if text.isEmpty then .matched else .noMatchHere
  | t :: toks, afterSep, text =>
    match t with
    | .anySequence | .anyRecursive =>
      match globFrom toks afterSep text with
      | .noMatchHere => skipRun (t == .anyRecursive) (globFrom toks) afterSep text
      | m => m
    | _ =>
      match text with
      | [] => .noMatchAtAll
      | c :: cs => if t.accepts c then globFrom toks (c == '/') cs else .noMatchHere

/-- The pattern matches the whole text. -/
def GlobPattern.matches (p : GlobPattern) (s : String) : Bool :=
  globFrom p.tokens true s.toList == .matched

/-- Patterns that leave names and directories out of a scan. -/
structure ExcludePatterns where
  patterns : List GlobPattern := []

/-- An exclude pattern that cannot be read, and the pattern as written. -/
structure ExcludeError where
  pattern : String
  error : GlobError
deriving DecidableEq, Repr

/-- The text shown for the error. -/
def ExcludeError.message (e : ExcludeError) : String :=
  "Invalid exclude pattern '" ++ e.pattern ++ "': " ++ e.error.message

/-- Read the patterns, stopping at the first that cannot be read. -/
def ExcludePatterns.parse (texts : List String) : Except ExcludeError ExcludePatterns :=
  (texts.mapM fun t => (GlobPattern.parse t).mapError fun e => ⟨t, e⟩).map fun ps => ⟨ps⟩

/-- Some pattern matches the name (or the path, as text). -/
def ExcludePatterns.matches (e : ExcludePatterns) (s : String) : Bool :=
  e.patterns.any fun p => p.matches s

end FeatureDocs.Tree
