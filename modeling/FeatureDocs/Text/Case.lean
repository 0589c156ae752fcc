import FeatureDocs.Text.Category
import FeatureDocs.Text.CaseTable

/-!
# Case mapping

The full Unicode case maps of single characters and of texts:

* `upperOf`, `lowerOf`: one character to its uppercase or lowercase form, which may be longer
  (`ß` to `SS`, `İ` to `i̇`);
* `upper`, `lower`: whole texts; `lower` writes a capital sigma at the end of a word as `ς`;
* `capitalize`: the first character in uppercase and the rest in lowercase, character by
  character;
* `foldClass`: the characters that simple case folding makes equal to a given one.
-/

namespace FeatureDocs.Text

/-- The image of a code point under a map given by runs, if one of the runs holds it. -/
def CharRun.image? (runs : Array CharRun) (c : Nat) : Option Nat :=
  match lastAtMost? runs CharRun.first c with
  | some r =>
    if c ≤ r.last ∧ (c - r.first) % r.stride = 0 then some (r.image + (c - r.first)) else none
  | none => none

/-- The value of a character under a run map with a table of wide images in front of it. -/
def mapChar (wide : List (Nat × List Nat)) (runs : Array CharRun) (c : Char) : List Char :=
  match wide.find? (·.1 == c.toNat) with
  | some (_, cs) => cs.map Char.ofNat
  | none =>
    match CharRun.image? runs c.toNat with
    | some n => [Char.ofNat n]
    | none => [c]

/-- The full uppercase form of a character. -/
def upperOf (c : Char) : List Char := mapChar upperWide upperRuns c

/-- The full lowercase form of a character, without regard to its neighbours. -/
def lowerOf (c : Char) : List Char := mapChar lowerWide lowerRuns c

/-- The text in uppercase, character by character. -/
def upper (s : String) : String := String.ofList (s.toList.flatMap upperOf)

/-- After skipping case-ignorable characters, the next character is cased. -/
def casedAfterIgnorable (cs : List Char) : Bool :=
  match cs.dropWhile isCaseIgnorable with
  | c :: _ => isCased c
  | [] => false

/-- A capital sigma ends a word when a cased character comes before it and none after it,
case-ignorable characters being skipped on both sides; `before` is read nearest first. -/
def endsWord (before after : List Char) : Bool :=
  casedAfterIgnorable before && !casedAfterIgnorable after

/-- Lowercase of the characters `rest`, where `before` holds the characters already passed,
nearest first. -/
def lowerFrom : List Char → List Char → List Char
  | _, [] => []
  | before, c :: rest =>
    let here := if c = 'Σ' then [if endsWord before rest then 'ς' else 'σ'] else lowerOf c
    here ++ lowerFrom (c :: before) rest

/-- The text in lowercase; a capital sigma that ends a word becomes the final sigma `ς`. -/
def lower (s : String) : String := String.ofList (lowerFrom [] s.toList)

/-- The first character in uppercase and the others in lowercase, each on its own. -/
def capitalizeChars : List Char → List Char
  | [] => []
  | c :: rest => upperOf c ++ rest.flatMap lowerOf

/-- A word with its first character in uppercase and the others in lowercase. -/
def capitalize (w : String) : String := String.ofList (capitalizeChars w.toList)

/-- The next member of a character's simple case-folding class (itself when alone). -/
def foldNext (c : Char) : Char :=
  match CharRun.image? foldCycleRuns c.toNat with
  | some n => Char.ofNat n
  | none => c

/-- The class of characters equal to `c` under simple case folding, walked from `c`; no class
has more than four members, so four steps reach every one. -/
def foldClass (c : Char) : List Char :=
  let c1 := foldNext c
  let c2 := foldNext c1
  let c3 := foldNext c2
  ([c, c1, c2, c3]).eraseDups

theorem lowerFrom_append_nil (before : List Char) : lowerFrom before [] = [] := rfl

end FeatureDocs.Text
