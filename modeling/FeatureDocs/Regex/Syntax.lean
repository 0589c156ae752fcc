import FeatureDocs.Text.Category
import FeatureDocs.Text.Case
import FeatureDocs.Text.Blank

/-!
# Regular expressions: syntax

The abstract syntax of regular expressions and the meaning of their character classes. Classes
are Unicode-aware: `\d` is any decimal digit, `\w` any word character, `\s` any blank, and
`\p{…}` a general category, a script or a property. A caseless class or literal matches every
character that simple case folding makes equal to one it holds. Classes combine by union, and
by intersection, difference and symmetric difference. Where Unicode is turned off the Perl
classes, word boundaries and caseless matching are those of ASCII.

* `SetOp`, `ClassItem`, `ClassItem.holds`;
* `Term`: literals, classes, the dot, anchors and word boundaries, groups, concatenation,
  alternation and repetition.
-/

namespace FeatureDocs.Regex

open FeatureDocs.Text

/-- The Perl classes `\d`, `\w` and `\s`. -/
inductive PerlClass where
  | digit
  | word
  | space
deriving DecidableEq, Repr, Inhabited

/-- A named property of `\p{…}`. -/
inductive Property where
  /-- Characters of any of these general categories. -/
  | category (cats : List GeneralCategory)
  /-- Characters in these ranges. -/
  | ranges (rs : Array (Nat × Nat))
  /-- Characters of the script with this index in `scriptNames`. -/
  | script (index : Nat)
  /-- Every character. -/
  | any
deriving Repr, Inhabited

/-- An operation between two classes. -/
inductive SetOp where
  | intersection
  | difference
  | symmetricDifference
deriving DecidableEq, Repr, Inhabited

/-- The other case of an ASCII letter; any other character is itself. -/
def swapAsciiCase (c : Char) : Char :=
  if 'a' ≤ c && c ≤ 'z' then Char.ofNat (c.toNat - 32)
  else if 'A' ≤ c && c ≤ 'Z' then Char.ofNat (c.toNat + 32)
  else c

/-- One item of a character class. -/
inductive ClassItem where
  /-- The code points from `lo` to `hi`. -/
  | range (lo hi : Nat)
  /-- A Perl class, or its complement. -/
  | perl (kind : PerlClass) (negated : Bool)
  /-- A property, or its complement. -/
  | prop (p : Property) (negated : Bool)
  /-- A nested class, or its complement. -/
  | nested (negated : Bool) (items : List ClassItem)
  /-- Two classes combined by a set operation. -/
  | combine (op : SetOp) (lhs rhs : ClassItem)
  /-- A class together with the other case of each ASCII letter it holds. -/
  | asciiCaseless (item : ClassItem)
deriving Repr, Inhabited

/-- A character has the Perl class. -/
def PerlClass.holds : PerlClass → Char → Bool
  | .digit, c => isDecimalDigit c
  | .word, c => isWordChar c
  | .space, c => isBlank c

/-- A character has the property. -/
def Property.holds : Property → Char → Bool
  | .category cats, c => cats.contains (Text.category c)
  | .ranges rs, c => inRanges rs c.toNat
  | .script i, c => scriptIndex c == i
  | .any, _ => true

mutual
/-- A character belongs to a class item. -/
def ClassItem.holds : ClassItem → Char → Bool
  | .range lo hi, c => decide (lo ≤ c.toNat) && decide (c.toNat ≤ hi)
  | .perl k neg, c => k.holds c != neg
  | .prop p neg, c => p.holds c != neg
  | .nested neg items, c => ClassItem.anyHolds items c != neg
  | .combine .intersection l r, c => l.holds c && r.holds c
  | .combine .difference l r, c => l.holds c && !r.holds c
  | .combine .symmetricDifference l r, c => l.holds c != r.holds c
  | .asciiCaseless i, c => i.holds c || i.holds (swapAsciiCase c)

/-- A character belongs to one of the items. -/
def ClassItem.anyHolds : List ClassItem → Char → Bool
  | [], _ => false
  | i :: is, c => i.holds c || ClassItem.anyHolds is c
end

/-- A character belongs to a class, itself or, when the class is caseless, through a character
of its case-folding class. -/
def classHolds (items : List ClassItem) (negated caseless : Bool) (c : Char) : Bool :=
  let inside := if caseless then (foldClass c).any (ClassItem.anyHolds items) else
    ClassItem.anyHolds items c
  inside != negated

/-- The kinds of zero-width assertions. -/
inductive Look where
  /-- Start of the text, or of a line in multi-line mode. -/
  | start (multiLine : Bool)
  /-- End of the text, or of a line in multi-line mode. -/
  | finish (multiLine : Bool)
  /-- A word boundary, or a place that is none. -/
  | boundary (negated : Bool)
  /-- A boundary between an ASCII word character and anything else. -/
  | asciiBoundary
  /-- A place not preceded by a word character. -/
  | wordStartHalf
  /-- A place not followed by a word character. -/
  | wordEndHalf
  /-- The start of a word. -/
  | wordStart
  /-- The end of a word. -/
  | wordEnd
deriving DecidableEq, Repr, Inhabited

/-- A regular expression as a syntax tree. -/
inductive Term where
  /-- The empty expression, which matches the empty text. -/
  | empty
  /-- One character, caseless or not. -/
  | literal (c : Char) (caseless : Bool)
  /-- A character class. -/
  | charClass (items : List ClassItem) (negated caseless : Bool)
  /-- Any character, or any but a line break. -/
  | dot (newline : Bool)
  /-- A zero-width assertion. -/
  | look (l : Look)
  /-- A group, capturing with an index or not. -/
  | group (index : Option Nat) (r : Term)
  /-- The expressions one after another. -/
  | concat (rs : List Term)
  /-- The first of the expressions that matches. -/
  | alt (rs : List Term)
  /-- Between `min` and `max` repetitions, as many as possible or as few. -/
  | rep (r : Term) (min : Nat) (max : Option Nat) (greedy : Bool)
deriving Repr, Inhabited

/-- A compiled pattern: the expression, its number of capture groups and their names. -/
structure Pattern where
  regex : Term
  groups : Nat
  names : List (String × Nat)
deriving Repr, Inhabited

end FeatureDocs.Regex
