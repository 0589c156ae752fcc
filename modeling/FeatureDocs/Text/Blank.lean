/-!
# Blank characters

A character is *blank* when it has the Unicode White_Space property. Trimming and splitting into
words use this set, which is wider than core's `Char.isWhitespace` (it holds the no-break space,
the ideographic space and the line and paragraph separators) and leaves out the zero-width space.

* `isBlank`, `trimBlank`, `trimBlankEnd`, `words`;
* `isBlank_of_isWhitespace`: every character core calls whitespace is blank.
-/

namespace FeatureDocs.Text

/-- The White_Space property as inclusive code point ranges. -/
def blankRanges : List (Nat × Nat) :=
  [(9, 13), (32, 32), (133, 133), (160, 160), (5760, 5760), (8192, 8202), (8232, 8233),
    (8239, 8239), (8287, 8287), (12288, 12288)]

/-- A character is blank when it has the White_Space property. -/
def isBlank (c : Char) : Bool :=
  blankRanges.any fun r => decide (r.1 ≤ c.toNat) && decide (c.toNat ≤ r.2)

/-- The characters without their leading blanks. -/
def dropBlank (cs : List Char) : List Char := cs.dropWhile isBlank

/-- The characters without their trailing blanks. -/
def dropBlankEnd (cs : List Char) : List Char := (dropBlank cs.reverse).reverse

/-- The text without its trailing blanks. -/
def trimBlankEnd (s : String) : String := String.ofList (dropBlankEnd s.toList)

/-- The text without its leading and trailing blanks. -/
def trimBlank (s : String) : String := String.ofList (dropBlankEnd (dropBlank s.toList))

/-- The maximal runs of non-blank characters, with the run being built in `cur` (reversed). -/
def wordsFrom : List Char → List Char → List (List Char)
  | [], cur => if cur.isEmpty then [] else [cur.reverse]
  | c :: cs, cur =>
    if isBlank c then
      if cur.isEmpty then wordsFrom cs [] else cur.reverse :: wordsFrom cs []
    else wordsFrom cs (c :: cur)

/-- The words of a text: its maximal runs of non-blank characters, in order. -/
def words (s : String) : List String := (wordsFrom s.toList []).map String.ofList

theorem isBlank_of_isWhitespace {c : Char} (h : c.isWhitespace = true) : isBlank c = true := by
  simp only [Char.isWhitespace, Bool.or_eq_true, decide_eq_true_eq] at h
  rcases h with ((h | h) | h) | h <;> subst h <;> decide

end FeatureDocs.Text
