import FeatureDocs.Text.Lookup
import FeatureDocs.Text.PropertyTable
import FeatureDocs.Text.ScriptTable

/-!
# Character classes

Look-ups of the Unicode properties that the text rules of this library depend on: letters and
digits for names, the word characters of patterns, the cased and case-ignorable characters that
decide the final form of sigma, and the script of a character.
-/

namespace FeatureDocs.Text

/-- The general category of a character. -/
def category (c : Char) : GeneralCategory :=
  match lastAtMost? categoryRuns Prod.fst c.toNat with
  | some (_, g) => g
  | none => .Cn

/-- Letters and other alphabetic characters (the Alphabetic property). -/
def isAlphabetic (c : Char) : Bool := inRanges alphabeticRanges c.toNat

/-- Characters of a numeric category: decimal digits, letter numbers and other numbers. -/
def isNumeric (c : Char) : Bool :=
  match category c with
  | .Nd | .Nl | .No => true
  | _ => false

/-- Alphabetic or numeric characters. -/
def isAlphanumeric (c : Char) : Bool := isAlphabetic c || isNumeric c

/-- Decimal digits of any script (category Nd). -/
def isDecimalDigit (c : Char) : Bool := category c == .Nd

/-- Marks: non-spacing, spacing and enclosing. -/
def isMark (c : Char) : Bool :=
  match category c with
  | .Mn | .Mc | .Me => true
  | _ => false

/-- The zero-width joiner and non-joiner. -/
def isJoinControl (c : Char) : Bool := c.toNat == 0x200C || c.toNat == 0x200D

/-- Word characters: alphabetic characters, marks, decimal digits, connector punctuation and
the join controls. -/
def isWordChar (c : Char) : Bool :=
  isAlphabetic c || isMark c || isDecimalDigit c || category c == .Pc || isJoinControl c

/-- Characters that have case or are titlecase letters (the Cased property). -/
def isCased (c : Char) : Bool := inRanges casedRanges c.toNat

/-- Characters that case mapping passes over (the Case_Ignorable property). -/
def isCaseIgnorable (c : Char) : Bool := inRanges caseIgnorableRanges c.toNat

/-- The index in `scriptNames` of the script of a character. -/
def scriptIndex (c : Char) : Nat :=
  match lastAtMost? scriptRuns Prod.fst c.toNat with
  | some (_, i) => i
  | none => 0

/-- The index of the script that has the given loose name. -/
def scriptIndexNamed? (loose : String) : Option Nat :=
  scriptNames.findIdx? fun (_, names) => names.contains loose

theorem isWordChar_of_isAlphabetic {c : Char} (h : isAlphabetic c = true) :
    isWordChar c = true := by
  simp [isWordChar, h]

end FeatureDocs.Text
