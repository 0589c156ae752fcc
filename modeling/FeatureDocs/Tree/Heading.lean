import FeatureDocs.Text.Case
import FeatureDocs.Text.Blank

/-!
# Directory headings

A directory's heading comes from its name. A heading style, when one is chosen, turns the name
into the heading; otherwise a marker file may name the directory, and failing that the name is
title-cased with underscores read as spaces.

* `HeadingStyle`, `HeadingStyle.ofName?`, `HeadingStyle.apply`;
* `capWords`: each blank-separated word capitalized, joined by single spaces.
-/

namespace FeatureDocs.Tree

open FeatureDocs.Text

/-- A style that turns a directory name into a heading. -/
inductive HeadingStyle where
  /-- The name as it is. -/
  | verbatim
  /-- `user_accounts` becomes `User Accounts`. -/
  | titleCase
  /-- `user_accounts` becomes `User accounts`. -/
  | sentenceCase
deriving DecidableEq, Repr, Inhabited

/-- The names of the heading styles, in the order they are offered. -/
def headingStyleNames : List String := ["verbatim", "title-case", "sentence-case"]

/-- The heading style of a name, if it is one of `headingStyleNames`. -/
def HeadingStyle.ofName? : String → Option HeadingStyle
  | "verbatim" => some .verbatim
  | "title-case" => some .titleCase
  | "sentence-case" => some .sentenceCase
  | _ => none

/-- Each word capitalized, joined by single spaces. -/
def capWords (s : String) : String := " ".intercalate ((words s).map capitalize)

/-- Underscores and hyphens read as spaces. -/
def spaceSeparators (s : String) : String :=
  String.ofList (s.toList.map fun c => if c == '_' || c == '-' then ' ' else c)

/-- Underscores read as spaces. -/
def spaceUnderscores (s : String) : String :=
  String.ofList (s.toList.map fun c => if c == '_' then ' ' else c)

/-- The heading of a directory name in a style. -/
def HeadingStyle.apply : HeadingStyle → String → String
  | .verbatim, name => name
  | .titleCase, name => capWords (spaceSeparators name)
  | .sentenceCase, name => capitalize (" ".intercalate (words (lower (spaceSeparators name))))

/-- The heading of a directory without a style or a marker file. -/
def defaultHeading (name : String) : String := capWords (spaceUnderscores name)

end FeatureDocs.Tree
