import FeatureDocs.Store.Path

/-!
# Feature file dialects

Two readers of feature files are offered by name: `gherkin`, which keeps the file as written,
and `pytest-bdd`, which tidies doc strings the way that test runner does. A feature that
cannot be read, and an unknown reader name, are the two parse errors.
-/

namespace FeatureDocs.Feature

open FeatureDocs.Store

/-- A reader of feature files. -/
inductive Dialect where
  | gherkin
  | pytestBdd
deriving DecidableEq, Repr, Inhabited

/-- The name a reader is chosen by. -/
def Dialect.name : Dialect → String
  | .gherkin => "gherkin"
  | .pytestBdd => "pytest-bdd"

/-- A failure to read a feature. -/
inductive ParseError where
  /-- The file at the path could not be read as a feature. -/
  | invalid (path : Path) (message : String)
  /-- No reader has this name. -/
  | unknownParser (name : String)
deriving DecidableEq, Repr

/-- The text shown for the error. -/
def ParseError.message : ParseError → String
  | .invalid p msg => "Failed to parse " ++ p.display ++ ": " ++ msg
  | .unknownParser n => "Unknown parser '" ++ n ++ "' (available: gherkin, pytest-bdd)"

/-- The reader of a name. -/
def Dialect.ofName : String → Except ParseError Dialect
  | "gherkin" => .ok .gherkin
  | "pytest-bdd" => .ok .pytestBdd
  | other => .error (.unknownParser other)

end FeatureDocs.Feature
