import FeatureDocs.Text.Case

/-!
# Kinds of source files

A source file is a feature, reStructuredText prose or Markdown prose, told apart by the end of
its lowercased name. Hidden names start with a dot and private names with an underscore.
-/

namespace FeatureDocs.Tree

open FeatureDocs.Text

/-- The lowercased name ends with the given suffix. -/
def hasSuffix (name suffix : String) : Bool := suffix.toList.isSuffixOf (lower name).toList

/-- A Gherkin feature document. -/
def isFeatureFile (name : String) : Bool := hasSuffix name ".feature"

/-- Prose in reStructuredText, inlined into the table of contents. -/
def isRstFile (name : String) : Bool := hasSuffix name ".rst"

/-- Prose in Markdown, copied and listed with its extension. -/
def isMarkdownFile (name : String) : Bool := hasSuffix name ".md"

/-- Any file that a build processes. -/
def isSourceFile (name : String) : Bool :=
  isFeatureFile name || isRstFile name || isMarkdownFile name

/-- A name that starts with a dot. -/
def isHidden (name : String) : Bool := name.toList.head? == some '.'

/-- A name that starts with an underscore. -/
def isPrivate (name : String) : Bool := name.toList.head? == some '_'

end FeatureDocs.Tree
