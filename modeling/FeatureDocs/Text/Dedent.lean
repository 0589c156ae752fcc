import FeatureDocs.Text.Blank
import FeatureDocs.Text.Lines

/-!
# Removing common indentation

A block of text loses the indentation its lines share. The indentation is taken from the first
line that holds a non-blank character and shortened wherever a later line differs from it; lines
made only of blanks become empty, and the text keeps or lacks its final line feed as it was.

* `dedent`.
-/

namespace FeatureDocs.Text

/-- The indentation shortened to where it first differs from the line, if it differs inside both. -/
def shortenIndent : List Char → List Char → List Char
  | p :: ps, c :: cs => if p == c then p :: shortenIndent ps cs else []
  | _, _ => []

/-- Keep the indentation unless the line differs from it before either ends. -/
def keepOrShorten (indent line : List Char) : List Char :=
  let common := shortenIndent indent line
  if common.length < line.length && common.length < indent.length then common else indent

/-- The indentation shared by the lines. -/
def sharedIndent (ls : List (List Char)) : List Char :=
  match ls.dropWhile (fun l => l.all isBlank) with
  | [] => []
  | first :: later => later.foldl keepOrShorten (first.takeWhile isBlank)

/-- The text without the indentation its lines share. -/
def dedent (s : String) : String :=
  let ls := (lines s).map String.toList
  let indent := sharedIndent ls
  let body := ls.flatMap fun l =>
    (if indent.isPrefixOf l && l.any (fun c => !isBlank c) then l.drop indent.length else []) ++ ['\n']
  let body := if body.getLast? == some '\n' && !s.endsWith "\n" then body.dropLast else body
  String.ofList body

end FeatureDocs.Text
