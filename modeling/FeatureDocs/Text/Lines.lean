/-!
# Lines of a text

A text is cut at each line feed; a carriage return just before a line feed belongs to the line
break, and a line feed at the very end closes the last line instead of opening an empty one.

* `lines`: the lines of a text;
* `lines_nil`: the empty text has no line.
-/

namespace FeatureDocs.Text

/-- The line without one carriage return at its end. -/
def dropReturn (cs : List Char) : List Char :=
  match cs.reverse with
  | '\r' :: rest => rest.reverse
  | _ => cs

/-- The lines of the characters, the current line being built in `cur` (reversed). -/
def linesFrom : List Char → List Char → List (List Char)
  | [], cur => if cur.isEmpty then [] else [cur.reverse]
  | '\n' :: cs, cur => dropReturn cur.reverse :: linesFrom cs []
  | c :: cs, cur => linesFrom cs (c :: cur)

/-- The lines of a text. -/
def lines (s : String) : List String := (linesFrom s.toList []).map String.ofList

theorem lines_nil : lines "" = [] := rfl

end FeatureDocs.Text
