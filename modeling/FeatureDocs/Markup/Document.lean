import FeatureDocs.Text.Blank

/-!
# Documents

A document is the list of its output fragments; each fragment is one piece of text with its
own indentation and trailing line breaks, and the document's text is their concatenation.

* `addOutput`, `add`, `blankLine`, `createSection`;
* `text`: the concatenation;
* `text_addOutput`: what one fragment adds to the text;
* `fragments_foldl`: the fragments a fold of steps appends.
-/

namespace FeatureDocs.Markup

open FeatureDocs.Text

/-- Spaces per level of indentation. -/
def indentDepth : Nat := 4

/-- The underline character of each section level; levels past the last use the last one, and
level 0 has none. -/
def sectionUnderlines : List String := ["", "=", "-", "~", ".", "*", "+", "_", "<", ">", "/"]

/-- A document under construction: its fragments, in order. -/
structure Document where
  fragments : List String := []
deriving DecidableEq, Repr, Inhabited

namespace Document

/-- The empty document. -/
def empty : Document := {}

/-- The text `n` times over. -/
def repeatText (s : String) (n : Nat) : String := String.join (List.replicate n s)

/-- A fragment: `indent` spaces, the line, then `breaks` line breaks. -/
def fragment (line : String) (breaks indent : Nat) : String :=
  repeatText " " indent ++ line ++ repeatText "\n" breaks

/-- Append a line with `breaks` line breaks after it and `indent` spaces before it. -/
def addOutput (d : Document) (line : String) (breaks indent : Nat) : Document :=
  ⟨d.fragments ++ [fragment line breaks indent]⟩

/-- Append a line followed by one line break. -/
def add (d : Document) (line : String) : Document := d.addOutput line 1 0

/-- Append an empty line. -/
def blankLine (d : Document) : Document := d.add ""

/-- The underline character of a section level. -/
def underlineOf (level : Nat) : String :=
  (sectionUnderlines[level]?).getD "/"

/-- Append a section title and its underline, as wide as the title without trailing blanks,
counted in characters, and followed by an empty line. -/
def createSection (d : Document) (level : Nat) (title : String) : Document :=
  let width := (dropBlankEnd title.toList).length
  (d.add title).addOutput (repeatText (underlineOf level) width) 2 0

/-- The text of the document: its fragments one after the other. -/
def text (d : Document) : String := String.join d.fragments

theorem text_addOutput (d : Document) (line : String) (breaks indent : Nat) :
    (d.addOutput line breaks indent).text = d.text ++ fragment line breaks indent := by
  simp [addOutput, text, String.join]

theorem fragments_addOutput (d : Document) (line : String) (breaks indent : Nat) :
    (d.addOutput line breaks indent).fragments = d.fragments ++ [fragment line breaks indent] :=
  rfl

theorem fragments_foldl {α : Type} (step : Document → α → Document) (out : α → List String)
    (h : ∀ d x, (step d x).fragments = d.fragments ++ out x) (xs : List α) (d : Document) :
    (xs.foldl step d).fragments = d.fragments ++ xs.flatMap out := by
  induction xs generalizing d with
  | nil => simp
  | cons x xs ih => rw [List.foldl_cons, ih, h, List.flatMap_cons, List.append_assoc]

theorem fragments_foldl_addOutput {α : Type} (line : α → String) (breaks indent : Nat)
    (xs : List α) (d : Document) :
    (xs.foldl (fun d x => d.addOutput (line x) breaks indent) d).fragments =
      d.fragments ++ xs.map fun x => fragment (line x) breaks indent := by
  rw [fragments_foldl (fun d x => d.addOutput (line x) breaks indent)
    (fun x => [fragment (line x) breaks indent]) (fun _ _ => rfl), List.map_eq_flatMap]

end Document

end FeatureDocs.Markup
