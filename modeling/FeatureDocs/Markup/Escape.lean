/-!
# Escaping for reStructuredText

Characters that open inline markup, comments or field lists are written with a backslash in
front, so that text from feature files reads back literally.

* `escape`: a backslash before each of `* " # : < >`;
* `escapeWithSlashes`: the same, and each backslash becomes three, for text that is parsed twice
  (glossary terms);
* `hyperlink`: an anonymous embedded link.
-/

namespace FeatureDocs.Markup

/-- The characters that are written with a backslash in front. -/
def markupChars : List Char := ['*', '"', '#', ':', '<', '>']

/-- The delimiter of table cells unless the settings name another: a typographic opening quote,
which feature files do not use, since the table directive cannot escape its own quote. -/
def tableQuote : Char := '“'

/-- One character escaped: a markup character gets a backslash in front; with `slashes`, a
backslash becomes three backslashes. -/
def escapeChar (slashes : Bool) (c : Char) : List Char :=
  if slashes && c == '\\' then ['\\', '\\', '\\']
  else if markupChars.contains c then ['\\', c]
  else [c]

/-- Escaping of a character list. -/
def escapeChars (slashes : Bool) (cs : List Char) : List Char := cs.flatMap (escapeChar slashes)

/-- The text with each markup character preceded by a backslash. -/
def escape (s : String) : String := String.ofList (escapeChars false s.toList)

/-- The text escaped as by `escape`, with each backslash written three times as well. -/
def escapeWithSlashes (s : String) : String := String.ofList (escapeChars true s.toList)

/-- An anonymous embedded hyperlink: the text and the target in angle brackets, in backquotes,
followed by two underscores. -/
def hyperlink (text url : String) : String :=
  String.ofList ('`' :: text.toList ++ " <".toList ++ url.toList ++ ">`__".toList)

theorem escapeChars_append (slashes : Bool) (a b : List Char) :
    escapeChars slashes (a ++ b) = escapeChars slashes a ++ escapeChars slashes b := by
  simp [escapeChars]

theorem escapeChar_of_mem {c : Char} (h : c ∈ markupChars) : escapeChar false c = ['\\', c] := by
  simp [escapeChar, h]

theorem escapeChar_of_not_mem {c : Char} (h : c ∉ markupChars) : escapeChar false c = [c] := by
  simp [escapeChar, h]

theorem mem_escapeChar {c d : Char} :
    d ∈ escapeChar false c ↔ d = c ∨ d = '\\' ∧ c ∈ markupChars := by
  by_cases hm : c ∈ markupChars
  · rw [escapeChar_of_mem hm]
    simp [hm, or_comm]
  · simp [escapeChar_of_not_mem hm, hm]

theorem mem_escape {d : Char} {s : String} :
    d ∈ (escape s).toList ↔ d ∈ s.toList ∨ d = '\\' ∧ ∃ c ∈ s.toList, c ∈ markupChars := by
  simp only [escape, escapeChars, String.toList_ofList, List.mem_flatMap, mem_escapeChar]
  constructor
  · rintro ⟨c, hc, rfl | ⟨rfl, hm⟩⟩
    · exact .inl hc
    · exact .inr ⟨rfl, c, hc, hm⟩
  · rintro (hd | ⟨rfl, c, hc, hm⟩)
    · exact ⟨d, hd, .inl rfl⟩
    · exact ⟨c, hc, .inr ⟨rfl, hm⟩⟩

end FeatureDocs.Markup
