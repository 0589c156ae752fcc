import FeatureDocs.Render.Page

/-!
# Outline placeholders in bold

A step of a scenario outline names its placeholders in angle brackets, as in
`Given a <kind> user`. The page writes a step escaped and then puts each placeholder in bold,
searching the escaped text for a backslash and `<` followed by the first `>` of the same line.
This module reads the placeholders from the raw text instead, left to right, and shows that the
two agree for every text: escaping puts a backslash before every `<` and `>` of the text, so the
escaped brackets are exactly the raw ones, and it adds no line break.

* `closeOnLine`, `placeholderPieces`, `Piece.render`: the placeholders of a raw text, each
  written as its escaped text in bold;
* `emphasizeFrom_closed`, `emphasizeFrom_unclosed`: the writer inside a placeholder, when the
  line has a `>` left and when it has none;
* **`emphasizeFrom_escapeChars`**: the bold escaped text is the rendering of the raw pieces;
* **`formatStep_unlinked`**: a step without a link is its keyword and its rendered pieces.
-/

namespace FeatureDocs.Render

open FeatureDocs.Feature FeatureDocs.Markup

/-! ## The placeholders of a raw text -/

/-- The text before the first `>` of the line and the text after that `>`; none when the line
or the text ends before a `>`. -/
def closeOnLine : List Char → Option (List Char × List Char)
  | [] => none
  | '>' :: rest => some ([], rest)
  | '\n' :: _ => none
  | c :: rest => (closeOnLine rest).map (Prod.map (c :: ·) id)

theorem closeOnLine_eq_some_iff {cs inner after : List Char} :
    closeOnLine cs = some (inner, after) ↔
      cs = inner ++ '>' :: after ∧ '>' ∉ inner ∧ '\n' ∉ inner := by
  fun_induction closeOnLine cs generalizing inner with
  | case1 => simp
  | case2 rest =>
    cases inner with
    | nil => simp [eq_comm]
    | cons c inner => grind
  | case3 rest => cases inner <;> grind
  | case4 c rest hc hn ih =>
    cases inner with
    | nil =>
      simp
      exact fun h => (hc h).elim
    | cons d inner => simp [ih]; grind

theorem length_lt_of_closeOnLine {cs inner after : List Char}
    (h : closeOnLine cs = some (inner, after)) : after.length < cs.length := by
  obtain ⟨rfl, -⟩ := closeOnLine_eq_some_iff.mp h
  simp only [List.length_append, List.length_cons]
  omega

/-- A piece of a step's text: one character, or a placeholder with the text between its
angle brackets. -/
inductive Piece where
  | char (c : Char)
  | placeholder (inner : List Char)
deriving DecidableEq, Repr

/-- The pieces of a raw text, left to right: a `<` with a `>` after it on the same line opens a
placeholder that runs to the first such `>`, and every other character is a piece of its own. -/
def placeholderPieces (cs : List Char) : List Piece :=
  match cs with
  | [] => []
  | '<' :: rest =>
    match h : closeOnLine rest with
    | some (inner, after) =>
      have := length_lt_of_closeOnLine h
      .placeholder inner :: placeholderPieces after
    | none => .char '<' :: placeholderPieces rest
  | c :: rest => .char c :: placeholderPieces rest
termination_by cs.length
decreasing_by all_goals simp only [List.length_cons]; omega

/-- A piece as the page shows it: a placeholder as its escaped text in bold, a character
escaped. -/
def Piece.render : Piece → List Char
  | .char c => escapeChar false c
  | .placeholder inner => "**".toList ++ escapeChars false ('<' :: inner ++ ['>']) ++ "**".toList

theorem render_placeholder (inner : List Char) :
    (Piece.placeholder inner).render =
      "**\\<".toList ++ escapeChars false inner ++ "\\>**".toList := by
  simp [Piece.render, escapeChars, escapeChar, markupChars]

/-! ## Escaped text -/

theorem head?_escapeChars_ne (cs : List Char) : (escapeChars false cs).head? ≠ some '<' := by
  cases cs with
  | nil => simp [escapeChars]
  | cons c cs =>
    rw [escapeChars, List.flatMap_cons]
    by_cases hm : c ∈ markupChars
    · simp [escapeChar_of_mem hm]
    · have hc : c ≠ '<' := by rintro rfl; exact hm (by decide)
      simp [escapeChar_of_not_mem hm, hc]

/-! ## The writer, character by character -/

theorem emphasizeFrom_none_cons {c : Char} {cs : List Char} (h : c = '\\' → cs.head? ≠ some '<') :
    emphasizeFrom (c :: cs) none = c :: emphasizeFrom cs none := by
  rw [emphasizeFrom.eq_4]
  rintro cs' hc rfl
  exact h hc rfl

theorem emphasizeFrom_append_held {pre : List Char} (h : ∀ d ∈ pre, d ≠ '>' ∧ d ≠ '\n')
    (cs held : List Char) :
    emphasizeFrom (pre ++ cs) (some held) = emphasizeFrom cs (some (pre.reverse ++ held)) := by
  induction pre generalizing held with
  | nil => rfl
  | cons d pre ih =>
    obtain ⟨hd₁, hd₂⟩ := h d List.mem_cons_self
    rw [List.cons_append, emphasizeFrom.eq_7 d _ held hd₁ hd₂,
      ih (fun d hd => h d (List.mem_cons_of_mem _ hd))]
    simp

theorem emphasizeFrom_escapeChar_held {c : Char} (h₁ : c ≠ '>') (h₂ : c ≠ '\n')
    (cs held : List Char) :
    emphasizeFrom (escapeChar false c ++ cs) (some held) =
      emphasizeFrom cs (some ((escapeChar false c).reverse ++ held)) := by
  refine emphasizeFrom_append_held (fun d hd => ?_) cs held
  rcases mem_escapeChar.mp hd with rfl | ⟨rfl, -⟩
  · exact ⟨h₁, h₂⟩
  · decide

theorem emphasizeFrom_escapeChar_none {c : Char} (hc : c ≠ '<') (cs : List Char) :
    emphasizeFrom (escapeChar false c ++ escapeChars false cs) none =
      escapeChar false c ++ emphasizeFrom (escapeChars false cs) none := by
  by_cases hm : c ∈ markupChars
  · -- a backslash the writer copies, then the markup character itself
    have hs : c ≠ '\\' := by rintro rfl; exact absurd hm (by decide)
    rw [escapeChar_of_mem hm, List.cons_append, List.cons_append, List.nil_append,
      emphasizeFrom_none_cons (by simpa using hc), emphasizeFrom_none_cons fun h => (hs h).elim]
    rfl
  · rw [escapeChar_of_not_mem hm, List.singleton_append,
      emphasizeFrom_none_cons fun _ => head?_escapeChars_ne cs]
    rfl

/-! ## Placeholders -/

/-- **A placeholder closed on its line is written in bold**, with what the writer held back in
front of it. -/
theorem emphasizeFrom_closed {rest inner after : List Char}
    (h : closeOnLine rest = some (inner, after)) (held : List Char) :
    emphasizeFrom (escapeChars false rest) (some held) =
      "**\\<".toList ++ held.reverse ++ escapeChars false inner ++ "\\>**".toList ++
        emphasizeFrom (escapeChars false after) none := by
  fun_induction closeOnLine rest generalizing inner held with
  | case1 => simp at h
  | case2 rest =>
    obtain ⟨rfl, rfl⟩ : [] = inner ∧ rest = after := by simpa using h
    show emphasizeFrom ('\\' :: '>' :: escapeChars false rest) (some held) = _
    rw [emphasizeFrom.eq_7 _ _ _ (by decide) (by decide), emphasizeFrom.eq_5]
    simp [escapeChars]
  | case3 rest => simp at h
  | case4 c rest hc hn ih =>
    obtain ⟨inner, hrest, rfl⟩ : ∃ i, closeOnLine rest = some (i, after) ∧ c :: i = inner := by
      simpa using h
    rw [escapeChars, List.flatMap_cons, emphasizeFrom_escapeChar_held hc hn, ← escapeChars,
      ih hrest]
    simp [escapeChars]

/-- **A placeholder left open at the end of its line is written as it stands**, and the writer
goes on after the backslash and `<`. -/
theorem emphasizeFrom_unclosed {rest : List Char} (h : closeOnLine rest = none)
    (held : List Char) :
    emphasizeFrom (escapeChars false rest) (some held) =
      '\\' :: '<' :: held.reverse ++ emphasizeFrom (escapeChars false rest) none := by
  fun_induction closeOnLine rest generalizing held with
  | case1 => simp [escapeChars, emphasizeFrom]
  | case2 rest => simp at h
  | case3 rest =>
    show emphasizeFrom ('\n' :: escapeChars false rest) (some held) =
      _ ++ emphasizeFrom ('\n' :: escapeChars false rest) none
    rw [emphasizeFrom.eq_6, emphasizeFrom_none_cons fun h => absurd h (by decide)]
  | case4 c rest hc hn ih =>
    have hrest : closeOnLine rest = none := by simpa using h
    rw [escapeChars, List.flatMap_cons, emphasizeFrom_escapeChar_held hc hn, ← escapeChars,
      ih hrest]
    by_cases hl : c = '<'
    · subst hl
      show _ = _ ++ emphasizeFrom ('\\' :: '<' :: escapeChars false rest) none
      rw [emphasizeFrom.eq_3, ih hrest]
      simp [escapeChar, markupChars]
    · rw [emphasizeFrom_escapeChar_none hl]
      simp

/-- **The writer's bold placeholders are the placeholders of the raw text**: escaping a text
and putting its placeholders in bold renders its pieces one after another. -/
theorem emphasizeFrom_escapeChars (cs : List Char) :
    emphasizeFrom (escapeChars false cs) none = (placeholderPieces cs).flatMap Piece.render := by
  fun_induction placeholderPieces cs with
  | case1 => rfl
  | case2 rest inner after h _ ih =>
    show emphasizeFrom ('\\' :: '<' :: escapeChars false rest) none = _
    rw [emphasizeFrom.eq_3, emphasizeFrom_closed h, List.flatMap_cons, render_placeholder, ih]
    simp
  | case3 rest h ih =>
    show emphasizeFrom ('\\' :: '<' :: escapeChars false rest) none = _
    rw [emphasizeFrom.eq_3, emphasizeFrom_unclosed h, List.flatMap_cons, ih]
    rfl
  | case4 c rest hc ih =>
    rw [escapeChars, List.flatMap_cons, ← escapeChars, emphasizeFrom_escapeChar_none hc, ih]
    rfl

/-- **A step without a link is its keyword and the rendering of its pieces**: each placeholder
of its name in bold, every other character escaped. -/
theorem formatStep_unlinked (cfg : PageSettings) (s : Step)
    (h : resolveUrl cfg.stepUrl s.name = none) :
    Writer.formatStep cfg s =
      s.keyword ++ " " ++ String.ofList ((placeholderPieces s.name.toList).flatMap Piece.render) := by
  simp only [Writer.formatStep, h]
  rw [emphasizePlaceholders, escape, String.toList_ofList, emphasizeFrom_escapeChars]

theorem formatStep_unlinked_kind :
    let cfg : PageSettings := { rootPath := ⟨"/specs"⟩ }
    let s : Step :=
      { keyword := "Given", stepType := "Given", name := "a <kind> user\\<id> at 1 < 2",
        filename := ⟨"/specs/login.feature"⟩, line := 3 }
    resolveUrl cfg.stepUrl s.name = none ∧
      Writer.formatStep cfg s =
        s.keyword ++ " " ++ String.ofList ((placeholderPieces s.name.toList).flatMap Piece.render) := by
  intro cfg s
  exact ⟨rfl, formatStep_unlinked cfg s rfl⟩

end FeatureDocs.Render
