import FeatureDocs.Proofs.GlossaryLayout

/-!
# Escaped text reads back

Escaping puts a backslash before each markup character and leaves a backslash as it is, so the
code of a character is not prefix-free: a lone backslash is a prefix of an escaped `*`. It can be
read back all the same, because a markup character is never written without a backslash in front:
a backslash followed by a markup character is always an escape. Escaping with slashes writes a
backslash three times, and there the code is prefix-free.

* `unescapeChars`, `unescape`: read back `escape`;
* `unescapeSlashesChars`, `unescapeWithSlashes`: read back `escapeWithSlashes`;
* `head?_escapeChars_not_mem`: escaped text never starts with a markup character;
* **`escape_decodable`**: both escapings have a left inverse, so distinct spellings give distinct
  lines in the term list and in the glossary block of a glossary.
-/

namespace FeatureDocs.Markup

/-! ## Decoders -/

/-- Read back escaped characters: a backslash before a markup character is dropped, and every
other character, a backslash included, stands for itself. -/
def unescapeChars : List Char → List Char
  | '\\' :: d :: rest =>
    if markupChars.contains d then d :: unescapeChars rest else '\\' :: unescapeChars (d :: rest)
  | c :: rest => c :: unescapeChars rest
  | [] => []

/-- Read back characters escaped with slashes: three backslashes stand for one, a backslash
before another character for that character. -/
def unescapeSlashesChars : List Char → List Char
  | '\\' :: '\\' :: '\\' :: rest => '\\' :: unescapeSlashesChars rest
  | '\\' :: c :: rest => c :: unescapeSlashesChars rest
  | c :: rest => c :: unescapeSlashesChars rest
  | [] => []

/-- The text an escaped text was made from. -/
def unescape (s : String) : String := String.ofList (unescapeChars s.toList)

/-- The text a text escaped with slashes was made from. -/
def unescapeWithSlashes (s : String) : String := String.ofList (unescapeSlashesChars s.toList)

/-! ## Reading back -/

/-- Escaped text never starts with a markup character: that one would have a backslash in
front. -/
theorem head?_escapeChars_not_mem (cs : List Char) {c : Char}
    (h : (escapeChars false cs).head? = some c) : c ∉ markupChars := by
  cases cs with
  | nil => simp [escapeChars] at h
  | cons d cs =>
    rw [escapeChars, List.flatMap_cons] at h
    by_cases hm : d ∈ markupChars
    · rw [escapeChar_of_mem hm] at h
      simp only [List.cons_append, List.head?_cons, Option.some.injEq] at h
      rw [← h]
      decide
    · rw [escapeChar_of_not_mem hm] at h
      simp only [List.cons_append, List.nil_append, List.head?_cons, Option.some.injEq] at h
      exact h ▸ hm

theorem escapeChars_cons (slashes : Bool) (c : Char) (cs : List Char) :
    escapeChars slashes (c :: cs) = escapeChar slashes c ++ escapeChars slashes cs :=
  List.flatMap_cons

theorem unescapeChars_backslash {rest : List Char}
    (h : ∀ c, rest.head? = some c → c ∉ markupChars) :
    unescapeChars ('\\' :: rest) = '\\' :: unescapeChars rest := by
  cases rest with
  | nil => simp [unescapeChars]
  | cons d rest' =>
    rw [unescapeChars.eq_1, if_neg (by simpa using h d rfl)]

theorem unescapeChars_cons_of_ne {c : Char} (hc : c ≠ '\\') (rest : List Char) :
    unescapeChars (c :: rest) = c :: unescapeChars rest :=
  unescapeChars.eq_2 c rest fun _ _ h => absurd h hc

theorem unescapeChars_escapeChars (cs : List Char) : unescapeChars (escapeChars false cs) = cs := by
  induction cs with
  | nil => simp [escapeChars, unescapeChars]
  | cons c cs ih =>
    rw [escapeChars_cons]
    by_cases hm : c ∈ markupChars
    · have hc : markupChars.contains c = true := by simpa using hm
      rw [escapeChar_of_mem hm, List.cons_append, List.cons_append, List.nil_append,
        unescapeChars.eq_1, if_pos hc, ih]
    · rw [escapeChar_of_not_mem hm, List.singleton_append]
      by_cases hb : c = '\\'
      · -- a backslash of the text: the escaped rest does not start with a markup character
        rw [hb, unescapeChars_backslash fun _ => head?_escapeChars_not_mem cs, ih]
      · rw [unescapeChars_cons_of_ne hb, ih]

theorem unescapeSlashesChars_escapeChars (cs : List Char) :
    unescapeSlashesChars (escapeChars true cs) = cs := by
  induction cs with
  | nil => simp [escapeChars, unescapeSlashesChars]
  | cons c cs ih =>
    rw [escapeChars_cons]
    by_cases hb : c = '\\'
    · subst hb
      simp [escapeChar, unescapeSlashesChars, ih]
    · by_cases hm : c ∈ markupChars
      · simp [escapeChar, unescapeSlashesChars, hb, hm, ih]
      · simp [escapeChar, unescapeSlashesChars, hb, hm, ih]

theorem unescape_escape (s : String) : unescape (escape s) = s := by
  simp [unescape, escape, unescapeChars_escapeChars]

theorem unescapeWithSlashes_escapeWithSlashes (s : String) :
    unescapeWithSlashes (escapeWithSlashes s) = s := by
  simp [unescapeWithSlashes, escapeWithSlashes, unescapeSlashesChars_escapeChars]

theorem Document.fragment_injective (breaks indent : Nat) :
    Function.Injective fun line => Document.fragment line breaks indent := by
  intro a b h
  simpa [Document.fragment, String.append_assoc] using h

end FeatureDocs.Markup

namespace FeatureDocs.Render.Glossary

open FeatureDocs.Markup

/-- **Escaped text reads back.** `escape` and `escapeWithSlashes` have left inverses, so distinct
spellings of steps give distinct lines, both in the term list of a glossary and among the
spellings of its glossary block. -/
theorem escape_decodable :
    (∀ s, unescape (escape s) = s) ∧
    (∀ s, unescapeWithSlashes (escapeWithSlashes s) = s) ∧
    Function.Injective termLine ∧
    Function.Injective fun n => Document.fragment (escapeWithSlashes n) 1 indentDepth := by
  have hslashes : Function.Injective escapeWithSlashes :=
    Function.LeftInverse.injective unescapeWithSlashes_escapeWithSlashes
  refine ⟨unescape_escape, unescapeWithSlashes_escapeWithSlashes, fun a b h => ?_,
    (Document.fragment_injective 1 indentDepth).comp hslashes⟩
  -- the term line puts the escaped spelling between a fixed prefix and a backquote
  have hline := Document.fragment_injective 1 0 h
  simp only [String.append_right_inj, String.append_left_inj] at hline
  exact hslashes hline

end FeatureDocs.Render.Glossary
