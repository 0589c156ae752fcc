import FeatureDocs.Render.Page

/-!
# Tables as csv-table directives

A table is written as a csv-table directive: the directive, a header option with the quoted
headings, a quote option naming the quote character, and one quoted line per row. A quoted row
is each escaped cell between quotes, the cells separated by a comma and a blank. The directive has
no escape for its own quote, so a line reads back as its cells only when no escaped cell holds the
quote: then the text between the first and last quote, cut at each quote, comma, blank, quote,
gives the escaped cells one by one.

That needs at least one cell. A row of no cells is written as two quotes, and a reader finds one
empty cell in it.

* `splitOnSep`, `decodeRow`: a line cut at a separator, as a csv reader reads it;
* `splitOnSep_intercalate`: a list of pieces without the separator's first character, joined by
  the separator, is cut back into the same pieces;
* `decodeRow_quotedRow`: a quoted row of at least one cell reads back as its escaped cells, and
  `decodeRow_quotedRow_nil`: a row of none reads back as one empty cell;
* **`table_rows_read_back`**: the fragments a table adds, and the cells its lines read back as.
-/

namespace FeatureDocs.Render

open FeatureDocs.Feature FeatureDocs.Markup

/-! ## Cutting a line at a separator -/

/-- The pieces of a text between the occurrences of a separator, found left to right without
overlap: always one piece more than there are occurrences. An empty separator cuts nothing. -/
def splitOnSep (sep : List Char) (cs : List Char) : List (List Char) :=
  match cs with
  | [] => [[]]
  | c :: rest =>
    if h : sep ≠ [] ∧ sep <+: c :: rest then
      have : sep.length ≠ 0 := by simpa using h.1
      [] :: splitOnSep sep ((c :: rest).drop sep.length)
    else (splitOnSep sep rest).modifyHead (c :: ·)
termination_by cs.length
decreasing_by all_goals simp only [List.length_drop, List.length_cons]; omega

theorem splitOnSep_of_not_mem {q : Char} {t e : List Char} (h : q ∉ e) :
    splitOnSep (q :: t) e = [e] := by
  induction e with
  | nil => simp [splitOnSep]
  | cons c e ih =>
    have hc : c ≠ q := fun hc => h (hc ▸ List.mem_cons_self)
    have he : q ∉ e := fun he => h (List.mem_cons_of_mem _ he)
    rw [splitOnSep, dif_neg (by simp [Ne.symm hc]), ih he]
    rfl

theorem splitOnSep_append {q : Char} {t e : List Char} (h : q ∉ e) (rest : List Char) :
    splitOnSep (q :: t) (e ++ q :: t ++ rest) = e :: splitOnSep (q :: t) rest := by
  induction e with
  | nil =>
    rw [List.nil_append, List.cons_append, splitOnSep, dif_pos (by simp)]
    simp
  | cons c e ih =>
    have hc : c ≠ q := fun hc => h (hc ▸ List.mem_cons_self)
    have he : q ∉ e := fun he => h (List.mem_cons_of_mem _ he)
    rw [List.cons_append, List.cons_append, splitOnSep, dif_neg (by simp [Ne.symm hc]), ih he]
    rfl

/-- **Joining and cutting are inverse** on a non-empty list of pieces that do not hold the
separator's first character. -/
theorem splitOnSep_intercalate {q : Char} {t : List Char} {es : List (List Char)} (hne : es ≠ [])
    (h : ∀ e ∈ es, q ∉ e) : splitOnSep (q :: t) ((q :: t).intercalate es) = es := by
  induction es with
  | nil => exact absurd rfl hne
  | cons e es ih =>
    have he : q ∉ e := h e List.mem_cons_self
    cases es with
    | nil => rw [List.intercalate_singleton, splitOnSep_of_not_mem he]
    | cons e' es =>
      rw [List.intercalate_cons_cons, splitOnSep_append he,
        ih (List.cons_ne_nil _ _) fun x hx => h x (List.mem_cons_of_mem _ hx)]

/-! ## Quoted rows -/

/-- A csv-table line read back with quote `q`: the text between its first and last character,
cut at each quote, comma, blank and quote. -/
def decodeRow (line : String) (q : Char) : List String :=
  (splitOnSep [q, ',', ' ', q] line.toList.tail.dropLast).map String.ofList

theorem toList_quotedRow (cells : List String) (q : Char) :
    (quotedRow cells q).toList =
      q :: [q, ',', ' ', q].intercalate (cells.map fun c => (escape c).toList) ++ [q] := by
  simp [quotedRow, String.toList_intercalate, List.map_map, Function.comp_def]

/-- **A quoted row of at least one cell reads back as its escaped cells**, when no escaped cell
holds the quote. -/
theorem decodeRow_quotedRow {cells : List String} {q : Char} (hne : cells ≠ [])
    (h : ∀ c ∈ cells, q ∉ (escape c).toList) :
    decodeRow (quotedRow cells q) q = cells.map escape := by
  have hpieces : ∀ e ∈ cells.map fun c => (escape c).toList, q ∉ e := by
    simpa using h
  rw [decodeRow, toList_quotedRow, List.cons_append, List.tail_cons, List.dropLast_concat,
    splitOnSep_intercalate (by simpa using hne) hpieces, List.map_map]
  simp [Function.comp_def]

theorem decodeRow_quotedRow_of_not_mem {cells : List String} {q : Char} (hq : q ≠ '\\')
    (hne : cells ≠ []) (h : ∀ c ∈ cells, q ∉ c.toList) :
    decodeRow (quotedRow cells q) q = cells.map escape :=
  decodeRow_quotedRow hne fun c hc hmem => (mem_escape.mp hmem).elim (h c hc) fun h' => hq h'.1

/-- A row of no cells is two quotes, and reads back as one empty cell. -/
theorem decodeRow_quotedRow_nil (q : Char) : decodeRow (quotedRow [] q) q = [""] := by
  rw [decodeRow, toList_quotedRow]
  simp [splitOnSep]

/-! ## The directive -/

/-- **The lines of a table**: the directive, the header, the quote and one line per row, the
directive under a step when inline and the rest one level deeper; each line of a non-empty row
reads back as the row's escaped cells when none of them holds the quote. -/
theorem table_rows_read_back (cfg : PageSettings) (w : Writer) (t : Table) (inline : Bool) :
    let indent := if inline then indentDepth else 0
    (Writer.table cfg w t inline).doc.fragments =
      w.doc.fragments ++
        [Document.fragment ".. csv-table::" 1 indent,
          Document.fragment (":header: " ++ quotedRow t.headings cfg.quote) 1 (indent + indentDepth),
          Document.fragment (":quote: " ++ String.singleton cfg.quote) 2 (indent + indentDepth)] ++
        t.rows.map (fun row => Document.fragment (quotedRow row cfg.quote) 1 (indent + indentDepth)) ∧
    (Writer.table cfg w t inline).ctx = w.ctx ∧
    ∀ cells : List String, cells ≠ [] → (∀ c ∈ cells, cfg.quote ∉ (escape c).toList) →
      decodeRow (quotedRow cells cfg.quote) cfg.quote = cells.map escape := by
  intro indent
  refine ⟨?_, rfl, fun cells hne h => decodeRow_quotedRow hne h⟩
  rw [Writer.table, Document.fragments_foldl_addOutput]
  simp [Document.fragments_addOutput, indent]

theorem table_rows_read_back_roles :
    let cfg : PageSettings := { rootPath := ⟨"/specs"⟩ }
    let row := ["ann", "admin: yes"]
    (row ≠ [] ∧ ∀ c ∈ row, cfg.quote ∉ (escape c).toList) ∧
      decodeRow (quotedRow row cfg.quote) cfg.quote = row.map escape := by
  intro cfg row
  have hrow : row ≠ [] ∧ ∀ c ∈ row, cfg.quote ∉ (escape c).toList := ⟨by simp [row], by decide⟩
  exact ⟨hrow, (table_rows_read_back cfg { ctx := {} } { headings := row, rows := [row] } true).2.2
    row hrow.1 hrow.2⟩

/-- A table row with no cells, in the default quote, is read back as one empty cell. -/
theorem empty_row_reads_as_one_cell :
    decodeRow (quotedRow [] tableQuote) tableQuote = [""] :=
  decodeRow_quotedRow_nil tableQuote

end FeatureDocs.Render
