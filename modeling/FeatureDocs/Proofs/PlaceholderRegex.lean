import FeatureDocs.Regex.Template
import FeatureDocs.Proofs.Placeholders

/-!
# Outline placeholders through the regular expression engine

The page puts each escaped outline placeholder in bold with a writer of its own,
`emphasizeFrom`, that reads the text once, left to right. What the writer stands for is the
replacement of every match of the pattern `(\\<.*?>)` by `**$1**`: a backslash and `<`, then as
few characters other than a line break as reach a `>`. This module runs that replacement on the
library's own engine (the pattern is parsed, compiled to a program, and searched for by the Pike
machine from where each match ended) and shows that it writes what the writer writes, for every
text.

The machine is followed on the pattern's program. Before each position it holds at most three
threads: the two of the placeholder whose text is being read (one waiting for `>`, one for any
other character), which absorb those of every later start, and one waiting for the `<` after a
backslash just read. `placeholderSearch` reads the text with exactly that state, and the writer
agrees with it.

* `placeholderRegex`, `parse_placeholderSource`, `program_placeholderRegex`: the pattern and its
  program;
* `placeholderSearch`, `carryPast`: the first placeholder from a position, with the state the
  machine carries past each character;
* `advance_carryPast`, `advance_close`: one step of the machine on each kind of character;
* **`search_placeholderProgram`**: the machine's search from any position is `placeholderSearch`;
* **`writerAgrees_emphasizeFrom`**: the writer's output is the text before the first placeholder,
  the placeholder in bold, and the writer's output on the rest;
* **`replaceAll_placeholderRegex`**, **`parse_map_replaceAll`**: replacing every match is the
  writer.
-/

namespace FeatureDocs.Regex

/-! ## The machine, one position at a time -/

theorem search_of_none (prog : Array Inst) (text : Array Char) (slots pos : Nat)
    (seen : Array Bool) (threads : Array Thread) :
    search prog text slots pos seen threads none =
      let r := advance prog text pos
        (follow prog text pos (prog.size + 1) (seen, threads) 0
          (Array.replicate slots none)).2.toList
        (Array.replicate prog.size false, #[]) none
      if pos < text.size then search prog text slots (pos + 1) r.1.1 r.1.2 r.2 else r.2 := by
  rw [search]
  simp only [Option.isNone_none, if_true, Option.isSome_none, Bool.and_false, Bool.false_eq_true,
    if_false]
  rcases follow prog text pos (prog.size + 1) (seen, threads) 0 (Array.replicate slots none) with
    ⟨_, ts⟩
  rcases advance prog text pos ts.toList (Array.replicate prog.size false, #[]) none with
    ⟨⟨_, _⟩, found⟩
  cases found <;> rfl

theorem search_found (prog : Array Inst) (text : Array Char) (slots pos : Nat) (seen : Array Bool)
    (m : Array (Option Nat)) : search prog text slots pos seen #[] (some m) = some m := by
  rw [search]
  rfl

theorem charAt_of_drop {text : Array Char} {pos : Nat} {c : Char} {cs : List Char}
    (h : text.toList.drop pos = c :: cs) : charAt text pos = some c := by
  rw [charAt, ← Array.getElem?_toList, ← List.head?_drop, h, List.head?_cons]

theorem charAt_of_drop_nil {text : Array Char} {pos : Nat} (h : text.toList.drop pos = []) :
    charAt text pos = none := by
  rw [charAt, ← Array.getElem?_toList, ← List.head?_drop, h, List.head?_nil]

end FeatureDocs.Regex

namespace FeatureDocs.Render

open FeatureDocs.Regex

/-! ## The pattern and its program -/

/-- The placeholder pattern as written: an escaped `<`, then as few characters as possible up
to `>`, all in group 1. -/
def placeholderSource : String := "(\\\\<.*?>)"

/-- The pattern read from `placeholderSource`. -/
def placeholderRegex : Pattern :=
  ⟨.group (some 1) (.concat [.literal '\\' false, .literal '<' false,
    .rep (.dot false) 0 none false, .literal '>' false]), 1, []⟩

theorem parse_placeholderSource : Pattern.parse placeholderSource = .ok placeholderRegex := by
  rfl

/-- The program of the placeholder pattern: the lazy repetition tries `>` (at 7) before another
character (at 5). -/
def placeholderProgram : Array Inst :=
  #[.save 0, .save 2, .test (.literal '\\' false), .test (.literal '<' false), .split 7 5,
    .test (.dot false), .jump 4, .test (.literal '>' false), .save 3, .save 1, .done]

theorem program_placeholderRegex : placeholderRegex.program = placeholderProgram := by
  simp [Pattern.program, placeholderRegex, placeholderProgram, compile, compileSeq, splitFor,
    Term.matchesEmpty]

/-! ## The threads of the machine -/

/-- The capture slots of a thread inside a placeholder that starts at `i`. -/
def openSlots (i : Nat) : Array (Option Nat) := #[some i, none, some i, none]

/-- The capture slots of a placeholder from `i` up to `e`, as whole match and as group 1. -/
def matchSlots (i e : Nat) : Array (Option Nat) := #[some i, some e, some i, some e]

/-- The threads alive before a position: those of the placeholder whose text is being read, if
any, and the one of a backslash waiting for its `<`, if any. -/
def liveThreads (body pending : Option Nat) : Array Thread :=
  (match body with | some i => #[⟨7, openSlots i⟩, ⟨5, openSlots i⟩] | none => #[]) ++
  (match pending with | some k => #[⟨3, openSlots k⟩] | none => #[])

/-- The program points of a new start are not visited yet at this position. -/
def StartUnvisited (seen : Array Bool) : Prop :=
  seen[0]? = some false ∧ seen[1]? = some false ∧ seen[2]? = some false

theorem follow_start (text : Array Char) (pos : Nat) {seen : Array Bool} (hs : StartUnvisited seen)
    (out : Array Thread) :
    (follow placeholderProgram text pos (placeholderProgram.size + 1) (seen, out) 0
      (Array.replicate 4 none)).2 = out.push ⟨2, openSlots pos⟩ := by
  obtain ⟨h0, h1, h2⟩ := hs
  simp [follow, placeholderProgram, h0, h1, h2, Array.getElem?_setIfInBounds_ne]
  rfl

/-! ## The search it performs -/

/-- The state carried past a character other than a `>` that closes a placeholder: a line break
ends everything, a `<` opens a placeholder after a waiting backslash unless one is open already,
and a backslash waits for its `<`. -/
def carryPast (pos : Nat) (body pending : Option Nat) : Char → Option Nat × Option Nat
  | '\n' => (none, none)
  | '<' => (body <|> pending, none)
  | '\\' => (body, some pos)
  | _ => (body, none)

/-- The span of the first placeholder found reading `cs` from position `pos`, where `body` is the
start of the placeholder whose text is being read and `pending` the position of a backslash just
read. -/
def placeholderSearch (pos : Nat) (body pending : Option Nat) : List Char → Option (Nat × Nat)
  | [] => none
  | c :: cs =>
    match body, c with
    | some i, '>' => some (i, pos + 1)
    | _, _ =>
      placeholderSearch (pos + 1) (carryPast pos body pending c).1 (carryPast pos body pending c).2
        cs

theorem placeholderSearch_cons {c : Char} (pos : Nat) {body : Option Nat} (pending : Option Nat)
    (cs : List Char) (hclose : ∀ i, body = some i → c ≠ '>') :
    placeholderSearch pos body pending (c :: cs) =
      placeholderSearch (pos + 1) (carryPast pos body pending c).1
        (carryPast pos body pending c).2 cs := by
  cases body with
  | none => rfl
  | some i =>
    rw [placeholderSearch]
    exact fun j hj => hclose j hj

theorem char_placeholder_cases (c : Char) :
    (('>' == c) = false ∧ (c != '\n') = true ∧ ('<' == c) = false ∧ ('\\' == c) = false) ∨
      c = '>' ∨ c = '\n' ∨ c = '<' ∨ c = '\\' := by
  by_cases h₁ : c = '>'; · exact .inr (.inl h₁)
  by_cases h₂ : c = '\n'; · exact .inr (.inr (.inl h₂))
  by_cases h₃ : c = '<'; · exact .inr (.inr (.inr (.inl h₃)))
  by_cases h₄ : c = '\\'; · exact .inr (.inr (.inr (.inr h₄)))
  refine .inl ⟨?_, ?_, ?_, ?_⟩
  · simpa using Ne.symm h₁
  · simpa using h₂
  · simpa using Ne.symm h₃
  · simpa using Ne.symm h₄

theorem carryPast_other {c : Char} (pos : Nat) (body pending : Option Nat)
    (h₂ : (c != '\n') = true) (h₃ : ('<' == c) = false) (h₄ : ('\\' == c) = false) :
    carryPast pos body pending c = (body, none) := by
  unfold carryPast
  split <;> simp_all

/-- **One step of the machine.** On any character but a `>` that closes the placeholder being
read, the live threads move to those of the state carried past it. -/
theorem advance_carryPast {text : Array Char} {pos : Nat} {c : Char}
    (hc : charAt text pos = some c) (body pending : Option Nat)
    (hclose : ∀ i, body = some i → c ≠ '>') :
    ∃ seen, StartUnvisited seen ∧ advance placeholderProgram text pos
      ((liveThreads body pending).push ⟨2, openSlots pos⟩).toList
      (Array.replicate placeholderProgram.size false, #[]) none =
      ((seen, liveThreads (carryPast pos body pending c).1 (carryPast pos body pending c).2),
        none) := by
  rcases char_placeholder_cases c with ⟨h₁, h₂, h₃, h₄⟩ | rfl | rfl | rfl | rfl
  -- a character none of the tests singles out keeps the placeholder and forgets the backslash
  rw [carryPast_other pos body pending h₂ h₃ h₄]
  -- every case is computed through, but a `>` that would close a placeholder
  all_goals
    cases body <;> cases pending <;>
    first
    | exact absurd rfl (hclose _ rfl)
    | simp only [liveThreads, advance, placeholderProgram, List.getElem?_toArray,
        List.getElem?_cons_succ, List.getElem?_cons_zero, Array.toList_append, List.cons_append,
        List.nil_append, Array.toList_push, Test.accepts, *]
      exact ⟨_, ⟨rfl, rfl, rfl⟩, rfl⟩

/-- On the `>` that closes the placeholder being read, a thread reaches the end of the program
first, ahead of the placeholder's own threads. -/
theorem advance_close {text : Array Char} {pos : Nat} (hc : charAt text pos = some '>') (i : Nat)
    (pending : Option Nat) :
    ∃ seen, StartUnvisited seen ∧ advance placeholderProgram text pos
      ((liveThreads (some i) pending).push ⟨2, openSlots pos⟩).toList
      (Array.replicate placeholderProgram.size false, #[]) none =
      ((seen, #[⟨10, matchSlots i (pos + 1)⟩, ⟨7, openSlots i⟩, ⟨5, openSlots i⟩]), none) := by
  cases pending <;>
  · simp only [liveThreads, advance, hc, placeholderProgram, List.getElem?_toArray,
      List.getElem?_cons_succ, List.getElem?_cons_zero, Array.toList_append, List.cons_append,
      List.nil_append, Array.toList_push]
    exact ⟨_, ⟨rfl, rfl, rfl⟩, rfl⟩

theorem advance_end {text : Array Char} {pos : Nat} (hc : charAt text pos = none)
    (body pending : Option Nat) :
    (advance placeholderProgram text pos ((liveThreads body pending).push ⟨2, openSlots pos⟩).toList
      (Array.replicate placeholderProgram.size false, #[]) none).2 = none := by
  cases body <;> cases pending <;>
  · simp only [liveThreads, advance, hc, placeholderProgram, List.getElem?_toArray,
      List.getElem?_cons_succ, List.getElem?_cons_zero, Array.toList_append, List.cons_append,
      List.nil_append, Array.toList_push]

theorem search_closing (text : Array Char) (pos : Nat) {seen : Array Bool}
    (hs : StartUnvisited seen) (i e : Nat) :
    search placeholderProgram text 4 pos seen
      #[⟨10, matchSlots i e⟩, ⟨7, openSlots i⟩, ⟨5, openSlots i⟩] none = some (matchSlots i e) := by
  rw [search_of_none, follow_start text pos hs]
  dsimp only
  split
  · exact search_found _ _ _ _ _ _
  · rfl

/-- **The machine's search is `placeholderSearch`**: from any position, with any live threads
of the placeholder program, the match the machine reports is the span the search finds. -/
theorem search_placeholderProgram (text : Array Char) (pos : Nat) {seen : Array Bool}
    (hs : StartUnvisited seen) (body pending : Option Nat) :
    search placeholderProgram text 4 pos seen (liveThreads body pending) none =
      (placeholderSearch pos body pending (text.toList.drop pos)).map
        fun (i, e) => matchSlots i e := by
  generalize hcs : text.toList.drop pos = cs
  -- induction on the text left, each step being one position of the machine
  induction cs generalizing pos seen body pending with
  | nil =>
    have hend : ¬ pos < text.size := by
      rw [List.drop_eq_nil_iff, Array.length_toList] at hcs
      omega
    rw [search_of_none, follow_start text pos hs, if_neg hend, advance_end (charAt_of_drop_nil hcs)]
    rfl
  | cons c cs ih =>
    have hc := charAt_of_drop hcs
    have hlt : pos < text.size := by
      have hlen := congrArg List.length hcs
      rw [List.length_drop, Array.length_toList, List.length_cons] at hlen
      omega
    have hrest : text.toList.drop (pos + 1) = cs := by rw [← List.tail_drop, hcs, List.tail_cons]
    rw [search_of_none, follow_start text pos hs, if_pos hlt]
    by_cases hclose : ∃ i, body = some i ∧ c = '>'
    · obtain ⟨i, rfl, rfl⟩ := hclose
      obtain ⟨seen', hs', hadv⟩ := advance_close hc i pending
      rw [hadv]
      exact search_closing text (pos + 1) hs' i (pos + 1)
    · simp only [not_exists, not_and] at hclose
      obtain ⟨seen', hs', hadv⟩ := advance_carryPast hc body pending hclose
      rw [hadv, placeholderSearch_cons pos pending cs hclose]
      exact ih (pos + 1) hs' _ _ hrest

theorem capturesFrom_placeholderRegex (text : Array Char) (start : Nat) :
    placeholderRegex.capturesFrom? text start =
      (placeholderSearch start none none (text.toList.drop start)).map fun (i, e) =>
        #[some (i, e), some (i, e)] := by
  have hfresh : StartUnvisited (Array.replicate placeholderProgram.size false) := ⟨rfl, rfl, rfl⟩
  have hrun := search_placeholderProgram text start hfresh none none
  simp only [Pattern.capturesFrom?, program_placeholderRegex]
  rw [show 2 * (placeholderRegex.groups + 1) = 4 from rfl,
    show (#[] : Array Thread) = liveThreads none none from rfl, hrun, Option.map_map]
  cases placeholderSearch start none none (text.toList.drop start) with
  | none => rfl
  | some span =>
    obtain ⟨i, e⟩ := span
    simp [Pattern.spansOf, matchSlots, placeholderRegex, show Array.range 2 = #[0, 1] from rfl]

/-! ## The search and the writer -/

theorem carryPast_body (pos b : Nat) (pending : Option Nat) (c : Char) :
    carryPast pos (some b) pending c = carryPast pos (some b) none c := by
  unfold carryPast; split <;> rfl

theorem carryPast_pending {c : Char} (pos k : Nat) (h : c ≠ '<') :
    carryPast pos none (some k) c = carryPast pos none none c := by
  unfold carryPast; split <;> first | rfl | exact absurd rfl h

theorem carryPast_none {c : Char} (pos : Nat) (h : c ≠ '\\') :
    carryPast pos none none c = (none, none) := by
  unfold carryPast; split <;> first | rfl | exact absurd rfl h

theorem placeholderSearch_none_cons (pos : Nat) (pending : Option Nat) (c : Char)
    (cs : List Char) :
    placeholderSearch pos none pending (c :: cs) =
      placeholderSearch (pos + 1) (carryPast pos none pending c).1
        (carryPast pos none pending c).2 cs :=
  rfl

theorem placeholderSearch_body_pending (pos b : Nat) (pending : Option Nat) (cs : List Char) :
    placeholderSearch pos (some b) pending cs = placeholderSearch pos (some b) none cs := by
  cases cs with
  | nil => rfl
  | cons c cs =>
    by_cases hc : c = '>'
    · subst hc; rfl
    · have hclose : ∀ i, some b = some i → c ≠ '>' := fun _ _ => hc
      rw [placeholderSearch_cons pos pending cs hclose, placeholderSearch_cons pos none cs hclose,
        carryPast_body]

theorem placeholderSearch_body_append {inner : List Char} (h : ∀ d ∈ inner, d ≠ '>' ∧ d ≠ '\n')
    (pos b : Nat) (pending : Option Nat) (rest : List Char) :
    placeholderSearch pos (some b) pending (inner ++ rest) =
      placeholderSearch (pos + inner.length) (some b) none rest := by
  induction inner generalizing pos pending with
  | nil => exact placeholderSearch_body_pending pos b pending rest
  | cons d inner ih =>
    obtain ⟨hd₁, hd₂⟩ := h d List.mem_cons_self
    have hnext : (carryPast pos (some b) pending d).1 = some b := by
      unfold carryPast; split <;> first | rfl | exact absurd rfl hd₂
    rw [List.cons_append, placeholderSearch_cons pos pending _ fun _ _ => hd₁, hnext,
      ih (fun d hd => h d (List.mem_cons_of_mem _ hd)), List.length_cons, Nat.add_right_comm,
      Nat.add_assoc]

theorem placeholderSearch_open (pos : Nat) (cs : List Char) :
    placeholderSearch pos none none ('\\' :: '<' :: cs) =
      placeholderSearch (pos + 2) (some pos) none cs :=
  rfl

theorem placeholderSearch_plain {c : Char} {cs : List Char} (pos : Nat)
    (h : c = '\\' → cs.head? ≠ some '<') :
    placeholderSearch pos none none (c :: cs) = placeholderSearch (pos + 1) none none cs := by
  rw [placeholderSearch_none_cons]
  by_cases hs : c = '\\'
  · -- a backslash not followed by `<` is forgotten at the next character
    subst hs
    cases cs with
    | nil => rfl
    | cons d ds =>
      have hd : d ≠ '<' := fun hd => h rfl (by rw [hd]; rfl)
      show placeholderSearch (pos + 1) none (some pos) (d :: ds) = _
      rw [placeholderSearch_none_cons, placeholderSearch_none_cons, carryPast_pending _ _ hd]
  · rw [carryPast_none pos hs]

/-- The writer's output `out` on the text `cs`, read from position `pos`, agrees with the span
found there: it is the text itself when none was found, and otherwise the text before the
placeholder, the placeholder in bold, and the writer's output on what follows it. -/
def WriterAgrees (pos : Nat) (cs : List Char) : Option (Nat × Nat) → List Char → Prop
  | none, out => out = cs
  | some (i, e), out => ∃ pre inner post,
      cs = pre ++ '\\' :: '<' :: inner ++ '>' :: post ∧ i = pos + pre.length ∧
        e = i + inner.length + 3 ∧
        out = pre ++ "**\\<".toList ++ inner ++ ">**".toList ++ emphasizeFrom post none

theorem WriterAgrees.prepend {pos : Nat} {cs : List Char} {r : Option (Nat × Nat)}
    {out : List Char} (pfx : List Char) (h : WriterAgrees (pos + pfx.length) cs r out) :
    WriterAgrees pos (pfx ++ cs) r (pfx ++ out) := by
  match r, h with
  | none, h => exact congrArg (pfx ++ ·) h
  | some (i, e), ⟨pre, inner, post, hcs, hi, he, hout⟩ =>
    refine ⟨pfx ++ pre, inner, post, ?_, ?_, he, ?_⟩
    · simp [hcs]
    · rw [hi, List.length_append, Nat.add_assoc]
    · simp [hout]

/-- A text is a line's worth of characters other than `>`, then the end of the text, a `>` or a
line break. -/
theorem exists_lineEnd_split (cs : List Char) :
    ∃ inner, (∀ d ∈ inner, d ≠ '>' ∧ d ≠ '\n') ∧
      (cs = inner ∨ (∃ post, cs = inner ++ '>' :: post) ∨ ∃ post, cs = inner ++ '\n' :: post) := by
  induction cs with
  | nil => exact ⟨[], by simp, .inl rfl⟩
  | cons c cs ih =>
    by_cases h₁ : c = '>'
    · exact ⟨[], by simp, .inr (.inl ⟨cs, by simp [h₁]⟩)⟩
    by_cases h₂ : c = '\n'
    · exact ⟨[], by simp, .inr (.inr ⟨cs, by simp [h₂]⟩)⟩
    obtain ⟨inner, hinner, hcs⟩ := ih
    refine ⟨c :: inner, ?_, ?_⟩
    · intro d hd
      rcases List.mem_cons.mp hd with rfl | hd
      · exact ⟨h₁, h₂⟩
      · exact hinner d hd
    · rcases hcs with rfl | ⟨post, rfl⟩ | ⟨post, rfl⟩
      · exact .inl rfl
      · exact .inr (.inl ⟨post, rfl⟩)
      · exact .inr (.inr ⟨post, rfl⟩)

theorem open_or_plain (cs : List Char) :
    cs = [] ∨ (∃ rest, cs = '\\' :: '<' :: rest) ∨
      ∃ c rest, cs = c :: rest ∧ (c = '\\' → rest.head? ≠ some '<') := by
  rcases cs with _ | ⟨c, rest⟩
  · exact .inl rfl
  by_cases h : c = '\\' ∧ rest.head? = some '<'
  · obtain ⟨rfl, hr⟩ := h
    obtain ⟨r, rfl⟩ : ∃ r, rest = '<' :: r := by
      cases rest with
      | nil => cases hr
      | cons d r => cases hr; exact ⟨r, rfl⟩
    exact .inr (.inl ⟨r, rfl⟩)
  · exact .inr (.inr ⟨c, rest, rfl, fun hc hr => h ⟨hc, hr⟩⟩)

/-- **The writer follows the search.** On any text, the writer's output is the text when the
search finds no placeholder, and otherwise the text before the first placeholder, that
placeholder in bold, and the writer's output on the rest. -/
theorem writerAgrees_emphasizeFrom (cs : List Char) (pos : Nat) :
    WriterAgrees pos cs (placeholderSearch pos none none cs) (emphasizeFrom cs none) := by
  rcases open_or_plain cs with rfl | ⟨rest, rfl⟩ | ⟨c, rest, rfl, hc⟩
  · exact rfl
  · rw [placeholderSearch_open, emphasizeFrom.eq_3]
    obtain ⟨inner, hinner, rfl | ⟨post, rfl⟩ | ⟨post, rfl⟩⟩ := exists_lineEnd_split rest
    · -- the text ends inside the placeholder
      have hs := placeholderSearch_body_append hinner (pos + 2) pos none []
      have he := emphasizeFrom_append_held hinner [] []
      rw [List.append_nil] at hs he
      rw [hs, he, emphasizeFrom.eq_2]
      exact congrArg (fun l => '\\' :: '<' :: l) (by simp)
    · -- the placeholder closes on its line
      rw [placeholderSearch_body_append hinner, emphasizeFrom_append_held hinner]
      refine ⟨[], inner, post, rfl, by simp, by simp; omega, ?_⟩
      rw [emphasizeFrom.eq_5]
      simp
    · -- a line break comes first: the search starts over after it
      rw [placeholderSearch_body_append hinner, emphasizeFrom_append_held hinner]
      have hnext : placeholderSearch (pos + 2 + inner.length) (some pos) none ('\n' :: post) =
          placeholderSearch (pos + 2 + inner.length + 1) none none post := rfl
      rw [hnext, emphasizeFrom.eq_6,
        show pos + 2 + inner.length + 1 = pos + (inner.length + 3) by omega]
      have ih := writerAgrees_emphasizeFrom post (pos + (inner.length + 3))
      have := WriterAgrees.prepend ('\\' :: '<' :: inner ++ ['\n']) (by simpa using ih)
      simpa using this
  · rw [placeholderSearch_plain pos hc, emphasizeFrom_none_cons hc]
    exact WriterAgrees.prepend [c] (writerAgrees_emphasizeFrom rest (pos + 1))
termination_by cs.length

/-! ## Replacing every placeholder -/

theorem expand_bold (s : String) (i e : Nat) :
    (Captures.ofSpans placeholderRegex s #[some (i, e), some (i, e)]).expand "**$1**" =
      "**" ++ String.ofList ((s.toList.drop i).take (e - i)) ++ "**" := by
  rw [Captures.expand, show "**$1**".length + 1 = 7 from rfl,
    show "**$1**".toList = ['*', '*', '$', '1', '*', '*'] from rfl]
  simp [Captures.expandChars, Captures.ofSpans, Captures.lookup, GroupRef.ofText, indexValue,
    digitsValue, isRefChar]
  apply String.toList_injective
  simp

theorem replaceMatches_placeholderRegex (s : String) (start : Nat) (ended : Bool) :
    placeholderRegex.replaceMatches s "**$1**" start
        (placeholderRegex.matchesFrom s.toList.toArray start ended) =
      String.ofList (emphasizeFrom (s.toList.drop start) none) := by
  have hag := writerAgrees_emphasizeFrom (s.toList.drop start) start
  have hcap := capturesFrom_placeholderRegex s.toList.toArray start
  rw [List.toList_toArray] at hcap
  generalize placeholderSearch start none none (s.toList.drop start) = r at hag hcap
  match r, hag with
  | none, hag =>
    rw [Pattern.matchesFrom, hcap]
    simp only [Option.map_none]
    rw [Pattern.replaceMatches, hag]
  | some (i, e), ⟨pre, inner, post, hcs, hi, he, hout⟩ =>
    -- the text from `start` on: what comes before the placeholder, the placeholder, the rest
    have hsplit : s.toList.drop start = pre ++ (('\\' :: '<' :: inner ++ ['>']) ++ post) := by
      rw [hcs]; simp
    have hlen := congrArg List.length hsplit
    simp only [List.length_drop, List.length_append, List.length_cons, List.length_nil,
      String.length_toList] at hlen
    have hpre : (s.toList.drop start).take (i - start) = pre := by
      rw [hsplit, List.take_left' (by omega)]
    have hmid : (s.toList.drop i).take (e - i) = '\\' :: '<' :: inner ++ ['>'] := by
      rw [hi, ← List.drop_drop, hsplit, List.drop_left' rfl, List.take_left' (by simp; omega)]
    have hpost : s.toList.drop e = post := by
      rw [show e = start + (pre.length + (inner.length + 3)) by omega, ← List.drop_drop, hsplit,
        ← List.append_assoc, List.drop_left' (by simp)]
    -- the match is not empty and ends inside the text, so the search goes on at its end
    have hwhole : wholeSpan #[some (i, e), some (i, e)] = some (i, e) := rfl
    have hne : (some (i, e) == some (start, start)) = false := by
      rw [beq_eq_false_iff_ne]
      intro h
      cases h
      omega
    have hguard : start < e ∧ e ≤ s.toList.toArray.size := by
      rw [List.size_toArray, String.length_toList]
      omega
    have hdec : s.length - e < s.length - start := by omega
    rw [Pattern.matchesFrom, hcap]
    simp only [Option.map_some, hwhole, hne, Bool.and_false, Bool.false_eq_true, if_false,
      if_pos (Or.inl hguard)]
    rw [Pattern.replaceMatches, hwhole]
    dsimp only
    rw [hpre, expand_bold, hmid, replaceMatches_placeholderRegex s e true, hpost, hout]
    apply String.toList_injective
    simp
termination_by s.length - start

/-- **Putting outline placeholders in bold is replacing every match of the placeholder
pattern** by its group between bold markers. -/
theorem replaceAll_placeholderRegex (s : String) :
    placeholderRegex.replaceAll s "**$1**" = emphasizePlaceholders s := by
  rw [Pattern.replaceAll, replaceMatches_placeholderRegex, List.drop_zero, emphasizePlaceholders]

/-- **The pattern as written, parsed and run by the engine, replaces as the writer writes.** -/
theorem parse_map_replaceAll (s : String) :
    (Pattern.parse placeholderSource).map (fun p => p.replaceAll s "**$1**") =
      .ok (emphasizePlaceholders s) := by
  rw [parse_placeholderSource, ← replaceAll_placeholderRegex]
  rfl

end FeatureDocs.Render
