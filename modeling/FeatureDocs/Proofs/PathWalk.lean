import FeatureDocs.Proofs.VolumeFrame

/-!
# Walking along a path

A walk along a path takes its steps one by one: a name enters the entry of that name, `..` goes
back to the directory before, and `.` stays. Where every directory the walk enters by a name is
there, it ends where the lexical walk over the same steps ends (`lexEnd`) without reading the
volume, and that is the location `Path.absoluteNames` gives the path. On a volume without links,
what a path names is thus read off the locations it enters (`Path.entered`): the path names a
directory exactly when they are all directories, a name appended to it is read and written in
that directory, and making the path's directories changes those locations only.

* `lexEnd`, `lexEntered`, `Path.steps`, `Path.entered`: the lexical walk along a path;
* `Path.absoluteNames_eq_lexEnd`, `Path.steps_push`, `Path.entered_parent?`: what making a path
  absolute, appending a name and taking the parent make of its steps;
* `walk_append_of_entered`, `entered_of_walk_dir`, `entered_of_walk_missing`: walks along steps
  through directories;
* `resolve_push`, `readFile_push`, `writeFile_push`: a name in the directory a path names;
* **`isDir_iff_entered`**, **`makeDirs_entered`**: the directory a path names, and making it.
-/

namespace FeatureDocs.Store

/-! ## The lexical walk -/

/-- Where a walk over `steps` from `cur` ends when the volume is not read: `.` stays where it is
and `..` drops the last name. -/
def lexEnd : Location → List String → Location
  | cur, [] => cur
  | cur, "." :: rest => lexEnd cur rest
  | cur, ".." :: rest => lexEnd cur.dropLast rest
  | cur, name :: rest => lexEnd (cur ++ [name]) rest

/-- The locations such a walk goes into by a name, in order. -/
def lexEntered : Location → List String → List Location
  | _, [] => []
  | cur, "." :: rest => lexEntered cur rest
  | cur, ".." :: rest => lexEntered cur.dropLast rest
  | cur, name :: rest => (cur ++ [name]) :: lexEntered (cur ++ [name]) rest

theorem lexEnd_name {name : String} (h1 : name ≠ ".") (h2 : name ≠ "..") (cur : Location)
    (rest : List String) : lexEnd cur (name :: rest) = lexEnd (cur ++ [name]) rest := by
  rw [lexEnd.eq_4] <;> assumption

theorem lexEntered_name {name : String} (h1 : name ≠ ".") (h2 : name ≠ "..") (cur : Location)
    (rest : List String) :
    lexEntered cur (name :: rest) = (cur ++ [name]) :: lexEntered (cur ++ [name]) rest := by
  rw [lexEntered.eq_4] <;> assumption

theorem lexEnd_append (cur : Location) (ss rest : List String) :
    lexEnd cur (ss ++ rest) = lexEnd (lexEnd cur ss) rest := by
  induction cur, ss using lexEnd.induct with
  | case1 cur => rfl
  | case2 cur ss ih => exact ih
  | case3 cur ss ih => exact ih
  | case4 cur name ss h1 h2 ih =>
    rw [List.cons_append, lexEnd_name h1 h2, lexEnd_name h1 h2, ih]

theorem lexEntered_append (cur : Location) (ss rest : List String) :
    lexEntered cur (ss ++ rest) = lexEntered cur ss ++ lexEntered (lexEnd cur ss) rest := by
  induction cur, ss using lexEntered.induct with
  | case1 cur => rfl
  | case2 cur ss ih => exact ih
  | case3 cur ss ih => exact ih
  | case4 cur name ss h1 h2 ih =>
    rw [List.cons_append, lexEntered_name h1 h2, lexEntered_name h1 h2, lexEnd_name h1 h2, ih,
      List.cons_append]

example : lexEntered ["work"] ["specs", "..", "..", "out"] = [["work", "specs"], ["out"]] := by
  decide

/-! ## The steps of a path -/

namespace Path

/-- The steps of a path after its head: its names and `..`, in order. -/
def steps (p : Path) : List String := p.bodyPieces.filter fun s => s != "" && s != "."

/-- Where a walk along a path starts: at the top for an absolute path, at `cwd` otherwise. -/
def start (cwd : Location) (p : Path) : Location := if p.isAbsolute then [] else cwd

/-- The locations a walk along a path enters by a name. -/
def entered (cwd : Location) (p : Path) : List Location := lexEntered (p.start cwd) p.steps

theorem filter_step_cons {s : String} (hs : s = "" ∨ s = ".") (r : List String) :
    (s :: r).filter (fun s => s != "" && s != ".") = r.filter fun s => s != "" && s != "." := by
  rcases hs with rfl | rfl <;> rfl

theorem pieces_of_isAbsolute {p : Path} (h : p.isAbsolute = true) :
    ∃ s r, p.pieces = "" :: s :: r := by
  simp only [isAbsolute, beq_iff_eq, List.head?_eq_some_iff] at h
  obtain ⟨cs, hcs⟩ := h
  obtain ⟨s, r, hsr⟩ := List.exists_cons_of_ne_nil (List.splitOn_ne_nil '/' cs)
  refine ⟨String.ofList s, r.map String.ofList, ?_⟩
  simp [pieces, hcs, List.splitOn_cons_eq_if_modifyHead, hsr]

theorem isAbsolute_of_pieces {p : Path} {s : String} {r : List String}
    (h : p.pieces = "" :: s :: r) : p.isAbsolute = true := by
  simp only [pieces] at h
  cases hc : p.text.toList with
  | nil => simp [hc] at h
  | cons c cs =>
    by_cases hsep : c = '/'
    · simp [isAbsolute, hc, hsep]
    · obtain ⟨q, qs, hq⟩ := List.exists_cons_of_ne_nil (List.splitOn_ne_nil '/' cs)
      have hne : (c == '/') = false := by simpa using hsep
      simp [hc, List.splitOn_cons_eq_if_modifyHead, hne, hq] at h

theorem pieces_of_headComponent {p : Path} {c : Component} (h : p.headComponent = some c) :
    ∃ s r, p.pieces = s :: r ∧ (s = "" ∨ s = ".") := by
  unfold headComponent at h
  split at h
  · next s r heq => exact ⟨"", s :: r, heq, .inl rfl⟩
  · next r heq => exact ⟨".", r, heq, .inr rfl⟩
  · cases h

theorem filter_drop_pieces (p : Path) :
    (p.pieces.drop (if p.isAbsolute then 1 else 0)).filter (fun s => s != "" && s != ".") =
      p.steps := by
  unfold steps bodyPieces
  cases habs : p.isAbsolute with
  | true =>
    obtain ⟨s, r, hp⟩ := pieces_of_isAbsolute habs
    cases p.headComponent <;>
      simp only [hp, if_true, List.drop_one, List.tail_cons, filter_step_cons (.inl rfl)]
  | false =>
    cases hc : p.headComponent with
    | none => rfl
    | some c =>
      obtain ⟨s, r, hp, hs⟩ := pieces_of_headComponent hc
      simp only [hp, Bool.false_eq_true, if_false, List.drop_zero, List.drop_one, List.tail_cons,
        filter_step_cons hs]

private theorem getLast?_of_drop {ps : List String} {i : Nat} {last : String}
    (h : (ps.drop i).getLast? = some last) : ps.getLast? = some last := by
  rw [List.getLast?_drop] at h
  split at h
  · cases h
  · exact h

/-- The steps a walk takes along a path: its own, and a final `.` when its last piece is empty
or `.`, that is, when it ends in a separator or in `.`. -/
theorem walkSteps_text (p : Path) :
    walkSteps p.text = p.steps ∨
      (p.steps ≠ [] ∧ walkSteps p.text = p.steps ++ ["."] ∧
        ∃ last, p.pieces.getLast? = some last ∧ (last = "" ∨ last = ".")) := by
  have hmk : Path.mk p.text = p := rfl
  unfold walkSteps
  simp only [hmk, filter_drop_pieces]
  split
  · next last hlast =>
    replace hlast := getLast?_of_drop hlast
    split
    · next h =>
      simp only [Bool.and_eq_true, Bool.or_eq_true, beq_iff_eq, Bool.not_eq_true',
        List.isEmpty_eq_false_iff] at h
      exact .inr ⟨h.2, rfl, last, hlast, h.1⟩
    · exact .inl rfl
  · exact .inl rfl

section Fold

/- `absoluteNames` folds the components with a step that drops a name for `..`, appends a name and
leaves the location alone for the head. -/
variable {f : Location → Component → Location}

/-- Folding the components of a body as `absoluteNames` does is the lexical walk over its steps. -/
theorem foldl_filterMap_pieceComponent (hparent : ∀ acc, f acc .parent = acc.dropLast)
    (hnormal : ∀ acc n, f acc (.normal n) = acc ++ [n]) (ps : List String) (acc : Location) :
    (ps.filterMap pieceComponent).foldl f acc =
      lexEnd acc (ps.filter fun s => s != "" && s != ".") := by
  induction ps generalizing acc with
  | nil => rfl
  | cons s ps ih =>
    by_cases hs : s = "" ∨ s = "."
    · rw [filter_step_cons hs, List.filterMap_cons, pieceComponent, if_pos hs]
      exact ih acc
    by_cases hp : s = ".."
    · subst hp
      rw [List.filterMap_cons, pieceComponent, if_neg (by simp), if_pos rfl, List.foldl_cons,
        hparent]
      exact ih _
    simp only [not_or] at hs
    have hkeep : (s != "" && s != ".") = true := by simp [hs.1, hs.2]
    rw [List.filterMap_cons, pieceComponent, if_neg (by simp [hs.1, hs.2]), if_neg hp]
    simp only [List.filter_cons, hkeep, if_true, lexEnd_name hs.2 hp, List.foldl_cons, hnormal]
    exact ih _

theorem foldl_headComponent (hroot : ∀ acc, f acc .root = acc)
    (hcurrent : ∀ acc, f acc .current = acc) (p : Path) (acc : Location) :
    p.headComponent.toList.foldl f acc = acc := by
  unfold headComponent
  split
  · exact hroot acc
  · exact hcurrent acc
  · rfl

end Fold

theorem absoluteNames_eq_lexEnd {p : Path} (h : p.text.isEmpty = false) (cwd : Location) :
    absoluteNames cwd p = .ok (lexEnd (p.start cwd) p.steps) := by
  rw [absoluteNames, h, if_neg Bool.false_ne_true, components]
  refine congrArg Except.ok ?_
  rw [List.foldl_append, foldl_headComponent, foldl_filterMap_pieceComponent]
  · rfl
  all_goals intros; rfl

theorem text_ne_of_absoluteNames {p : Path} {cwd out : Location}
    (h : absoluteNames cwd p = .ok out) : p.text.isEmpty = false := by
  cases ht : p.text.isEmpty with
  | false => rfl
  | true => simp [absoluteNames, ht] at h

theorem lexEnd_of_absoluteNames {p : Path} {cwd out : Location}
    (h : absoluteNames cwd p = .ok out) : lexEnd (p.start cwd) p.steps = out := by
  rw [absoluteNames_eq_lexEnd (text_ne_of_absoluteNames h)] at h
  exact Except.ok.inj h

/-! ## Appending a name -/

theorem splitOn_toList_of_validName {n : String} (hn : ValidName n) :
    n.toList.splitOn '/' = [n.toList] :=
  List.splitOn_eq_singleton hn.no_sep

theorem text_push (p : Path) {n : String} (hn : ValidName n) :
    (p.text = "" ∧ (p.push n).text = n) ∨
      (∃ cs, p.text.toList = cs ++ ['/'] ∧ (p.push n).text.toList = cs ++ '/' :: n.toList) ∨
      (p.text ≠ "" ∧ (p.push n).text.toList = p.text.toList ++ '/' :: n.toList) := by
  simp only [push, join, hn.isAbsolute_mk, Bool.false_eq_true, if_false]
  by_cases he : p.text = ""
  · simp [he]
  by_cases hl : p.text.toList.getLast? = some '/'
  · obtain ⟨cs, hcs⟩ := List.getLast?_eq_some_iff.mp hl
    have hne : p.text.isEmpty = false := by simpa using he
    refine .inr (.inl ⟨cs, hcs, ?_⟩)
    simp [hcs]
  · have hne : p.text.isEmpty = false := by simpa using he
    refine .inr (.inr ⟨he, ?_⟩)
    simp [hne, hl]

theorem pieces_push (p : Path) {n : String} (hn : ValidName n) :
    ∃ A, (p.push n).pieces = A ++ [n] ∧ (p.pieces = A ∨ p.pieces = A ++ [""]) := by
  rcases text_push p hn with ⟨he, hpush⟩ | ⟨cs, hcs, hpush⟩ | ⟨-, hpush⟩
  · refine ⟨[], ?_, .inr ?_⟩
    · simp [pieces, hpush, splitOn_toList_of_validName hn]
    · simp [pieces, he]
  · refine ⟨(cs.splitOn '/').map String.ofList, ?_, .inr ?_⟩
    · simp [pieces, hpush, List.splitOn_append_cons_self, splitOn_toList_of_validName hn]
    · have h := List.splitOn_append_cons_self (a := '/') cs []
      simp [pieces, hcs, h]
  · refine ⟨p.pieces, ?_, .inl rfl⟩
    simp [pieces, hpush, List.splitOn_append_cons_self, splitOn_toList_of_validName hn]

theorem isAbsolute_push (p : Path) {n : String} (hn : ValidName n) :
    (p.push n).isAbsolute = p.isAbsolute := by
  rcases text_push p hn with ⟨he, hpush⟩ | ⟨cs, hcs, hpush⟩ | ⟨hne, hpush⟩
  · rw [isAbsolute, hpush, ← isAbsolute, hn.isAbsolute_mk]
    simp [isAbsolute, he]
  · simp only [isAbsolute, hpush, hcs]
    cases cs <;> rfl
  · have hne' : p.text.toList ≠ [] := by simpa using hne
    simp only [isAbsolute, hpush, List.head?_append_of_ne_nil _ hne']

theorem steps_push (p : Path) {n : String} (hn : ValidName n) :
    (p.push n).steps = p.steps ++ [n] := by
  rw [← filter_drop_pieces, ← filter_drop_pieces, isAbsolute_push p hn]
  obtain ⟨A, hpush, hp⟩ := pieces_push p hn
  -- an absolute path has the root's empty piece and another one, so both pieces have a first
  have hk : (if p.isAbsolute then 1 else 0) ≤ A.length := by
    cases habs : p.isAbsolute with
    | false => exact Nat.zero_le _
    | true =>
      obtain ⟨s, r, hsr⟩ := pieces_of_isAbsolute habs
      rcases hp with hp | hp
      · simp [← hp, hsr]
      · have hlen := congrArg List.length hsr
        rw [hp, List.length_append] at hlen
        simp at hlen ⊢
        omega
  have hname : (n != "" && n != ".") = true := by simp [hn.ne_empty, hn.ne_dot]
  rcases hp with hp | hp <;>
    simp [hpush, hp, List.drop_append_of_le_length hk, List.filter_append, hname]

/-! ## The parent of a path -/

theorem dropEmptyEnd_isPrefix_self (ps : List String) : dropEmptyEnd ps <+: ps := by
  rw [dropEmptyEnd, ← List.reverse_suffix, List.reverse_reverse]
  exact List.dropWhile_suffix _

theorem headComponent_cases (p : Path) :
    p.headComponent = none ∨ p.headComponent = some .root ∨ p.headComponent = some .current := by
  unfold headComponent
  split <;> simp

theorem isAbsolute_iff_root {p : Path} : p.isAbsolute = true ↔ p.headComponent = some .root := by
  constructor
  · intro h
    obtain ⟨s, r, hsr⟩ := pieces_of_isAbsolute h
    simp [headComponent, hsr]
  · intro h
    unfold headComponent at h
    split at h
    · next s r hsr => exact isAbsolute_of_pieces hsr
    · cases h
    · cases h

theorem isAbsolute_eq_false_of_ne_root {p : Path} (h : p.headComponent ≠ some .root) :
    p.isAbsolute = false := by
  cases habs : p.isAbsolute with
  | false => rfl
  | true => exact absurd (isAbsolute_iff_root.mp habs) h

/-- The parent of a path walks along a first part of the path's steps, from the same place,
unless it has no steps. -/
theorem steps_parent? {p q : Path} (h : p.parent? = some q) :
    q.steps = [] ∨ (q.isAbsolute = p.isAbsolute ∧ q.steps <+: p.steps) := by
  simp only [parent?] at h
  cases hl : (dropEmptyEnd p.bodyPieces).getLast? with
  | none =>
    -- only `.` itself has the empty path as its parent
    simp only [hl] at h
    split at h
    · cases h
      exact .inl rfl
    · cases h
  | some last =>
    simp only [hl, Option.some.injEq] at h
    subst h
    -- the parent's body is a first part of the path's, with pieces of the path
    set body := dropEmptyEnd (dropEmptyEnd p.bodyPieces).dropLast
    have hpre : body <+: p.bodyPieces :=
      (dropEmptyEnd_isPrefix_self _).trans
        ((List.dropLast_prefix _).trans (dropEmptyEnd_isPrefix_self _))
    have hsep : ∀ s ∈ body, '/' ∉ s.toList := fun s hs => by
      refine not_mem_of_mem_pieces (p := p) ?_
      have hs' := hpre.subset hs
      unfold bodyPieces at hs'
      split at hs'
      · exact List.mem_of_mem_drop hs'
      · exact hs'
    have hfilter : body.filter (fun s => s != "" && s != ".") <+: p.steps :=
      hpre.filter fun s => s != "" && s != "."
    rcases headComponent_cases p with hh | hh | hh <;> simp only [hh, ofParts]
    · -- without a head the parent is its body, relative as the path is, or empty
      by_cases hb : body = []
      · left
        rw [hb]
        rfl
      have hq := pieces_intercalate hsep hb
      have hpabs : p.isAbsolute = false := isAbsolute_eq_false_of_ne_root (by simp [hh])
      have hqabs : (Path.mk ("/".intercalate body)).isAbsolute = false := by
        cases habs : (Path.mk ("/".intercalate body)).isAbsolute with
        | false => rfl
        | true =>
          -- the path's pieces would begin with the root's empty piece and another
          obtain ⟨s, r, hsr⟩ := pieces_of_isAbsolute habs
          obtain ⟨t, ht⟩ := hpre
          have hbody : p.bodyPieces = p.pieces := by simp [bodyPieces, hh]
          have hp : p.pieces = "" :: s :: (r ++ t) := by rw [← hbody, ← ht, ← hq, hsr]; rfl
          simp [headComponent, hp] at hh
      right
      refine ⟨hqabs.trans hpabs.symm, ?_⟩
      rw [← filter_drop_pieces, hqabs, hq]
      exact hfilter
    · -- below the root, the parent is the root and its body
      have hqabs : (Path.mk ("/" ++ "/".intercalate body)).isAbsolute = true := by
        simp [isAbsolute]
      right
      refine ⟨hqabs.trans (isAbsolute_iff_root.mpr hh).symm, ?_⟩
      rw [← filter_drop_pieces, hqabs, if_pos rfl, pieces_slash, List.drop_one, List.tail_cons]
      by_cases hb : body = []
      · simp [hb, pieces]
      · rw [pieces_intercalate hsep hb]
        exact hfilter
    · -- after a leading `.`, the parent keeps it
      have hdot : ∀ s ∈ "." :: body, '/' ∉ s.toList := by
        intro s hs
        rcases List.mem_cons.mp hs with rfl | hs
        · decide
        · exact hsep s hs
      have hq := pieces_intercalate hdot (List.cons_ne_nil _ _)
      have hqabs : (Path.mk ("/".intercalate ("." :: body))).isAbsolute = false := by
        cases habs : (Path.mk ("/".intercalate ("." :: body))).isAbsolute with
        | false => rfl
        | true =>
          obtain ⟨s, r, hsr⟩ := pieces_of_isAbsolute habs
          rw [hq, List.cons.injEq] at hsr
          exact absurd hsr.1 (by decide)
      have hpabs : p.isAbsolute = false := isAbsolute_eq_false_of_ne_root (by simp [hh])
      right
      refine ⟨hqabs.trans hpabs.symm, ?_⟩
      rw [← filter_drop_pieces, hqabs, hq, if_neg Bool.false_ne_true, List.drop_zero,
        filter_step_cons (.inr rfl)]
      exact hfilter

theorem entered_parent? {p q : Path} (h : p.parent? = some q) (cwd : Location) :
    ∀ l ∈ q.entered cwd, l ∈ p.entered cwd := by
  intro l hl
  rcases steps_parent? h with hq | ⟨habs, rest, hrest⟩
  · simp [entered, hq, lexEntered] at hl
  · have hl' : l ∈ lexEntered (p.start cwd) (q.steps ++ rest) := by
      rw [lexEntered_append]
      refine List.mem_append_left _ ?_
      simpa only [entered, start, habs] using hl
    rw [hrest] at hl'
    exact hl'

/-! ## The steps a walk takes -/

theorem steps_of_isEmpty {p : Path} (h : p.text.isEmpty = true) : p.steps = [] := by
  obtain ⟨t⟩ := p
  obtain rfl : t = "" := by simpa using h
  rfl

theorem ne_dot_of_mem_steps {p : Path} {s : String} (h : s ∈ p.steps) : s ≠ "." := by
  have := (List.mem_filter.mp h).2
  simp only [Bool.and_eq_true, bne_iff_ne] at this
  exact this.2

theorem walkSteps_push (p : Path) {n : String} (hn : ValidName n) :
    walkSteps (p.push n).text = p.steps ++ [n] := by
  rcases walkSteps_text (p.push n) with h | ⟨-, -, last, hlast, hdot⟩
  · rw [h, steps_push p hn]
  · -- a trailing `.` would need a last piece that is empty or `.`, where the name is
    obtain ⟨A, hA, -⟩ := pieces_push p hn
    rw [hA, List.getLast?_concat, Option.some.injEq] at hlast
    subst hlast
    exact absurd hdot (by simp [hn.ne_empty, hn.ne_dot])

theorem dropLast_dots_walkSteps (p : Path) :
    ((walkSteps p.text).reverse.dropWhile (· == ".")).reverse = p.steps := by
  have hlast : ∀ x ∈ p.steps.reverse.head?, (x == ".") = false := by
    intro x hx
    have hmem : x ∈ p.steps := List.mem_reverse.mp (List.mem_of_mem_head? hx)
    simpa using ne_dot_of_mem_steps hmem
  have hkeep : (p.steps.reverse.dropWhile (· == ".")) = p.steps.reverse := by
    cases hr : p.steps.reverse with
    | nil => rfl
    | cons x xs =>
      rw [hr] at hlast
      simp [hlast x rfl]
  rcases walkSteps_text p with h | ⟨-, h, -⟩
  · rw [h, hkeep, List.reverse_reverse]
  · rw [h, List.reverse_append]
    simp [hkeep]

end Path

namespace Volume

variable {v : Volume} {follow : Bool} {b : Nat}

/-! ## Walks along the steps of a path -/

/-- A walk whose named steps are directories goes on where the lexical walk ends. -/
theorem walk_append_of_entered {cur : Location} {ss : List String}
    (h : ∀ q ∈ lexEntered cur ss, v.lookup q = some .dir) (rest : List String) :
    v.walk follow b cur (ss ++ rest) = v.walk follow b (lexEnd cur ss) rest := by
  induction cur, ss using lexEntered.induct with
  | case1 cur => rfl
  | case2 cur ss ih =>
    rw [List.cons_append, walk_dot]
    exact ih h
  | case3 cur ss ih =>
    rw [List.cons_append, walk_dotdot]
    exact ih h
  | case4 cur name ss h1 h2 ih =>
    rw [lexEntered_name h1 h2] at h
    rw [List.cons_append, walk_dir _ _ _ h1 h2 (h _ List.mem_cons_self), lexEnd_name h1 h2]
    exact ih fun q hq => h q (List.mem_cons_of_mem _ hq)

/-- In a volume without links, a walk that goes on after some steps went through directories on
them. -/
theorem entered_of_walk_append (hv : v.Linkless) {cur : Location} {ss rest : List String}
    (hrest : rest ≠ []) {f : Found} (hw : v.walk follow b cur (ss ++ rest) = .ok f) :
    ∀ q ∈ lexEntered cur ss, v.lookup q = some .dir := by
  induction cur, ss using lexEntered.induct with
  | case1 cur => simp [lexEntered]
  | case2 cur ss ih =>
    rw [List.cons_append, walk_dot] at hw
    exact ih hw
  | case3 cur ss ih =>
    rw [List.cons_append, walk_dotdot] at hw
    exact ih hw
  | case4 cur name ss h1 h2 ih =>
    rw [lexEntered_name h1 h2]
    rw [List.cons_append] at hw
    -- steps are left after the name, so only a directory lets the walk go on
    have hne : (ss ++ rest).isEmpty = false := by simp [hrest]
    cases hl : v.lookup (cur ++ [name]) with
    | none =>
      rw [walk_none _ _ _ h1 h2 hl, hne] at hw
      cases hw
    | some node =>
      cases node with
      | dir =>
        rw [walk_dir _ _ _ h1 h2 hl] at hw
        intro q hq
        rcases List.mem_cons.mp hq with rfl | hq
        · exact hl
        · exact ih hw q hq
      | file t =>
        rw [walk_file _ _ _ h1 h2 hl, hne] at hw
        cases hw
      | link t => exact absurd hl (hv.lookup_ne _ t)

/-- In a volume without links, a walk that ends at a directory went through directories, and ends
where the lexical walk does. -/
theorem entered_of_walk_dir (hv : v.Linkless) {cur l : Location} {ss : List String}
    (hw : v.walk follow b cur ss = .ok (.entry l .dir)) :
    (∀ q ∈ lexEntered cur ss, v.lookup q = some .dir) ∧ l = lexEnd cur ss := by
  induction cur, ss using lexEntered.induct with
  | case1 cur =>
    rw [walk_nil] at hw
    cases hw
    exact ⟨by simp [lexEntered], rfl⟩
  | case2 cur ss ih =>
    rw [walk_dot] at hw
    exact ih hw
  | case3 cur ss ih =>
    rw [walk_dotdot] at hw
    exact ih hw
  | case4 cur name ss h1 h2 ih =>
    rw [lexEntered_name h1 h2, lexEnd_name h1 h2]
    cases hl : v.lookup (cur ++ [name]) with
    | none =>
      rw [walk_none _ _ _ h1 h2 hl] at hw
      split at hw <;> cases hw
    | some node =>
      cases node with
      | dir =>
        rw [walk_dir _ _ _ h1 h2 hl] at hw
        obtain ⟨hd, rfl⟩ := ih hw
        refine ⟨fun q hq => ?_, rfl⟩
        rcases List.mem_cons.mp hq with rfl | hq
        · exact hl
        · exact hd q hq
      | file t =>
        rw [walk_file _ _ _ h1 h2 hl] at hw
        split at hw <;> cases hw
      | link t => exact absurd hl (hv.lookup_ne _ t)

/-- In a volume without links, a walk that ends at a missing name stopped at the last location it
entered, after directories. -/
theorem entered_of_walk_missing (hv : v.Linkless) {cur l : Location} {ss : List String}
    (hw : v.walk follow b cur ss = .ok (.missing l)) :
    l ∈ lexEntered cur ss ∧ v.lookup l = none ∧
      ∀ q ∈ lexEntered cur ss, q ≠ l → v.lookup q = some .dir := by
  induction cur, ss using lexEntered.induct with
  | case1 cur =>
    rw [walk_nil] at hw
    cases hw
  | case2 cur ss ih =>
    rw [walk_dot] at hw
    exact ih hw
  | case3 cur ss ih =>
    rw [walk_dotdot] at hw
    exact ih hw
  | case4 cur name ss h1 h2 ih =>
    rw [lexEntered_name h1 h2]
    cases hl : v.lookup (cur ++ [name]) with
    | none =>
      -- the name is missing: it must be the last step
      rw [walk_none _ _ _ h1 h2 hl] at hw
      split at hw
      · next hend =>
        cases hw
        obtain rfl : ss = [] := List.isEmpty_iff.mp hend
        refine ⟨List.mem_cons_self, hl, fun q hq hql => ?_⟩
        simp only [lexEntered, List.mem_singleton] at hq
        exact absurd hq hql
      · cases hw
    | some node =>
      cases node with
      | dir =>
        rw [walk_dir _ _ _ h1 h2 hl] at hw
        obtain ⟨hmem, hnone, hd⟩ := ih hw
        refine ⟨List.mem_cons_of_mem _ hmem, hnone, fun q hq hql => ?_⟩
        rcases List.mem_cons.mp hq with rfl | hq
        · exact hl
        · exact hd q hq hql
      | file t =>
        rw [walk_file _ _ _ h1 h2 hl] at hw
        split at hw <;> cases hw
      | link t => exact absurd hl (hv.lookup_ne _ t)

theorem lexEntered_walkSteps (cur : Location) (p : Path) :
    lexEntered cur (walkSteps p.text) = lexEntered cur p.steps := by
  rcases p.walkSteps_text with h | ⟨-, h, -⟩
  · rw [h]
  · rw [h, lexEntered_append, List.append_right_eq_self]
    rfl

theorem walk_walkSteps {cur : Location} {p : Path}
    (h : ∀ q ∈ lexEntered cur p.steps, v.lookup q = some .dir) :
    v.walk follow b cur (walkSteps p.text) = .ok (.entry (lexEnd cur p.steps) .dir) := by
  rcases p.walkSteps_text with hw | ⟨-, hw, -⟩
  · have happ : v.walk follow b cur (p.steps ++ []) = v.walk follow b (lexEnd cur p.steps) [] :=
      walk_append_of_entered h []
    rw [List.append_nil] at happ
    rw [hw, happ, walk_nil]
  · rw [hw, walk_append_of_entered h, walk_dot, walk_nil]

/-! ## The directory a path names -/

theorem text_push_ne (P : Path) {n : String} (hn : ValidName n) :
    (P.push n).text.isEmpty = false := by
  cases h : (P.push n).text.isEmpty with
  | false => rfl
  | true =>
    -- the empty text takes no step, where the path with a name takes the name
    have hsteps := Path.walkSteps_push P hn
    rw [String.isEmpty_iff.mp h] at hsteps
    exact absurd hsteps.symm (by simp [show walkSteps "" = [] from rfl])

theorem start_push (P : Path) {n : String} (hn : ValidName n) (cwd : Location) :
    (P.push n).start cwd = P.start cwd := by
  simp only [Path.start, Path.isAbsolute_push P hn]

theorem resolve_push_eq_walk (P : Path) {n : String} (hn : ValidName n) (follow : Bool) :
    v.resolve (P.push n) follow = v.walk follow linkBudget (P.start v.cwd) (P.steps ++ [n]) := by
  rw [resolve, text_push_ne P hn, if_neg Bool.false_ne_true, Path.walkSteps_push P hn,
    ← start_push P hn]
  rfl

section Push

variable {P : Path} {out : Location} (hP : Path.absoluteNames v.cwd P = .ok out) {n : String}
  (hn : ValidName n)
include hP hn

theorem resolve_push (hdirs : ∀ q ∈ P.entered v.cwd, v.lookup q = some .dir) (follow : Bool) :
    v.resolve (P.push n) follow = v.walk follow linkBudget out [n] := by
  rw [resolve_push_eq_walk P hn, walk_append_of_entered hdirs, Path.lexEnd_of_absoluteNames hP]

theorem readFile_push (hdirs : ∀ q ∈ P.entered v.cwd, v.lookup q = some .dir) {t : String}
    (hf : v.lookup (out ++ [n]) = some (.file t)) : v.readFile (P.push n) = .ok t := by
  simp only [readFile, metadata, resolve_push hP hn hdirs,
    walk_file _ _ _ hn.ne_dot hn.ne_dotdot hf, List.isEmpty_nil, if_true]

theorem lookup_of_readFile_push (hv : v.Linkless)
    (hdirs : ∀ q ∈ P.entered v.cwd, v.lookup q = some .dir) {t : String}
    (h : v.readFile (P.push n) = .ok t) : v.lookup (out ++ [n]) = some (.file t) := by
  rw [readFile, metadata, resolve_push hP hn hdirs] at h
  cases hl : v.lookup (out ++ [n]) with
  | none => simp [walk_none _ _ _ hn.ne_dot hn.ne_dotdot hl] at h
  | some node =>
    cases node with
    | dir => simp [walk_dir _ _ _ hn.ne_dot hn.ne_dotdot hl, walk_nil] at h
    | file t' => simpa [walk_file _ _ _ hn.ne_dot hn.ne_dotdot hl] using h
    | link t' => exact absurd hl (hv.lookup_ne _ t')

theorem writeFile_push_of_file (hdirs : ∀ q ∈ P.entered v.cwd, v.lookup q = some .dir)
    {t t' : String} (hf : v.lookup (out ++ [n]) = some (.file t')) :
    v.writeFile (P.push n) t = .ok (v.set (out ++ [n]) (.file t)) := by
  simp only [writeFile, resolve_push hP hn hdirs, walk_file _ _ _ hn.ne_dot hn.ne_dotdot hf,
    List.isEmpty_nil, if_true]

/-- A write to a name appended to a path, in a volume without links, goes through directories
and sets a file at the name in the directory the path names, where no directory was. -/
theorem writeFile_push (hv : v.Linkless) {t : String} {v' : Volume}
    (hw : v.writeFile (P.push n) t = .ok v') :
    (∀ q ∈ P.entered v.cwd, v.lookup q = some .dir) ∧ v' = v.set (out ++ [n]) (.file t) ∧
      v.lookup (out ++ [n]) ≠ some .dir := by
  rw [writeFile, resolve_push_eq_walk P hn] at hw
  cases hwalk : v.walk true linkBudget (P.start v.cwd) (P.steps ++ [n]) with
  | error e =>
    rw [hwalk] at hw
    cases hw
  | ok f =>
    have hdirs := entered_of_walk_append hv (List.cons_ne_nil n []) hwalk
    rw [walk_append_of_entered hdirs, Path.lexEnd_of_absoluteNames hP] at hwalk
    rw [← resolve_push_eq_walk P hn, resolve_push hP hn hdirs, hwalk] at hw
    refine ⟨hdirs, ?_⟩
    cases hl : v.lookup (out ++ [n]) with
    | none =>
      -- a missing name is created, the last step being the name and not `.`
      rw [walk_none _ _ _ hn.ne_dot hn.ne_dotdot hl] at hwalk
      cases hwalk
      have hlast : ((walkSteps (P.push n).text).getLast? == some ".") = false := by
        simp [Path.walkSteps_push P hn, hn.ne_dot]
      simp only [hlast, Bool.false_eq_true, if_false, Except.ok.injEq] at hw
      exact ⟨hw.symm, by simp⟩
    | some node =>
      cases node with
      | dir =>
        rw [walk_dir _ _ _ hn.ne_dot hn.ne_dotdot hl, walk_nil] at hwalk
        cases hwalk
        cases hw
      | file t' =>
        rw [walk_file _ _ _ hn.ne_dot hn.ne_dotdot hl] at hwalk
        cases hwalk
        cases hw
        exact ⟨rfl, by simp⟩
      | link t' => exact absurd hl (hv.lookup_ne _ t')

end Push

/-- In a volume without links, a path names a directory exactly when the locations it enters
are directories. -/
theorem isDir_iff_entered (hv : v.Linkless) {P : Path} (htext : P.text.isEmpty = false) :
    v.isDir P = true ↔ ∀ q ∈ P.entered v.cwd, v.lookup q = some .dir := by
  have hstart : (if P.isAbsolute then [] else v.cwd) = P.start v.cwd := rfl
  simp only [isDir, metadata, resolve, htext, Bool.false_eq_true, if_false, hstart]
  constructor
  · intro hd
    cases hw : v.walk true linkBudget (P.start v.cwd) (walkSteps P.text) with
    | error e => simp [hw] at hd
    | ok f =>
      cases f with
      | missing l => simp [hw] at hd
      | entry l node =>
        cases node with
        | dir =>
          have h := (entered_of_walk_dir hv hw).1
          rwa [lexEntered_walkSteps] at h
        | file t => simp [hw] at hd
        | link t => simp [hw] at hd
  · intro hd
    rw [walk_walkSteps hd]

/-! ## Making the directories a path enters -/

/-- Every entry of `v'` is the entry of `v`, but at some locations of `E` where `v` had
nothing. -/
def ChangedWithin (E : List Location) (v v' : Volume) : Prop :=
  ∀ k, v'.lookup k = v.lookup k ∨ (k ∈ E ∧ v.lookup k = none)

namespace ChangedWithin

variable {E : List Location} {u w : Volume}

theorem refl (E : List Location) (v : Volume) : ChangedWithin E v v := fun _ => .inl rfl

theorem mono {E' : List Location} (h : ChangedWithin E v w) (hE : ∀ k ∈ E, k ∈ E') :
    ChangedWithin E' v w := fun k => (h k).imp_right fun h => ⟨hE k h.1, h.2⟩

theorem trans (h₁ : ChangedWithin E u v) (h₂ : ChangedWithin E v w) : ChangedWithin E u w := by
  intro k
  rcases h₂ k with e₂ | ⟨hk, hn⟩
  · rw [e₂]
    exact h₁ k
  · rcases h₁ k with e₁ | ⟨hk₁, hn₁⟩
    · exact .inr ⟨hk, e₁ ▸ hn⟩
    · exact .inr ⟨hk₁, hn₁⟩

end ChangedWithin

/-- Directories made along a path, in a volume without links: no link, the same working
directory, a directory at every location the path enters, and nothing else changed. -/
structure MadeAlong (E : List Location) (v v' : Volume) : Prop where
  linkless : v'.Linkless
  cwd : v'.cwd = v.cwd
  dirs : ∀ q ∈ E, v'.lookup q = some .dir
  changed : ChangedWithin E v v'

/-- Making a directory, in a volume without links, sets a directory at the last location the
path enters, which was missing after directories. -/
theorem makeDir_entered (hv : v.Linkless) {P : Path} {v' : Volume} (hm : v.makeDir P = .ok v') :
    MadeAlong (P.entered v.cwd) v v' := by
  unfold makeDir at hm
  split at hm
  · cases hm
  simp only [Path.dropLast_dots_walkSteps] at hm
  split at hm
  · cases hm
  · next l hwalk =>
    cases hm
    obtain ⟨hmem, hnone, hdirs⟩ := entered_of_walk_missing hv hwalk
    have hl : l ≠ [] := fun e => by rw [e] at hnone; cases hnone
    refine ⟨hv.set l rfl, rfl, fun q hq => ?_, fun k => ?_⟩
    · by_cases hql : q = l
      · rw [hql, lookup_set hl, if_pos rfl]
      · rw [lookup_set_ne hql]
        exact hdirs q hq hql
    · by_cases hkl : k = l
      · rw [hkl]
        exact .inr ⟨hmem, hnone⟩
      · exact .inl (lookup_set_ne hkl _)
  · cases hm

/-- Making a directory and its missing ancestors, in a volume without links, makes directories
along the path and changes nothing else. -/
theorem makeDirsFrom_entered (hv : v.Linkless) :
    ∀ (fuel : Nat) {P : Path} {v' : Volume}, v.makeDirsFrom fuel P = .ok v' →
      MadeAlong (P.entered v.cwd) v v'
  | 0, _, _, hm => by cases hm
  | fuel + 1, P, v', hm => by
    rw [makeDirsFrom] at hm
    split at hm
    · -- the empty path enters nothing
      next htext =>
      cases hm
      have hnil : P.entered v.cwd = [] := by rw [Path.entered, Path.steps_of_isEmpty htext]; rfl
      exact ⟨hv, rfl, by simp [hnil], .refl _ v⟩
    next htext =>
    have htext' : P.text.isEmpty = false := by simpa using htext
    split at hm
    · -- the directory is made at once
      next v₁ hmd =>
      cases hm
      exact makeDir_entered hv hmd
    · -- the parent is missing: it is made first, then the directory
      split at hm
      · cases hm
      · next Q hQ =>
        split at hm
        · cases hm
        · next v₁ hparent =>
          have h₁ := makeDirsFrom_entered hv fuel hparent
          have hc₁ := h₁.changed.mono (Path.entered_parent? hQ v.cwd)
          split at hm
          · next v₂ hmd₂ =>
            cases hm
            have h₂ := makeDir_entered h₁.linkless hmd₂
            rw [h₁.cwd] at h₂
            exact ⟨h₂.linkless, h₂.cwd.trans h₁.cwd, h₂.dirs, hc₁.trans h₂.changed⟩
          · split at hm
            · next hd =>
              cases hm
              have hdirs := (isDir_iff_entered h₁.linkless htext').mp hd
              rw [h₁.cwd] at hdirs
              exact ⟨h₁.linkless, h₁.cwd, hdirs, hc₁⟩
            · cases hm
    · -- the directory exists already
      split at hm
      · next hd =>
        cases hm
        exact ⟨hv, rfl, (isDir_iff_entered hv htext').mp hd, .refl _ v⟩
      · cases hm

theorem makeDirs_entered (hv : v.Linkless) {P : Path} {v' : Volume} (hm : v.makeDirs P = .ok v') :
    MadeAlong (P.entered v.cwd) v v' :=
  makeDirsFrom_entered hv _ hm

theorem SameTree.of_changedWithin {names : Location} {E : List Location} {u w : Volume}
    (h : SameTree names u w) (hc : ChangedWithin E u v)
    (hdir : ∀ q, q <+: names → w.lookup q = some .dir) (hout : ∀ q ∈ E, ¬ names <+: q) :
    SameTree names v w := by
  intro k hk
  rcases hc k with e | ⟨hkE, hnone⟩
  · rw [e]
    exact h k hk
  · -- a location that had nothing is neither above `names` nor below it
    rcases hk with hk | hk
    · exact absurd hk (hout k hkE)
    · rw [h k (.inr hk), hdir k hk] at hnone
      cases hnone

end Volume

end FeatureDocs.Store
