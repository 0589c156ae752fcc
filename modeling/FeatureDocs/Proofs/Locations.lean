import Mathlib.Data.List.Basic
import FeatureDocs.Store.Volume

/-!
# Locations written as paths

A physical location of a volume is written as an absolute path by `Location.path`: a separator,
then its names joined by separators. When every name is one a directory can hold (`ValidName`:
not empty, neither `.` nor `..`, without a separator) the path reads back as the location: its
pieces, its components and the steps a walk takes are the names again, and appending a name to
the path appends it to the location.

* `ValidName`, `ValidLocation`;
* `pieces_path`, `components_path`, `walkSteps_path`, `fileName_path`: reading the path back;
* `push_path`, `foldl_push_path`, `parent?_path`: appending names, and dropping the last one;
* `validLocation_absoluteNames`: folding a path against a valid working directory gives a valid
  location.
-/

namespace FeatureDocs.Store

/-- A name that a directory can hold: not empty, neither `.` nor `..`, and without a separator. -/
structure ValidName (n : String) : Prop where
  ne_empty : n ≠ ""
  ne_dot : n ≠ "."
  ne_dotdot : n ≠ ".."
  no_sep : '/' ∉ n.toList

instance (n : String) : Decidable (ValidName n) :=
  decidable_of_iff (n ≠ "" ∧ n ≠ "." ∧ n ≠ ".." ∧ '/' ∉ n.toList)
    ⟨fun ⟨h₁, h₂, h₃, h₄⟩ => ⟨h₁, h₂, h₃, h₄⟩, fun h => ⟨h.1, h.2, h.3, h.4⟩⟩

/-- Every name of the location is valid. -/
def ValidLocation (l : Location) : Prop := ∀ n ∈ l, ValidName n

instance (l : Location) : Decidable (ValidLocation l) :=
  inferInstanceAs (Decidable (∀ n ∈ l, ValidName n))

theorem ValidLocation.append {a b : Location} (ha : ValidLocation a) (hb : ValidLocation b) :
    ValidLocation (a ++ b) := by
  intro n hn
  rcases List.mem_append.mp hn with h | h
  · exact ha n h
  · exact hb n h

theorem ValidLocation.singleton {n : String} (h : ValidName n) : ValidLocation [n] := by
  intro m hm
  rw [List.mem_singleton.mp hm]
  exact h

theorem ValidLocation.of_append_left {a b : Location} (h : ValidLocation (a ++ b)) :
    ValidLocation a := fun n hn => h n (List.mem_append_left b hn)

theorem ValidLocation.of_append_right {a b : Location} (h : ValidLocation (a ++ b)) :
    ValidLocation b := fun n hn => h n (List.mem_append_right a hn)

theorem ValidName.toList_ne_nil {n : String} (h : ValidName n) : n.toList ≠ [] := by
  intro hn
  exact h.ne_empty (String.toList_inj.mp (by simpa using hn))

theorem ValidName.pieceComponent_eq {n : String} (h : ValidName n) :
    Path.pieceComponent n = some (.normal n) := by
  simp [Path.pieceComponent, h.ne_empty, h.ne_dot, h.ne_dotdot]

/-! ## Splitting at the separator -/

/-- No piece of a split holds the separator. -/
theorem not_mem_of_mem_splitOn {xs p : List Char} (h : p ∈ xs.splitOn '/') : '/' ∉ p := by
  induction xs generalizing p with
  | nil =>
    have hp : p = [] := by simpa using h
    subst hp
    exact List.not_mem_nil
  | cons x xs ih =>
    rw [List.splitOn_cons_eq_if_modifyHead] at h
    split at h
    · rcases List.mem_cons.mp h with rfl | h
      · exact List.not_mem_nil
      · exact ih h
    · next hx =>
      obtain ⟨q, qs, hq⟩ := List.exists_cons_of_ne_nil (List.splitOn_ne_nil '/' xs)
      rw [hq, List.modifyHead_cons] at h
      rcases List.mem_cons.mp h with rfl | h
      · have hq' : '/' ∉ q := ih (by rw [hq]; exact List.mem_cons_self)
        simp only [List.mem_cons, not_or]
        exact ⟨fun e => hx (by simp [← e]), hq'⟩
      · exact ih (by rw [hq]; exact List.mem_cons_of_mem q h)

theorem not_mem_of_mem_pieces {p : Path} {s : String} (h : s ∈ p.pieces) : '/' ∉ s.toList := by
  simp only [Path.pieces, List.mem_map] at h
  obtain ⟨cs, hcs, rfl⟩ := h
  rw [String.toList_ofList]
  exact not_mem_of_mem_splitOn hcs

theorem Path.pieces_slash (t : String) :
    (Path.mk ("/" ++ t)).pieces = "" :: (Path.mk t).pieces := by
  simp [Path.pieces, List.splitOn_cons_eq_if_modifyHead]

theorem Path.pieces_intercalate {body : List String} (hsep : ∀ s ∈ body, '/' ∉ s.toList)
    (hne : body ≠ []) : (Path.mk ("/".intercalate body)).pieces = body := by
  have hsep' : ∀ m ∈ body.map String.toList, '/' ∉ m := by
    intro m hm
    obtain ⟨s, hs, rfl⟩ := List.mem_map.mp hm
    exact hsep s hs
  have hsplit := List.splitOn_intercalate '/' hsep' (by simpa using hne)
  simp [Path.pieces, hsplit, Function.comp_def]

theorem ValidName.isAbsolute_mk {n : String} (hn : ValidName n) :
    (Path.mk n).isAbsolute = false := by
  cases hc : n.toList with
  | nil => exact absurd hc hn.toList_ne_nil
  | cons c cs =>
    have : c ≠ '/' := fun e => hn.no_sep (by simp [hc, e])
    simp [Path.isAbsolute, hc, this]

/-! ## The path of a location -/

theorem toList_path (l : Location) :
    (Location.path l).text.toList = '/' :: ['/'].intercalate (l.map String.toList) := by
  simp [Location.path]

theorem isAbsolute_path (l : Location) : (Location.path l).isAbsolute = true := by
  simp [Path.isAbsolute, toList_path]

theorem pieces_path_nil : (Location.path []).pieces = ["", ""] := by
  simp [Path.pieces, toList_path, List.splitOn_cons_eq_if_modifyHead]

theorem pieces_path {l : Location} (hl : ValidLocation l) (hne : l ≠ []) :
    (Location.path l).pieces = "" :: l := by
  show (Path.mk ("/" ++ "/".intercalate l)).pieces = "" :: l
  rw [Path.pieces_slash, Path.pieces_intercalate (fun n hn => (hl n hn).no_sep) hne]

theorem headComponent_path (l : Location) (hl : ValidLocation l) :
    (Location.path l).headComponent = some .root := by
  by_cases hne : l = []
  · subst hne
    simp [Path.headComponent, pieces_path_nil]
  · obtain ⟨n, ns, rfl⟩ := List.exists_cons_of_ne_nil hne
    simp [Path.headComponent, pieces_path hl hne]

/-- The components of the path of a location are the root and then its names. -/
theorem components_path {l : Location} (hl : ValidLocation l) :
    (Location.path l).components = .root :: l.map .normal := by
  have hbody : (Location.path l).bodyPieces.filterMap Path.pieceComponent = l.map .normal := by
    rw [Path.bodyPieces, headComponent_path l hl]
    by_cases hne : l = []
    · subst hne
      simp [pieces_path_nil, Path.pieceComponent]
    · rw [pieces_path hl hne, List.drop_one, List.tail_cons, ← List.filterMap_eq_map]
      exact List.filterMap_congr fun n hn => (hl n hn).pieceComponent_eq
  rw [Path.components, headComponent_path l hl, hbody]
  rfl

theorem eq_of_components_path {a b : Location} (ha : ValidLocation a) (hb : ValidLocation b)
    (h : (Location.path a).components = (Location.path b).components) : a = b := by
  rw [components_path ha, components_path hb, List.cons.injEq] at h
  exact List.map_injective_iff.mpr (fun _ _ e => Component.normal.inj e) h.2

theorem fileName_path {l : Location} (hl : ValidLocation l) :
    (Location.path l).fileName? = l.getLast? := by
  rw [Path.fileName?, components_path hl]
  rcases List.eq_nil_or_concat l with rfl | ⟨ns, n, rfl⟩
  · rfl
  · simp [List.getLast?_cons]

/-- A walk reads the names of a location off its path. -/
theorem walkSteps_path {l : Location} (hl : ValidLocation l) :
    walkSteps (Location.path l).text = l := by
  have hmk : (Path.mk (Location.path l).text) = Location.path l := rfl
  by_cases hne : l = []
  · subst hne
    simp [walkSteps, hmk, isAbsolute_path, pieces_path_nil]
  · have hkeep : l.filter (fun s => s != "" && s != ".") = l :=
      List.filter_eq_self.mpr fun n hn => by simp [(hl n hn).ne_empty, (hl n hn).ne_dot]
    obtain ⟨ns, n, rfl⟩ := (List.eq_nil_or_concat l).resolve_left hne
    have hn : ValidName n := hl n (by simp)
    simp only [walkSteps, hmk, isAbsolute_path, pieces_path hl hne, if_true, List.drop_one,
      List.tail_cons, hkeep]
    simp [hn.ne_empty, hn.ne_dot]

theorem dropEmptyEnd_of_valid {l : Location} (hl : ValidLocation l) : Path.dropEmptyEnd l = l := by
  rcases List.eq_nil_or_concat l with rfl | ⟨ns, n, rfl⟩
  · rfl
  · simp [Path.dropEmptyEnd, (hl n (by simp)).pieceComponent_eq]

/-- The parent of the path of a location is the path of the location without its last name. -/
theorem parent?_path {l : Location} (hl : ValidLocation l) (hne : l ≠ []) :
    (Location.path l).parent? = some (Location.path l.dropLast) := by
  have hbody : (Location.path l).bodyPieces = l := by
    rw [Path.bodyPieces, headComponent_path l hl, pieces_path hl hne]
    rfl
  have hlast : l.getLast? = some (l.getLast hne) := List.getLast?_eq_some_getLast hne
  have hinit : ValidLocation l.dropLast := fun n hn => hl n (List.dropLast_subset l hn)
  simp only [Path.parent?, hbody, dropEmptyEnd_of_valid hl, hlast, dropEmptyEnd_of_valid hinit,
    headComponent_path l hl]
  rfl

/-! ## Appending a name -/

theorem text_path_concat {l : Location} (hne : l ≠ []) (n : String) :
    (Location.path (l ++ [n])).text = (Location.path l).text ++ "/" ++ n := by
  simp only [Location.path, String.intercalate_append_of_ne_nil hne (List.cons_ne_nil n []),
    String.intercalate_singleton, String.append_assoc]

theorem toList_path_concat (l : Location) (n : String) :
    ∃ pre, (Location.path (l ++ [n])).text.toList = pre ++ n.toList := by
  by_cases hne : l = []
  · subst hne
    exact ⟨['/'], by simp [Location.path]⟩
  · exact ⟨(Location.path l).text.toList ++ ['/'], by simp [text_path_concat hne]⟩

theorem getLast_toList_path_ne {l : Location} (hl : ValidLocation l) (hne : l ≠ []) :
    (Location.path l).text.toList.getLast? ≠ some '/' := by
  obtain ⟨ns, n, rfl⟩ := (List.eq_nil_or_concat l).resolve_left hne
  rw [List.concat_eq_append] at hl ⊢
  have hn : ValidName n := hl n (by simp)
  obtain ⟨pre, hpre⟩ := toList_path_concat ns n
  rw [hpre, List.getLast?_append_of_ne_nil _ hn.toList_ne_nil]
  intro hlast
  obtain ⟨ys, hys⟩ := List.getLast?_eq_some_iff.mp hlast
  exact hn.no_sep (by rw [hys]; simp)

/-- Appending a valid name to the path of a location gives the path of the longer location. -/
theorem push_path {l : Location} (hl : ValidLocation l) {n : String} (hn : ValidName n) :
    (Location.path l).push n = Location.path (l ++ [n]) := by
  by_cases hne : l = []
  · subst hne
    simp [Path.push, Path.join, hn.isAbsolute_mk, Location.path]
  · have hnot : ((Location.path l).text.toList.getLast? == some '/') = false := by
      simpa using getLast_toList_path_ne hl hne
    have hnonempty : (Location.path l).text.isEmpty = false := by
      simp [Location.path]
    simp only [Path.push, Path.join, hn.isAbsolute_mk, hnot, hnonempty, Bool.false_or,
      Bool.false_eq_true, if_false]
    rw [← text_path_concat hne]

theorem foldl_push_path {l : Location} (hl : ValidLocation l) {ps : List String}
    (hps : ValidLocation ps) : ps.foldl Path.push (Location.path l) = Location.path (l ++ ps) := by
  induction ps generalizing l with
  | nil => rw [List.foldl_nil, List.append_nil]
  | cons n ps ih =>
    have hn : ValidName n := hps n List.mem_cons_self
    rw [List.foldl_cons, push_path hl hn, ih (hl.append (.singleton hn)) fun m hm =>
      hps m (List.mem_cons_of_mem n hm), List.append_assoc, List.singleton_append]

theorem sameAs_push_path_iff {a b : Location} (ha : ValidLocation a) (hb : ValidLocation b)
    {n : String} (hn : ValidName n) :
    (Location.path b).sameAs ((Location.path a).push n) = true ↔ b = a ++ [n] := by
  rw [push_path ha hn, Path.sameAs, beq_iff_eq]
  constructor
  · exact eq_of_components_path hb (ha.append (.singleton hn))
  · rintro rfl
    rfl

/-! ## Making a path absolute -/

/-- Every name among the components of a path is valid. -/
theorem validName_of_normal_mem_components {p : Path} {n : String}
    (h : Component.normal n ∈ p.components) : ValidName n := by
  rw [Path.components, List.mem_append] at h
  rcases h with hhead | hbody
  · -- the head component is the root or the current directory
    unfold Path.headComponent at hhead
    split at hhead <;> simp at hhead
  · obtain ⟨s, hs, hc⟩ := List.mem_filterMap.mp hbody
    have hpiece : s ∈ p.pieces := by
      unfold Path.bodyPieces at hs
      split at hs
      · exact List.mem_of_mem_drop hs
      · exact hs
    unfold Path.pieceComponent at hc
    split at hc
    · cases hc
    · split at hc
      · cases hc
      · next hne hdot =>
        cases hc
        exact ⟨fun e => hne (.inl e), fun e => hne (.inr e), hdot, not_mem_of_mem_pieces hpiece⟩

theorem validLocation_foldl_components {cs : List Component}
    (hcs : ∀ n, Component.normal n ∈ cs → ValidName n) {acc : Location} (hacc : ValidLocation acc) :
    ValidLocation (cs.foldl (fun acc c =>
      match c with
      | .parent => acc.dropLast
      | .normal n => acc ++ [n]
      | _ => acc) acc) := by
  induction cs generalizing acc with
  | nil => exact hacc
  | cons c cs ih =>
    refine ih (fun n hn => hcs n (List.mem_cons_of_mem c hn)) ?_
    cases c with
    | parent => exact fun n hn => hacc n (List.dropLast_subset acc hn)
    | normal n => exact hacc.append (.singleton (hcs n List.mem_cons_self))
    | root | current => exact hacc

/-- A path made absolute against a valid working directory names a valid location. -/
theorem validLocation_absoluteNames {cwd : Location} (hcwd : ValidLocation cwd) {p : Path}
    {names : Location} (h : Path.absoluteNames cwd p = .ok names) : ValidLocation names := by
  unfold Path.absoluteNames at h
  split at h
  · cases h
  · cases h
    refine validLocation_foldl_components (fun n hn => validName_of_normal_mem_components hn) ?_
    split
    · intro n hn
      cases hn
    · exact hcwd

end FeatureDocs.Store
