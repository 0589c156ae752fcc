import FeatureDocs.Proofs.BuildsInStep
import FeatureDocs.Proofs.PageContext

/-!
# The paths of a scan

A scan folds its root against the working directory, dropping `.` and letting `..` remove the
name before it, and records every directory with two paths: its own, built by appending one
name at a time to the folded root, and its path list, the names from the root's parent down to
it. The table of contents of a directory and the glossary read the directory back from the path
list, the first by appending it to the root path of the work list, the second by stripping that
root path from a file's path. Both give back the directory's own path when the root does not fold
to `/`: the folded root then holds only real names, and the root path is its parent.

* `Path.consume_map_append`, `Path.stripPrefix?_path_append`: stripping the path of a location
  from the path of a longer one;
* `components_intercalate`: the names joined by separators read back as names;
* `Scanner.isDir_of_scan`: a scan that succeeds started at a directory;
* **`Scanner.scan_paths_rebuild_directories`**: the paths of a scan.
-/

namespace FeatureDocs.Store

/-! ## Names joined by separators -/

/-- Names joined by separators, without a leading one, are a relative path of those names. -/
theorem components_intercalate {l : Location} (hl : ValidLocation l) (hne : l ≠ []) :
    (Path.mk ("/".intercalate l)).components = l.map .normal := by
  obtain ⟨n, ns, rfl⟩ := List.exists_cons_of_ne_nil hne
  have hn : ValidName n := hl n List.mem_cons_self
  have hpieces := Path.pieces_intercalate (fun m hm => (hl m hm).no_sep) hne
  -- the first name is neither empty nor `.`, so the path has no head component
  have hhead : (Path.mk ("/".intercalate (n :: ns))).headComponent = none := by
    rw [Path.headComponent, hpieces]
    split
    · next h => exact absurd (List.cons.inj h).1 hn.ne_empty
    · next h => exact absurd (List.cons.inj h).1 hn.ne_dot
    · rfl
  rw [Path.components, hhead, Path.bodyPieces, hhead, hpieces, ← List.filterMap_eq_map]
  exact List.filterMap_congr fun m hm => (hl m hm).pieceComponent_eq

/-! ## Stripping the path of a location -/

theorem ValidLocation.dropLast {l : Location} (hl : ValidLocation l) : ValidLocation l.dropLast :=
  fun n hn => hl n (List.dropLast_subset l hn)

theorem bodyPieces_path {l : Location} (hl : ValidLocation l) (hne : l ≠ []) :
    (Location.path l).bodyPieces = l := by
  rw [Path.bodyPieces, headComponent_path l hl, pieces_path hl hne]
  rfl

theorem Path.consume_map_append {a : Location} (ha : ValidLocation a) (b : List String) :
    consume (a.map .normal) ((a ++ b).map fun s => (s, pieceComponent s)) =
      some (b.map fun s => (s, pieceComponent s)) := by
  induction a with
  | nil => simp [consume]
  | cons n a ih =>
    have hn : ValidName n := ha n List.mem_cons_self
    simp only [List.cons_append, List.map_cons, hn.pieceComponent_eq, consume, ↓reduceIte]
    exact ih fun m hm => ha m (List.mem_cons_of_mem n hm)

theorem dropEmptyStart_of_valid {l : Location} (hl : ValidLocation l) : Path.dropEmptyStart l = l := by
  cases l with
  | nil => rfl
  | cons n ns => simp [Path.dropEmptyStart, (hl n List.mem_cons_self).pieceComponent_eq]

/-- **Stripping a location from a longer one.** The path of a location with its prefix stripped
is the rest of its names joined by separators. -/
theorem Path.stripPrefix?_path_append {a b : Location} (ha : ValidLocation a)
    (hb : ValidLocation b) (hne : b ≠ []) :
    (Location.path (a ++ b)).stripPrefix? (Location.path a) = some ⟨"/".intercalate b⟩ := by
  have hab : ValidLocation (a ++ b) := ha.append hb
  have hparts : (Location.path (a ++ b)).bodyParts = (a ++ b).map fun s => (s, pieceComponent s) := by
    rw [bodyParts, bodyPieces_path hab (by simp [hne])]
  simp only [stripPrefix?, headComponent_path (a ++ b) hab, components_path ha, if_true, hparts,
    consume_map_append ha b, Option.map_some, List.map_map]
  have hfst : ((Prod.fst ∘ fun s => (s, pieceComponent s)) : String → String) = id := rfl
  rw [hfst, List.map_id, dropEmptyStart_of_valid hb, dropEmptyEnd_of_valid hb]

end FeatureDocs.Store

namespace FeatureDocs.Tree

open FeatureDocs.Store FeatureDocs.Feature FeatureDocs.Render

theorem Scanner.isDir_of_scan (s : Scanner) {v : Volume} {root : Path} {names : Location}
    (hnames : Path.absoluteNames v.cwd root = .ok names) {W : WorkList}
    (hscan : s.scan v root = .ok W) : v.isDir (Location.path names) = true := by
  obtain ⟨names', r, hnames', hmeta, -, -⟩ := Scanner.scan_eq_ok.mp hscan
  obtain rfl : names' = names := Except.ok.inj (hnames'.symm.trans hnames)
  simp only [Volume.isDir, hmeta]

theorem real_components_path {l : Location} (hl : ValidLocation l) :
    Component.current ∉ (Location.path l).components ∧
      Component.parent ∉ (Location.path l).components := by
  rw [components_path hl]
  simp

namespace Scanner

section Paths

/- Throughout, `W` is the work list of a scan that succeeds, of a root that folds to the names
`names` of a volume that holds a tree, and not to `/`. -/
variable (s : Scanner) {v : Volume} (hv : v.IsTree) {root : Path} {names : Location}
  (hnames : Path.absoluteNames v.cwd root = .ok names) (hne : names ≠ []) {W : WorkList}
  (hscan : s.scan v root = .ok W)
include hv hnames hne hscan

theorem rootPath_eq_dropLast : W.rootPath = Location.path names.dropLast := by
  rw [scan_rootPath s hnames hscan,
    parent?_path (validLocation_absoluteNames hv.cwd_valid hnames) hne]
  rfl

theorem located : W.Located names := scan_located s hv hnames (s.isDir_of_scan hnames hscan) hne hscan

theorem absolutePath_eq {E : DirEntry} (hE : E ∈ W.entries) :
    E.absolutePath = Location.path (names.dropLast ++ E.pathList) := by
  have hinit := (validLocation_absoluteNames hv.cwd_valid hnames).dropLast
  rw [← (s.located hv hnames hne hscan).tocDir E hE, rootPath_eq_dropLast s hv hnames hne hscan,
    foldl_push_path hinit ((s.located hv hnames hne hscan).pathList E hE).2]

theorem head?_pathList {E : DirEntry} (hE : E ∈ W.entries) :
    E.pathList.head? = names.getLast? := by
  have hloc := s.located hv hnames hne hscan
  have hinit := (validLocation_absoluteNames hv.cwd_valid hnames).dropLast
  obtain ⟨p, hvalid, hpath⟩ := hloc.entry E hE
  -- the two paths of the directory agree, so its path list is the root's last name followed by
  -- the names below the root
  have heq : names.dropLast ++ ([names.getLast hne] ++ p) = names.dropLast ++ E.pathList := by
    rw [← List.append_assoc, List.dropLast_append_getLast hne]
    exact eq_of_components_path hvalid (hinit.append (hloc.pathList E hE).2)
      (by rw [← hpath, s.absolutePath_eq hv hnames hne hscan hE])
  rw [← List.append_cancel_left heq, List.singleton_append, List.head?_cons,
    List.getLast?_eq_some_getLast hne]

theorem stripPrefix?_file {E : DirEntry} (hE : E ∈ W.entries) {f : String} (hf : f ∈ E.files) :
    (E.absolutePath.push f).stripPrefix? W.rootPath = some ⟨"/".intercalate (E.pathList ++ [f])⟩ := by
  have hloc := s.located hv hnames hne hscan
  have hinit := (validLocation_absoluteNames hv.cwd_valid hnames).dropLast
  have hrest : ValidLocation (E.pathList ++ [f]) :=
    (hloc.pathList E hE).2.append (.singleton (hloc.files E hE f hf))
  rw [s.absolutePath_eq hv hnames hne hscan hE,
    push_path (hinit.append (hloc.pathList E hE).2) (hloc.files E hE f hf), List.append_assoc,
    rootPath_eq_dropLast s hv hnames hne hscan]
  exact Path.stripPrefix?_path_append hinit hrest (by simp)

end Paths

/-- **The paths of a scan.** Take a root that does not fold to `/`. The folded root holds only
real names, so its path has no `.` or `..` component. If the scan succeeds, the same holds of the
path of every directory it lists, and every path list starts with the root's last name.
Appending a directory's path list to the root path of the work list gives the directory's own
path, so a table of contents built with that root path reads only the directory's own files and
marker. The path of a file of the directory, with the root path stripped, has the path list and
the file name as its components, and that is the location a page records for a step read from
the file when its root path is the work list's. -/
theorem scan_paths_rebuild_directories (s : Scanner) {v : Volume} (hv : v.IsTree)
    {root : Path} {names : Location} (hnames : Path.absoluteNames v.cwd root = .ok names)
    (hne : names ≠ []) :
    ValidLocation names ∧
    (Component.current ∉ (Location.path names).components ∧
      Component.parent ∉ (Location.path names).components) ∧
    ∀ W : WorkList, s.scan v root = .ok W → ∀ E ∈ W.entries,
      (Component.current ∉ E.absolutePath.components ∧
        Component.parent ∉ E.absolutePath.components) ∧
      (∃ n, E.pathList.head? = some n ∧ names.getLast? = some n ∧ ValidName n) ∧
      E.pathList.foldl Path.push W.rootPath = E.absolutePath ∧
      (∀ t : TocBuilder, t.rootPath = W.rootPath → ∀ (u w : Volume) (subdirs files : List String),
        (∀ n, n ∈ files ∨ n = displayNameFile →
          u.readFile (E.absolutePath.push n) = w.readFile (E.absolutePath.push n)) →
        u.isFile (E.absolutePath.push displayNameFile) =
          w.isFile (E.absolutePath.push displayNameFile) →
        t.build u E.pathList subdirs files = t.build w E.pathList subdirs files) ∧
      ∀ f ∈ E.files, ∃ q : Path, (E.absolutePath.push f).stripPrefix? W.rootPath = some q ∧
        q.components = (E.pathList ++ [f]).map .normal ∧
        ∀ (cfg : PageSettings) (st : Step), cfg.rootPath = W.rootPath →
          st.filename = E.absolutePath.push f → (cfg.reference st).location = q := by
  have hX := validLocation_absoluteNames hv.cwd_valid hnames
  refine ⟨hX, real_components_path hX, fun W hscan E hE => ?_⟩
  have hloc := s.located hv hnames hne hscan
  obtain ⟨p, hvalid, hpath⟩ := hloc.entry E hE
  have hfold := hloc.tocDir E hE
  have hlast : names.getLast? = some (names.getLast hne) := List.getLast?_eq_some_getLast hne
  refine ⟨hpath ▸ real_components_path hvalid,
    ⟨_, (s.head?_pathList hv hnames hne hscan hE).trans hlast, hlast, hX _ (List.getLast_mem hne)⟩,
    hfold, fun t ht u w subdirs files hread hfile => ?_, fun f hf => ?_⟩
  · -- the table of contents reads at its root path followed by the path list
    apply TocBuilder.build_congr
    · rwa [ht, hfold]
    · rwa [ht, hfold]
  · have hrest : ValidLocation (E.pathList ++ [f]) :=
      (hloc.pathList E hE).2.append (.singleton (hloc.files E hE f hf))
    have hstrip := s.stripPrefix?_file hv hnames hne hscan hE hf
    refine ⟨_, hstrip, components_intercalate hrest (by simp), fun cfg st hcfg hst => ?_⟩
    simp only [PageSettings.reference, hcfg, hst, hstrip, Option.getD_some]

end Scanner

/-- A relative root with `.` and `..` in it, read against the working directory, meets every
condition of the theorem. -/
theorem scan_paths_rebuild_directories_relative_root :
    let v : Volume :=
      { entries := [(["work"], .dir), (["work", "docs"], .dir),
          (["work", "docs", "a.feature"], .file ""), (["work", "docs", "sub"], .dir)]
        cwd := ["work"] }
    let s : Scanner := {}
    v.IsTree ∧ Path.absoluteNames v.cwd ⟨"./tmp/../docs"⟩ = .ok ["work", "docs"] ∧
      ["work", "docs"] ≠ [] ∧ ∃ W : WorkList, s.scan v ⟨"./tmp/../docs"⟩ = .ok W ∧
        ValidLocation ["work", "docs"] ∧
        (Component.current ∉ (Location.path ["work", "docs"]).components ∧
          Component.parent ∉ (Location.path ["work", "docs"]).components) ∧
        ∀ E ∈ W.entries,
          (Component.current ∉ E.absolutePath.components ∧
            Component.parent ∉ E.absolutePath.components) ∧
          (∃ n, E.pathList.head? = some n ∧ ["work", "docs"].getLast? = some n ∧ ValidName n) ∧
          E.pathList.foldl Path.push W.rootPath = E.absolutePath ∧
          (∀ t : TocBuilder, t.rootPath = W.rootPath →
            ∀ (u w : Volume) (subdirs files : List String),
            (∀ n, n ∈ files ∨ n = displayNameFile →
              u.readFile (E.absolutePath.push n) = w.readFile (E.absolutePath.push n)) →
            u.isFile (E.absolutePath.push displayNameFile) =
              w.isFile (E.absolutePath.push displayNameFile) →
            t.build u E.pathList subdirs files = t.build w E.pathList subdirs files) ∧
          ∀ f ∈ E.files, ∃ q : Path, (E.absolutePath.push f).stripPrefix? W.rootPath = some q ∧
            q.components = (E.pathList ++ [f]).map .normal ∧
            ∀ (cfg : PageSettings) (st : Step), cfg.rootPath = W.rootPath →
              st.filename = E.absolutePath.push f → (cfg.reference st).location = q := by
  intro v s
  have hv : v.IsTree := by decide
  have hnames : Path.absoluteNames v.cwd ⟨"./tmp/../docs"⟩ = .ok ["work", "docs"] := rfl
  have hdir : v.isDir (Location.path ["work", "docs"]) = true :=
    Volume.isDir_path_of_dirs (by decide) (by decide)
  obtain ⟨-, W, hscan, -⟩ := Scanner.scan_spec s hv hnames hdir
  obtain ⟨hvalid, hreal, hentries⟩ :=
    s.scan_paths_rebuild_directories hv hnames (List.cons_ne_nil _ _)
  exact ⟨hv, hnames, List.cons_ne_nil _ _, W, hscan, hvalid, hreal, hentries W hscan⟩

end FeatureDocs.Tree
