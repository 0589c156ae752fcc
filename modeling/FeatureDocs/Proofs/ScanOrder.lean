import FeatureDocs.Proofs.VolumeTree
import FeatureDocs.Tree.Scan

/-!
# What a scan lists

A scan records the root of a source tree and, below every directory it records, each real
subdirectory that is not hidden (and not private, unless asked) and that no exclude pattern
matches, with everything below it. This module states that set of directories on its own
(`Scanner.Reaches`) and shows that on a volume holding a directory tree the scan lists each of
them exactly once, in the lexicographic order of their path lists, which is the order of a
depth-first walk that visits names in byte order. Every entry carries its subdirectories and its
source files, sorted.

* `Scanner.Entered`, `Scanner.Descends`, `Scanner.Reaches`: the directories a scan records;
* `scanDir_succ`: one directory of the walk, as a list;
* `mem_record_subDirectories`, `mem_record_files`: what an entry carries;
* `mem_scanDir`, `scanDir_pairwise`: the walk below one directory;
* `scan_eq_ok`: when a scan succeeds, and what it lists;
* `scan_spec`, `scan_entries`: the entries of a scan of a directory;
* **`scan_lists_reached_directories`**: the whole scan.
-/

namespace FeatureDocs.Tree

open FeatureDocs.Store FeatureDocs.Store.Volume FeatureDocs.Data

namespace Scanner

variable (s : Scanner) (v : Volume)

/-! ## One directory of the walk -/

theorem scanDir_zero (dir : Path) (pathList : List String) (acc : List DirEntry) :
    s.scanDir v 0 dir pathList acc = acc := by
  rw [scanDir]

theorem foldl_scanDir {fuel : Nat}
    (hfuel : ∀ dir pathList acc, s.scanDir v fuel dir pathList acc =
      acc ++ s.scanDir v fuel dir pathList [])
    (dir : Path) (pathList : List String) (subs : List String) (acc : List DirEntry) :
    subs.foldl (fun acc sub => s.scanDir v fuel (dir.push sub) (pathList ++ [sub]) acc) acc =
      acc ++ subs.flatMap fun sub => s.scanDir v fuel (dir.push sub) (pathList ++ [sub]) [] := by
  induction subs generalizing acc with
  | nil => simp
  | cons sub subs ih => rw [List.foldl_cons, ih, hfuel, List.flatMap_cons, List.append_assoc]

theorem scanDir_append (fuel : Nat) (dir : Path) (pathList : List String) (acc : List DirEntry) :
    s.scanDir v fuel dir pathList acc = acc ++ s.scanDir v fuel dir pathList [] := by
  induction fuel generalizing dir pathList acc with
  | zero => simp [scanDir_zero]
  | succ fuel ih =>
    rw [scanDir, scanDir]
    split
    · simp
    · split
      · simp
      · simp only [foldl_scanDir s v ih, List.nil_append, List.append_assoc]

/-- A directory that is entered and read is recorded, and then the walk goes down into each of
its subdirectories in turn. -/
theorem scanDir_succ (fuel : Nat) (dir : Path) (pathList : List String) :
    s.scanDir v (fuel + 1) dir pathList [] =
      if s.exclude.matches dir.text then []
      else
        match v.readDir dir with
        | .error _ => []
        | .ok (_, kids) =>
          ⟨dir, pathList, (s.sortEntries v dir kids).1, (s.sortEntries v dir kids).2⟩ ::
            (s.sortEntries v dir kids).1.flatMap fun sub =>
              s.scanDir v fuel (dir.push sub) (pathList ++ [sub]) [] := by
  rw [scanDir]
  split
  · rfl
  · rcases v.readDir dir with _ | ⟨_, kids⟩
    · rfl
    · simp only [foldl_scanDir s v (scanDir_append s v fuel), List.nil_append, List.cons_append]

/-! ## The entries a directory contributes -/

/-- The names that pass the test for subdirectories. -/
def IsSub (k : String × Node) : Bool :=
  !isHidden k.1 && k.2 == .dir && (s.includePrivate || !isPrivate k.1)

/-- The names that pass the test for source files. -/
def IsSource (dir : Path) (k : String × Node) : Bool :=
  !isHidden k.1 && k.2 != .dir && v.isFile (dir.push k.1) && isSourceFile k.1 &&
    !s.exclude.matches k.1

theorem sortEntries_eq (dir : Path) (kids : List (String × Node)) :
    s.sortEntries v dir kids =
      ((kids.filter s.IsSub).map Prod.fst, (kids.filter (s.IsSource v dir)).map Prod.fst) := by
  induction kids with
  | nil => rfl
  | cons k kids ih =>
    obtain ⟨name, node⟩ := k
    rw [sortEntries, List.foldr_cons, ← sortEntries, ih, List.filter_cons, List.filter_cons]
    by_cases hh : isHidden name <;> by_cases hd : node = .dir <;>
      simp [hh, hd, IsSub, IsSource] <;> split_ifs <;> simp_all

theorem mem_sortEntries_fst {dir : Path} {kids : List (String × Node)} {n : String} :
    n ∈ (s.sortEntries v dir kids).1 ↔ ∃ node, (n, node) ∈ kids ∧ s.IsSub (n, node) := by
  simp [sortEntries_eq]

theorem mem_sortEntries_snd {dir : Path} {kids : List (String × Node)} {n : String} :
    n ∈ (s.sortEntries v dir kids).2 ↔ ∃ node, (n, node) ∈ kids ∧ s.IsSource v dir (n, node) := by
  simp [sortEntries_eq]

theorem sortEntries_pairwise {dir : Path} {kids : List (String × Node)}
    (h : kids.Pairwise fun a b => compareText a.1 b.1 = .lt) :
    (s.sortEntries v dir kids).1.Pairwise (fun a b => compareText a b = .lt) ∧
      (s.sortEntries v dir kids).2.Pairwise (fun a b => compareText a b = .lt) := by
  rw [sortEntries_eq]
  exact ⟨List.pairwise_map.mpr (h.sublist List.filter_sublist),
    List.pairwise_map.mpr (h.sublist List.filter_sublist)⟩

/-! ## The directories a scan records -/

section Reach

variable (names : Location)

/-- The directory at `p` below the root is entered: no exclude pattern matches its full path. -/
def Entered (p : List String) : Prop :=
  s.exclude.matches (Location.path (names ++ p)).text = false

/-- From the directory at `p` the scan goes down into its entry `n`: a directory itself, not a
link to one, whose name is not hidden and, unless private names are asked for, not private. -/
def Descends (p : List String) (n : String) : Prop :=
  ValidName n ∧ v.linkMetadata (Location.path (names ++ p ++ [n])) = .ok .dir ∧
    isHidden n = false ∧ (s.includePrivate = true ∨ isPrivate n = false)

/-- `Reaches p q`: a walk started at the directory `p` records the directory `p ++ q`. Every
directory on the way is entered, and each step goes down into one of its subdirectories. -/
inductive Reaches : List String → List String → Prop
  | here {p : List String} : s.Entered names p → Reaches p []
  | down {p : List String} {n : String} {q : List String} :
      s.Entered names p → s.Descends v names p n → Reaches (p ++ [n]) q → Reaches p (n :: q)

variable {s v names}

theorem Reaches.entered {p q : List String} (h : s.Reaches v names p q) : s.Entered names p := by
  cases h with
  | here he => exact he
  | down he _ _ => exact he

theorem reaches_cons_iff {p : List String} {n : String} {q : List String} :
    s.Reaches v names p (n :: q) ↔
      s.Entered names p ∧ s.Descends v names p n ∧ s.Reaches v names (p ++ [n]) q := by
  constructor
  · rintro (_ | ⟨he, hd, hq⟩)
    exact ⟨he, hd, hq⟩
  · rintro ⟨he, hd, hq⟩
    exact .down he hd hq

theorem Reaches.of_concat {p q : List String} {n : String} (h : s.Reaches v names p (q ++ [n])) :
    s.Reaches v names p q ∧ s.Descends v names (p ++ q) n := by
  induction q generalizing p with
  | nil =>
    obtain ⟨he, hd, -⟩ := reaches_cons_iff.mp h
    exact ⟨.here he, by simpa using hd⟩
  | cons m q ih =>
    obtain ⟨he, hd, hq⟩ := reaches_cons_iff.mp h
    obtain ⟨hq, hdn⟩ := ih hq
    exact ⟨.down he hd hq, by simpa using hdn⟩

end Reach

/-! ## The walk below one directory -/

section Walk

variable (names L : Location) (rootName : String)

/-- What the scan records for the directory at `p`, whose entries are those at `L ++ p`. -/
def record (p : List String) : DirEntry :=
  ⟨Location.path (names ++ p), rootName :: p,
    (s.sortEntries v (Location.path (names ++ p)) (v.children (L ++ p))).1,
    (s.sortEntries v (Location.path (names ++ p)) (v.children (L ++ p))).2⟩

variable {s v names L rootName}

theorem scanDir_not_entered {p : List String} (he : ¬ s.Entered names p) (fuel : Nat)
    (pathList : List String) : s.scanDir v fuel (Location.path (names ++ p)) pathList [] = [] := by
  cases fuel with
  | zero => exact scanDir_zero s v _ _ _
  | succ fuel =>
    rw [Entered, Bool.not_eq_false] at he
    rw [scanDir_succ, if_pos he]

variable (hv : v.IsTree)
include hv

theorem record_pairwise (p : List String) :
    (s.record v names L rootName p).subDirectories.Pairwise (fun a b => compareText a b = .lt) ∧
      (s.record v names L rootName p).files.Pairwise (fun a b => compareText a b = .lt) :=
  s.sortEntries_pairwise v (children_pairwise hv (L ++ p))

section At

variable {p : List String} (h : v.DirAt names L p)
include h

/-- A recorded directory lists exactly the subdirectories the scan goes down into. -/
theorem mem_record_subDirectories {n : String} :
    n ∈ (s.record v names L rootName p).subDirectories ↔ s.Descends v names p n := by
  simp only [record, mem_sortEntries_fst]
  constructor
  · rintro ⟨node, hmem, hsub⟩
    have hn := validName_of_mem_children hv hmem
    simp only [IsSub, Bool.and_eq_true, Bool.not_eq_eq_eq_not, Bool.not_true, beq_iff_eq,
      Bool.or_eq_true] at hsub
    obtain ⟨⟨hh, rfl⟩, hp⟩ := hsub
    refine ⟨hn, ?_, hh, by simpa using hp⟩
    rw [linkMetadata_path_concat h.valid h.walk hn, lookup_concat_iff hv]
    exact mem_children.mp hmem
  · rintro ⟨hn, hdir, hh, hp⟩
    rw [linkMetadata_path_concat h.valid h.walk hn, lookup_concat_iff hv] at hdir
    refine ⟨.dir, mem_children.mpr hdir, ?_⟩
    simp only [IsSub, hh]
    cases hp <;> simp_all

/-- A recorded directory lists exactly its visible source files that no pattern excludes. -/
theorem mem_record_files {n : String} :
    n ∈ (s.record v names L rootName p).files ↔
      ValidName n ∧ isHidden n = false ∧ v.isFile (Location.path (names ++ p ++ [n])) = true ∧
        isSourceFile n = true ∧ s.exclude.matches n = false := by
  simp only [record, mem_sortEntries_snd]
  constructor
  · rintro ⟨node, hmem, hsrc⟩
    have hn := validName_of_mem_children hv hmem
    simp only [IsSource, Bool.and_eq_true, Bool.not_eq_eq_eq_not, Bool.not_true] at hsrc
    obtain ⟨⟨⟨⟨hh, -⟩, hfile⟩, hsf⟩, hex⟩ := hsrc
    rw [push_path h.valid hn] at hfile
    exact ⟨hn, hh, hfile, hsf, hex⟩
  · rintro ⟨hn, hh, hfile, hsf, hex⟩
    obtain ⟨node, hl, hnd⟩ := isFile_path_concat h.valid h.walk hn hfile
    refine ⟨node, mem_children.mpr ((lookup_concat_iff hv).mp hl), ?_⟩
    simpa [IsSource, hh, hnd, push_path h.valid hn, hsf, hex] using hfile

omit hv in
theorem dirAt_of_descends {n : String} (hd : s.Descends v names p n) :
    v.DirAt names L (p ++ [n]) :=
  h.concat hd.1 ((linkMetadata_path_concat h.valid h.walk hd.1).mp hd.2.1)

/-- At an entered directory the walk records it, then walks below each of its subdirectories
in turn. -/
theorem scanDir_entered (he : s.Entered names p) (fuel : Nat) :
    s.scanDir v (fuel + 1) (Location.path (names ++ p)) (rootName :: p) [] =
      s.record v names L rootName p ::
        (s.record v names L rootName p).subDirectories.flatMap fun sub =>
          s.scanDir v fuel (Location.path (names ++ (p ++ [sub]))) (rootName :: (p ++ [sub])) [] := by
  rw [Entered] at he
  rw [scanDir_succ, he, h.readDir]
  simp only [Bool.false_eq_true, if_false]
  refine congrArg _ (List.flatMap_congr fun sub hsub => ?_)
  obtain ⟨node, hmem, -⟩ := (s.mem_sortEntries_fst v).mp hsub
  rw [push_path h.valid (validName_of_mem_children hv hmem), List.append_assoc, List.cons_append]

end At

/-- Started at a directory with fuel for the depth of the volume, the walk records exactly the
directories it reaches. -/
theorem mem_scanDir (fuel : Nat) : ∀ {p : List String}, v.DirAt names L p →
    v.entries.length < p.length + fuel → ∀ e,
      e ∈ s.scanDir v fuel (Location.path (names ++ p)) (rootName :: p) [] ↔
        ∃ q, s.Reaches v names p q ∧ e = s.record v names L rootName (p ++ q) := by
  induction fuel with
  | zero =>
    intro p h hlen
    exact absurd h.length_le (by omega)
  | succ fuel ih =>
    intro p h hlen e
    by_cases he : s.Entered names p
    · rw [scanDir_entered hv h he, List.mem_cons, List.mem_flatMap]
      constructor
      · rintro (rfl | ⟨sub, hsub, hmem⟩)
        · exact ⟨[], .here he, by rw [List.append_nil]⟩
        · have hd := (mem_record_subDirectories hv h).mp hsub
          obtain ⟨q, hq, rfl⟩ := (ih (dirAt_of_descends h hd) (by simp; omega) e).mp hmem
          exact ⟨sub :: q, .down he hd hq, by simp⟩
      · rintro ⟨_ | ⟨n, q⟩, hr, rfl⟩
        · exact .inl (by rw [List.append_nil])
        · obtain ⟨-, hd, hq⟩ := reaches_cons_iff.mp hr
          refine .inr ⟨n, (mem_record_subDirectories hv h).mpr hd, ?_⟩
          exact (ih (dirAt_of_descends h hd) (by simp; omega) _).mpr ⟨q, hq, by simp⟩
    · rw [scanDir_not_entered he]
      simp only [List.not_mem_nil, false_iff, not_exists, not_and]
      exact fun q hq => absurd hq.entered he

/-- The walk lists path lists in increasing lexicographic order: a directory before what lies
below it, and its subdirectories in the order of their names. -/
theorem scanDir_pairwise (fuel : Nat) : ∀ {p : List String}, v.DirAt names L p →
    v.entries.length < p.length + fuel →
      (s.scanDir v fuel (Location.path (names ++ p)) (rootName :: p) []).Pairwise
        fun a b => Data.compareLex compareText a.pathList b.pathList = .lt := by
  induction fuel with
  | zero =>
    intro p h hlen
    exact absurd h.length_le (by omega)
  | succ fuel ih =>
    intro p h hlen
    by_cases he : s.Entered names p
    · -- what the walk records below a subdirectory extends the path list by its name
      have hbelow : ∀ sub ∈ (s.record v names L rootName p).subDirectories,
          ∀ e ∈ s.scanDir v fuel (Location.path (names ++ (p ++ [sub]))) (rootName :: (p ++ [sub])) [],
            ∃ q, e.pathList = (rootName :: p) ++ sub :: q := by
        intro sub hsub e hmem
        have hd := (mem_record_subDirectories hv h).mp hsub
        obtain ⟨q, -, rfl⟩ := (mem_scanDir hv fuel (dirAt_of_descends h hd) (by simp; omega) e).mp hmem
        exact ⟨q, by simp [record]⟩
      rw [scanDir_entered hv h he, List.pairwise_cons, List.pairwise_flatMap]
      refine ⟨?_, fun sub hsub => ?_, ?_⟩
      · intro e hmem
        obtain ⟨sub, hsub, hmem⟩ := List.mem_flatMap.mp hmem
        obtain ⟨q, hq⟩ := hbelow sub hsub e hmem
        rw [hq]
        exact compareLex_prefix_lt _ _ _
      · exact ih (dirAt_of_descends h ((mem_record_subDirectories hv h).mp hsub)) (by simp; omega)
      · refine (record_pairwise hv p).1.imp_of_mem fun {a b} ha hb hab x hx y hy => ?_
        obtain ⟨qa, hqa⟩ := hbelow a ha x hx
        obtain ⟨qb, hqb⟩ := hbelow b hb y hy
        rw [hqa, hqb]
        exact compareLex_append_cons_lt _ _ _ hab
    · rw [scanDir_not_entered he]
      exact List.Pairwise.nil

variable {p : List String}

omit hv in
theorem Reaches.dirAt {q : List String} (hr : s.Reaches v names p q) (h : v.DirAt names L p) :
    v.DirAt names L (p ++ q) := by
  induction hr with
  | here => simpa using h
  | down _ hd _ ih => simpa using ih (dirAt_of_descends h hd)

end Walk

/-! ## The whole scan -/

section Run

variable {s v}

/-- A scan succeeds when its root folds to the names of a directory it can read, and lists, from
the directory above it, what the walk below it records. -/
theorem scan_eq_ok {root : Path} {W : WorkList} :
    s.scan v root = .ok W ↔ ∃ names r, Path.absoluteNames v.cwd root = .ok names ∧
      v.metadata (Location.path names) = .ok .dir ∧ v.readDir (Location.path names) = .ok r ∧
      W = ⟨((Location.path names).parent?).getD (Location.path names),
        s.scanDir v (v.entries.length + 1) (Location.path names)
          [((Location.path names).fileName?).getD ""] []⟩ := by
  unfold scan
  constructor
  · intro h
    split at h
    · cases h
    · next names hnames =>
      dsimp only at h
      split at h
      · cases h
      · next hmeta =>
        split at h
        · cases h
        · next r hread =>
          cases h
          exact ⟨names, r, hnames, hmeta, hread, rfl⟩
      · cases h
  · rintro ⟨names, r, hnames, hmeta, hread, rfl⟩
    simp [hnames, hmeta, hread]

end Run

section Scan

variable {v : Volume} (hv : v.IsTree) {root : Path} {names : Location}
  (hnames : Path.absoluteNames v.cwd root = .ok names)
  (hdir : v.isDir (Location.path names) = true)
include hv hnames hdir

/-- A scan of a root that names a directory records exactly the directories its walk reaches,
in increasing order of path list, each read at the location the root's path leads to. -/
theorem scan_spec : ∃ L W, s.scan v root = .ok W ∧
    (∀ e, e ∈ W.entries ↔
      ∃ p, s.Reaches v names [] p ∧ e = s.record v names L (names.getLast?.getD "") p) ∧
    W.entries.Pairwise (fun a b => Data.compareLex compareText a.pathList b.pathList = .lt) ∧
    ∀ p, s.Reaches v names [] p → v.DirAt names L p := by
  have hX := validLocation_absoluteNames hv.cwd_valid hnames
  have hmeta : v.metadata (Location.path names) = .ok .dir := by
    unfold isDir at hdir
    split at hdir
    · assumption
    · cases hdir
  obtain ⟨L, hwalk⟩ : ∃ L, v.walk true linkBudget [] names = .ok (.entry L .dir) := by
    rw [metadata, resolve_path hX] at hmeta
    split at hmeta
    · next L n hres =>
      cases hmeta
      exact ⟨L, hres⟩
    · cases hmeta
    · cases hmeta
  have h0 : v.DirAt names L [] := .nil hX hwalk
  have hread : v.readDir (Location.path names) = .ok (L, v.children L) := by
    simpa using h0.readDir
  have hlen : v.entries.length < ([] : List String).length + (v.entries.length + 1) := by simp
  refine ⟨L, ⟨((Location.path names).parent?).getD (Location.path names),
    s.scanDir v (v.entries.length + 1) (Location.path names) [names.getLast?.getD ""] []⟩,
    scan_eq_ok.mpr ⟨names, _, hnames, hmeta, hread, by rw [fileName_path hX]⟩,
    fun e => by simpa using mem_scanDir hv _ h0 hlen e,
    by simpa using scanDir_pairwise hv _ h0 hlen, fun p hp => by simpa using hp.dirAt h0⟩

theorem scan_entries {W : WorkList} (hscan : s.scan v root = .ok W) : ∃ L,
    (∀ e, e ∈ W.entries ↔
      ∃ p, s.Reaches v names [] p ∧ e = s.record v names L (names.getLast?.getD "") p) ∧
    W.entries.Pairwise (fun a b => Data.compareLex compareText a.pathList b.pathList = .lt) ∧
    ∀ p, s.Reaches v names [] p → v.DirAt names L p := by
  obtain ⟨L, W', hscan', hmem, hsorted, hat⟩ := scan_spec s hv hnames hdir
  obtain rfl : W = W' := Except.ok.inj (hscan.symm.trans hscan')
  exact ⟨L, hmem, hsorted, hat⟩

/-- **A scan lists the directories it reaches, in preorder.** For a root that names a directory,
the scan lists one entry for each directory reached from the root, with the root's name before
the path to it, in strictly increasing lexicographic order of path list. Each entry is read at
its path and lists its subdirectories and its source files, both sorted by name. -/
theorem scan_lists_reached_directories : ∃ W : WorkList, s.scan v root = .ok W ∧
    (∀ pl, pl ∈ W.entries.map DirEntry.pathList ↔
      ∃ p, s.Reaches v names [] p ∧ pl = names.getLast?.getD "" :: p) ∧
    (W.entries.map DirEntry.pathList).Nodup ∧
    W.entries.Pairwise (fun a b => Data.compareLex compareText a.pathList b.pathList = .lt) ∧
    ∀ e ∈ W.entries, ∃ p, e.pathList = names.getLast?.getD "" :: p ∧
      e.absolutePath = Location.path (names ++ p) ∧
      e.subDirectories.Pairwise (fun a b => compareText a b = .lt) ∧
      (∀ n, n ∈ e.subDirectories ↔ s.Descends v names p n) ∧
      e.files.Pairwise (fun a b => compareText a b = .lt) ∧
      (∀ n, n ∈ e.files ↔ ValidName n ∧ isHidden n = false ∧
        v.isFile (Location.path (names ++ p ++ [n])) = true ∧ isSourceFile n = true ∧
        s.exclude.matches n = false) := by
  obtain ⟨L, W, hscan, hmem, hsorted, hat⟩ := scan_spec s hv hnames hdir
  refine ⟨W, hscan, fun pl => ?_, ?_, hsorted, fun e he => ?_⟩
  · simp only [List.mem_map, hmem]
    constructor
    · rintro ⟨e, ⟨p, hp, rfl⟩, rfl⟩
      exact ⟨p, hp, rfl⟩
    · rintro ⟨p, hp, rfl⟩
      exact ⟨_, ⟨p, hp, rfl⟩, rfl⟩
  · exact nodup_map_of_pairwise_lt hsorted
  · obtain ⟨p, hp, rfl⟩ := (hmem e).mp he
    have h := hat p hp
    exact ⟨p, rfl, rfl, (record_pairwise hv p).1, fun n => mem_record_subDirectories hv h,
      (record_pairwise hv p).2, fun n => mem_record_files hv h⟩

end Scan

/-- A root holding a feature file and a subdirectory meets every condition of the scan. -/
theorem scan_lists_reached_directories_docs :
    let v : Volume :=
      { entries := [(["docs"], .dir), (["docs", "a.feature"], .file ""), (["docs", "sub"], .dir)] }
    let s : Scanner := {}
    v.IsTree ∧ Path.absoluteNames v.cwd ⟨"/docs"⟩ = .ok ["docs"] ∧
      v.isDir (Location.path ["docs"]) = true ∧
      ∃ W : WorkList, s.scan v ⟨"/docs"⟩ = .ok W ∧
        (∀ pl, pl ∈ W.entries.map DirEntry.pathList ↔
          ∃ p, s.Reaches v ["docs"] [] p ∧ pl = ["docs"].getLast?.getD "" :: p) ∧
        (W.entries.map DirEntry.pathList).Nodup ∧
        W.entries.Pairwise (fun a b => Data.compareLex compareText a.pathList b.pathList = .lt) ∧
        ∀ e ∈ W.entries, ∃ p, e.pathList = ["docs"].getLast?.getD "" :: p ∧
          e.absolutePath = Location.path (["docs"] ++ p) ∧
          e.subDirectories.Pairwise (fun a b => compareText a b = .lt) ∧
          (∀ n, n ∈ e.subDirectories ↔ s.Descends v ["docs"] p n) ∧
          e.files.Pairwise (fun a b => compareText a b = .lt) ∧
          (∀ n, n ∈ e.files ↔ ValidName n ∧ isHidden n = false ∧
            v.isFile (Location.path (["docs"] ++ p ++ [n])) = true ∧ isSourceFile n = true ∧
            s.exclude.matches n = false) := by
  intro v s
  have hv : v.IsTree := by decide
  have hnames : Path.absoluteNames v.cwd ⟨"/docs"⟩ = .ok ["docs"] := rfl
  have hdir : v.isDir (Location.path ["docs"]) = true := isDir_path_of_dirs (by decide) (by decide)
  exact ⟨hv, hnames, hdir, scan_lists_reached_directories s hv hnames hdir⟩

end Scanner

end FeatureDocs.Tree
