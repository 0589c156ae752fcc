import FeatureDocs.Proofs.OutputNames
import FeatureDocs.Proofs.PathWalk

/-!
# Two builds of one work list, in step

Two builds of the same work list go through the same directories and the same files in the same
order. They read the same features and the same tables of contents as long as the first one
writes only outside the scanned directory: on a volume without symbolic links, every output of a
build is a file directly in the output directory, and a file there is neither above nor below the
scanned directory when the output directory is not inside it. Making the output directory makes
directories only where its path goes, which must stay outside the scanned directory too
(`Untouched`, `BuildsOutside`).

What the second build does with each write and copy of the first is the one thing that changes
from one pair of builds to another; `Follows` bundles it, with a relation `Vb` between the jobs
of the two builds beyond what `InStep` compares. From it, `Follows.file` … `Follows.directories`
take the two builds through a file, a directory and the whole loop over the directories. The
first build's log is bounded by a list `L`, so that the second may use what the first writes
after the current step: `foldlM_lockstep` hands each step the bound on the first build's log.

* `TocBuilder.build_congr`: a table of contents reads only the files of its directory;
* `WorkList.Located`, `scan_located`: where the directories of a scan lie;
* `Untouched`, `BuildsOutside`: a build that leaves the scanned directory as it was;
* `foldlM_lockstep`: two folds in step;
* `InStep`, `Follows`, and `Follows.file` … `Follows.directories`: two builds in step.
-/

namespace FeatureDocs.Tree

open FeatureDocs.Store FeatureDocs.Markup FeatureDocs.Feature FeatureDocs.Render

/-! ## What a table of contents reads -/

theorem foldlM_congr_mem {m : Type → Type} [Monad m] {α β : Type} {f g : β → α → m β} :
    ∀ (l : List α) (init : β), (∀ x ∈ l, ∀ b, f b x = g b x) →
      l.foldlM f init = l.foldlM g init
  | [], _, _ => rfl
  | x :: l, init, h => by
    simp only [List.foldlM_cons, h x List.mem_cons_self]
    congr 1
    funext b
    exact foldlM_congr_mem l b fun y hy => h y (List.mem_cons_of_mem x hy)

theorem displayName_congr {v w : Volume} {dir : Path} (style : Option HeadingStyle)
    (hfile : v.isFile (dir.push displayNameFile) = w.isFile (dir.push displayNameFile))
    (hread : v.readFile (dir.push displayNameFile) = w.readFile (dir.push displayNameFile)) :
    displayName v dir style = displayName w dir style := by
  simp only [displayName, hfile, hread]

/-- A table of contents reads only the listed files of its directory and the marker file. -/
theorem TocBuilder.build_congr {t : TocBuilder} {v w : Volume}
    {pathList subdirs files : List String}
    (hread : ∀ n, n ∈ files ∨ n = displayNameFile →
      v.readFile ((pathList.foldl Path.push t.rootPath).push n) =
        w.readFile ((pathList.foldl Path.push t.rootPath).push n))
    (hfile : v.isFile ((pathList.foldl Path.push t.rootPath).push displayNameFile) =
      w.isFile ((pathList.foldl Path.push t.rootPath).push displayNameFile)) :
    t.build v pathList subdirs files = t.build w pathList subdirs files := by
  simp only [TocBuilder.build]
  refine congrArg₂ (· >>= ·) ?_ (funext fun x => ?_)
  · -- the inlined files are read in name order
    refine foldlM_congr_mem _ _ fun file hf acc => ?_
    obtain ⟨doc, inlined⟩ := acc
    have hmem : file ∈ files := (List.mergeSort_perm _ _).mem_iff.mp hf
    simp only [hread file (.inl hmem)]
  · obtain ⟨doc, inlined⟩ := x
    simp only [displayName_congr t.style hfile (hread _ (.inr rfl))]

/-! ## Where the directories of a scan lie -/

/-- Where the directories of a work list lie: each at the path of `names` followed by some
names, with files of valid names, and the path a table of contents reads it at, its path list
appended to the root path, is its own path. -/
structure WorkList.Located (W : WorkList) (names : Location) : Prop where
  entry : ∀ E ∈ W.entries, ∃ p, ValidLocation (names ++ p) ∧
    E.absolutePath = Location.path (names ++ p)
  pathList : ∀ E ∈ W.entries, E.pathList ≠ [] ∧ ValidLocation E.pathList
  tocDir : ∀ E ∈ W.entries, E.pathList.foldl Path.push W.rootPath = E.absolutePath
  files : ∀ E ∈ W.entries, ∀ f ∈ E.files, ValidName f

theorem Scanner.scan_rootPath (s : Scanner) {v : Volume} {root : Path} {names : Location}
    (hnames : Path.absoluteNames v.cwd root = .ok names) {W : WorkList}
    (hscan : s.scan v root = .ok W) :
    W.rootPath = ((Location.path names).parent?).getD (Location.path names) := by
  obtain ⟨names', r, hnames', -, -, rfl⟩ := Scanner.scan_eq_ok.mp hscan
  obtain rfl : names' = names := Except.ok.inj (hnames'.symm.trans hnames)
  rfl

/-- The directories of a scan of a directory below the top lie below it. -/
theorem scan_located (s : Scanner) {v : Volume} (hv : v.IsTree) {root : Path} {names : Location}
    (hnames : Path.absoluteNames v.cwd root = .ok names)
    (hdir : v.isDir (Location.path names) = true) (hne : names ≠ []) {W : WorkList}
    (hscan : s.scan v root = .ok W) : W.Located names := by
  obtain ⟨L, hmem, -, hat⟩ := Scanner.scan_entries s hv hnames hdir hscan
  have hX := validLocation_absoluteNames hv.cwd_valid hnames
  have hsplit := List.dropLast_append_getLast hne
  have hlast : names.getLast?.getD "" = names.getLast hne := by
    rw [List.getLast?_eq_some_getLast hne]
    rfl
  have hroot : W.rootPath = Location.path names.dropLast := by
    rw [Scanner.scan_rootPath s hnames hscan, parent?_path hX hne]
    rfl
  have hinit : ValidLocation names.dropLast := fun n hn => hX n (List.dropLast_subset names hn)
  refine ⟨fun E hE => ?_, fun E hE => ?_, fun E hE => ?_, fun E hE f hf => ?_⟩
  · obtain ⟨p, hp, rfl⟩ := (hmem E).mp hE
    exact ⟨p, (hat p hp).valid, rfl⟩
  · -- a path list is the root's name, then the names below it
    obtain ⟨p, hp, rfl⟩ := (hmem E).mp hE
    refine ⟨List.cons_ne_nil _ _, ?_⟩
    have hvalid := (hat p hp).valid
    rw [← hsplit, List.append_assoc] at hvalid
    simpa [Scanner.record, hlast] using hvalid.of_append_right
  · obtain ⟨p, hp, rfl⟩ := (hmem E).mp hE
    have hvalid := (hat p hp).valid
    rw [← hsplit, List.append_assoc] at hvalid
    rw [hroot, foldl_push_path hinit
      (by simpa [Scanner.record, hlast] using hvalid.of_append_right)]
    show Location.path (names.dropLast ++ (names.getLast?.getD "" :: p)) =
      Location.path (names ++ p)
    rw [hlast]
    conv_rhs => rw [← hsplit]
    simp
  · obtain ⟨p, hp, rfl⟩ := (hmem E).mp hE
    exact ((Scanner.mem_record_files hv (hat p hp)).mp hf).1

/-! ## A build that writes outside the scanned directory -/

/-- The build's volume `u` reads as `v` where the build reads: it has no links, the same working
directory, and agrees with `v` about the scanned directory `names`. -/
structure Untouched (names : Location) (v u : Volume) : Prop where
  linkless : u.Linkless
  cwd : u.cwd = v.cwd
  tree : Volume.SameTree names u v

/-- A build into the output directory, at the location `out`, on a volume `v` without links where
`names` is a directory: neither `out` nor any directory the output path enters on its way lies
inside `names`. -/
structure BuildsOutside (cfg : BuildSettings) (v : Volume) (names out : Location) : Prop where
  outputDir : Path.absoluteNames v.cwd cfg.outputDir = .ok out
  passes : ∀ q ∈ cfg.outputDir.entered v.cwd, ¬ names <+: q
  outside : ¬ names <+: out
  linkless : v.Linkless
  dirs : ∀ q, q <+: names → v.lookup q = some .dir

namespace Untouched

variable {cfg : BuildSettings} {names out : Location} {v u u' : Volume}

theorem refl (hv : v.Linkless) (names : Location) : Untouched names v v := ⟨hv, rfl, .refl names v⟩

theorem readFile_eq (hu : Untouched names v u) {X : Location} (hX : ValidLocation X)
    (hin : names <+: X) : u.readFile (Location.path X) = v.readFile (Location.path X) :=
  hu.tree.readFile_eq hu.linkless hX hin

theorem isFile_eq (hu : Untouched names v u) {X : Location} (hX : ValidLocation X)
    (hin : names <+: X) : u.isFile (Location.path X) = v.isFile (Location.path X) :=
  hu.tree.isFile_eq hu.linkless hX hin

theorem readFile_push_eq (hu : Untouched names v u) (hu' : Untouched names v u')
    {p : Location} (hp : ValidLocation (names ++ p)) {n : String} (hn : ValidName n) :
    u'.readFile ((Location.path (names ++ p)).push n) =
      u.readFile ((Location.path (names ++ p)).push n) := by
  have hin : names <+: names ++ p ++ [n] := ⟨p ++ [n], by simp⟩
  rw [push_path hp hn, hu'.readFile_eq (hp.append (.singleton hn)) hin,
    hu.readFile_eq (hp.append (.singleton hn)) hin]

theorem isFile_push_eq (hu : Untouched names v u) (hu' : Untouched names v u')
    {p : Location} (hp : ValidLocation (names ++ p)) {n : String} (hn : ValidName n) :
    u'.isFile ((Location.path (names ++ p)).push n) =
      u.isFile ((Location.path (names ++ p)).push n) := by
  have hin : names <+: names ++ p ++ [n] := ⟨p ++ [n], by simp⟩
  rw [push_path hp hn, hu'.isFile_eq (hp.append (.singleton hn)) hin,
    hu.isFile_eq (hp.append (.singleton hn)) hin]

theorem writeFile (hu : Untouched names v u) (hs : BuildsOutside cfg v names out) {x t : String}
    (hx : ValidName x) (hw : u.writeFile (cfg.outputDir.push x) t = .ok u') :
    Untouched names v u' := by
  obtain ⟨-, rfl, hne⟩ := Volume.writeFile_push (hu.cwd ▸ hs.outputDir) hx hu.linkless hw
  -- the file is set at a location that held no directory, in `out`, which `names` does not hold
  exact ⟨hu.linkless.set _ rfl, hu.cwd,
    hu.tree.set_of_ne_dir hs.dirs hne (by simpa using hs.outside) _⟩

theorem makeDirs (hs : BuildsOutside cfg v names out) (hm : v.makeDirs cfg.outputDir = .ok u') :
    Untouched names v u' := by
  have hmade := Volume.makeDirs_entered hs.linkless hm
  exact ⟨hmade.linkless, hmade.cwd,
    (Volume.SameTree.refl names v).of_changedWithin hmade.changed hs.dirs hs.passes⟩

end Untouched

namespace Job

variable {cfg : BuildSettings} {v : Volume} {names out : Location}

theorem untouched_write (hs : BuildsOutside cfg v names out) (hreal : cfg.dryRun = false)
    {j j' : Job} {doc : Document} {x : String} (hx : ValidName x)
    (hu : Untouched names v j.volume) (h : write cfg j doc (cfg.outputDir.push x) = .ok j') :
    Untouched names v j'.volume := by
  cases write_eq_ok.mp h with
  | dry hd => simp [hreal] at hd
  | unchanged _ hwt =>
    obtain ⟨-, -, rfl⟩ | ⟨-, hne, -⟩ := Document.writeTo_eq_ok.mp hwt
    · exact hu
    · cases hne
  | written _ hwt =>
    obtain ⟨-, hne, -⟩ | ⟨-, -, hw⟩ := Document.writeTo_eq_ok.mp hwt
    · cases hne
    · exact hu.writeFile hs hx hw

theorem untouched_copy (hs : BuildsOutside cfg v names out) (hreal : cfg.dryRun = false)
    {j j' : Job} {src : Path} {x : String} (hx : ValidName x) (hu : Untouched names v j.volume)
    (h : copy cfg j src (cfg.outputDir.push x) = .ok j') : Untouched names v j'.volume := by
  cases copy_eq_ok.mp h with
  | dry hd => simp [hreal] at hd
  | copied _ hc =>
    obtain ⟨t, -, hw⟩ := Volume.copyFile_eq_ok.mp hc
    exact hu.writeFile hs hx hw

end Job

theorem untouched_prepare {cfg : BuildSettings} {v v₁ : Volume} {names out : Location}
    (hs : BuildsOutside cfg v names out)
    (h : prepareOutputDir v cfg.outputDir cfg.dryRun = .ok v₁) :
    Untouched names v v₁ ∧
      (cfg.dryRun = false → ∀ q ∈ cfg.outputDir.entered v.cwd, v₁.lookup q = some .dir) := by
  unfold prepareOutputDir at h
  split at h
  · next hskip =>
    cases h
    refine ⟨.refl hs.linkless names, fun hreal => ?_⟩
    simp only [hreal, Bool.false_or] at hskip
    exact (Volume.isDir_iff_entered hs.linkless (Path.text_ne_of_absoluteNames hs.outputDir)).mp
      hskip
  · have hm := mapError_eq_ok.mp h
    exact ⟨Untouched.makeDirs hs hm, fun _ => (Volume.makeDirs_entered hs.linkless hm).dirs⟩

/-! ## Folds in step -/

theorem foldlM_rel {ε α β : Type} {F : α → β → Except ε α} (R : α → α → Prop)
    (hrefl : ∀ x, R x x) (htrans : ∀ {x y z}, R x y → R y z → R x z) :
    ∀ (l : List β), (∀ b ∈ l, ∀ x x', F x b = .ok x' → R x x') →
      ∀ x x', l.foldlM F x = .ok x' → R x x'
  | [], _, x, x', h => by
    cases h
    exact hrefl x
  | b :: l, hstep, x, x', h => by
    rw [List.foldlM_cons, bind_eq_ok] at h
    obtain ⟨x₁, h₁, h⟩ := h
    exact htrans (hstep b List.mem_cons_self x x₁ h₁)
      (foldlM_rel R hrefl htrans l (fun b hb => hstep b (List.mem_cons_of_mem _ hb)) x₁ x' h)

/-- Two folds in step: a relation between their states that each step of the first, on a member
of the list, keeps with a step of the second. Each step may use that `key` of the first fold's
state, which only grows, is then still within the bound `L` that it ends within. -/
theorem foldlM_lockstep {ε α β γ : Type} {R : α → α → Prop} {F G : α → β → Except ε α}
    (key : α → List γ) (L : List γ) :
    ∀ (l : List β), (∀ b ∈ l, ∀ x x', F x b = .ok x' → key x <+: key x') →
      (∀ b ∈ l, ∀ x y x', R x y → F x b = .ok x' → key x' <+: L →
        ∃ y', G y b = .ok y' ∧ R x' y') →
      ∀ x y x', R x y → l.foldlM F x = .ok x' → key x' <+: L →
        ∃ y', l.foldlM G y = .ok y' ∧ R x' y'
  | [], _, _, x, y, x', hR, h, _ => by
    cases h
    exact ⟨y, rfl, hR⟩
  | b :: l, hgrow, hstep, x, y, x', hR, h, hL => by
    rw [List.foldlM_cons, bind_eq_ok] at h
    obtain ⟨x₁, h₁, h⟩ := h
    have hgrow' : ∀ b ∈ l, ∀ x x', F x b = .ok x' → key x <+: key x' := fun b hb =>
      hgrow b (List.mem_cons_of_mem _ hb)
    -- the rest of the fold only makes the key grow, so it is within the bound after this step
    have hL₁ : key x₁ <+: L :=
      (foldlM_rel (fun a b => key a <+: key b) (fun _ => List.prefix_refl _)
        (fun h₁ h₂ => h₁.trans h₂) l hgrow' x₁ x' h).trans hL
    obtain ⟨y₁, h₁', hR₁⟩ := hstep b List.mem_cons_self x y x₁ hR h₁ hL₁
    obtain ⟨y', h', hR'⟩ := foldlM_lockstep key L l hgrow'
      (fun b hb => hstep b (List.mem_cons_of_mem _ hb)) x₁ y₁ x' hR₁ h hL
    exact ⟨y', by rw [List.foldlM_cons, bind_eq_ok]; exact ⟨y₁, h₁', h'⟩, hR'⟩

namespace Job

variable {cfg : BuildSettings} {page : PageSettings} {parser : FeatureParser} {dir : DirEntry}
  {j j' : Job}

/-! The log of a build only grows. -/

theorem log_prefix_file {name : String} {keep : Bool}
    (h : file cfg page parser dir j name = .ok (j', keep)) : j.log <+: j'.log := by
  obtain ⟨b, hb, -⟩ := log_file h
  exact ⟨b, hb.symm⟩

theorem log_prefix_fileStep {x x' : Job × List String} {name : String}
    (h : fileStep cfg page parser dir x name = .ok x') : x.1.log <+: x'.1.log := by
  obtain ⟨keep, hfile, -⟩ := fileStep_eq_ok.mp h
  exact log_prefix_file hfile

theorem log_prefix_document {toc : TocBuilder} {subs : List String} {isRoot : Bool}
    (h : document cfg page parser toc j dir subs isRoot = .ok j') : j.log <+: j'.log := by
  obtain ⟨j₁, listed, doc, j₂, hfiles, -, hw, rfl⟩ := document_eq_ok.mp h
  rw [files_eq] at hfiles
  have h₁ : j.log <+: j₁.log :=
    foldlM_rel (fun a b : Job × List String => a.1.log <+: b.1.log) (fun _ => List.prefix_refl _)
      (fun h₁ h₂ => h₁.trans h₂) dir.files (fun _ _ _ _ hx => log_prefix_fileStep hx) _ _ hfiles
  obtain ⟨o, ho⟩ := log_write hw
  exact h₁.trans ⟨_, ho.symm⟩

theorem log_prefix_directory {toc : TocBuilder} {isRoot : Bool}
    (h : directory cfg page parser toc j dir isRoot = .ok j') : j.log <+: j'.log := by
  rcases directory_eq_ok.mp h with ⟨-, rfl⟩ | ⟨-, hdoc⟩
  · exact List.prefix_refl _
  · exact log_prefix_document hdoc

theorem write_frame {doc : Document} {p : Path} (h : write cfg j doc p = .ok j') :
    j'.context = j.context ∧ j'.kept = j.kept ∧
      j'.report = { j.report with unchanged := j'.report.unchanged } := by
  cases write_eq_ok.mp h <;> exact ⟨rfl, rfl, rfl⟩

theorem copy_frame {src dst : Path} (h : copy cfg j src dst = .ok j') :
    j'.context = j.context ∧ j'.kept = j.kept ∧ j'.report = j.report := by
  cases copy_eq_ok.mp h <;> exact ⟨rfl, rfl, rfl⟩

end Job

/-! ## Two builds in step -/

/-- Jobs of two builds at the same point: the same context, the same kept directories, the same
counts but for the files found unchanged, and related by `Vb` beyond that. -/
structure InStep (Vb : Job → Job → Prop) (x y : Job) : Prop where
  context : y.context = x.context
  kept : y.kept = x.kept
  report : y.report = { x.report with unchanged := y.report.unchanged }
  rel : Vb x y

/-- How a second build, with settings `cB`, follows a first one, with settings `cA`, that keeps
its log within `L`: both write to the same output directory and name the root's table of
contents alike; `Vb` looks at the volumes and logs of the two and at the second's count of
unchanged files only; the second reads under `names` what `v` holds there as long as the first
does; and it follows each skip, each write to the output directory and each copy from below
`names` of the first. -/
structure Follows (cA cB : BuildSettings) (v : Volume) (names : Location) (L : List LogEntry)
    (Vb : Job → Job → Prop) : Prop where
  outputDir : cB.outputDir = cA.outputDir
  tocName : cB.tocName = cA.tocName
  frame : ∀ {x y x' y' : Job}, Vb x y → x'.volume = x.volume → x'.log = x.log →
    y'.volume = y.volume → y'.log = y.log → y'.report.unchanged = y.report.unchanged → Vb x' y'
  reads : ∀ {x y : Job}, Vb x y → Untouched names v x.volume → Untouched names v y.volume
  skip : ∀ {x y : Job} (src : Path), Vb x y →
    Vb { x with log := x.log ++ [.skip src] } { y with log := y.log ++ [.skip src] }
  write : ∀ {x y x' : Job} {doc : Document} {n : String}, Vb x y →
    (ValidName n ∨ n = cA.tocName ++ outputExtension) →
    Job.write cA x doc (cA.outputDir.push n) = .ok x' → x'.log <+: L →
    ∃ y', Job.write cB y doc (cA.outputDir.push n) = .ok y' ∧ Vb x' y'
  copy : ∀ {x y x' : Job} {src : Path} {n : String}, Vb x y → Untouched names v x.volume →
    (∃ X, ValidLocation X ∧ names <+: X ∧ src = Location.path X) → ValidName n →
    Job.copy cA x src (cA.outputDir.push n) = .ok x' → x'.log <+: L →
    ∃ y', Job.copy cB y src (cA.outputDir.push n) = .ok y' ∧ Vb x' y'

namespace InStep

variable {cA cB : BuildSettings} {v : Volume} {names : Location} {L : List LogEntry}
  {Vb : Job → Job → Prop} (F : Follows cA cB v names L Vb) {x y : Job}
include F

theorem withContext (h : InStep Vb x y) (c : Context) :
    InStep Vb { x with context := c } { y with context := c } :=
  ⟨rfl, h.kept, h.report, F.frame h.rel rfl rfl rfl rfl rfl⟩

theorem withKept (h : InStep Vb x y) (p : Path) :
    InStep Vb { x with kept := p :: x.kept } { y with kept := p :: y.kept } :=
  ⟨h.context, congrArg (p :: ·) h.kept, h.report, F.frame h.rel rfl rfl rfl rfl rfl⟩

theorem count (h : InStep Vb x y) (f : BuildReport → BuildReport)
    (hf : ∀ r u, f { r with unchanged := u } = { f r with unchanged := u })
    (hfu : ∀ r, (f r).unchanged = r.unchanged) :
    InStep Vb { x with report := f x.report } { y with report := f y.report } := by
  refine ⟨h.context, h.kept, ?_, F.frame h.rel rfl rfl rfl rfl (hfu y.report)⟩
  show f y.report = { f x.report with unchanged := (f y.report).unchanged }
  rw [hfu, ← hf x.report y.report.unchanged, ← h.report]

theorem countSizes (h : InStep Vb x y) :
    InStep Vb
      { x with
        report := { x.report with
          steps := x.context.glossary.size
          tags := x.context.tags.size } }
      { y with
        report := { y.report with
          steps := y.context.glossary.size
          tags := y.context.tags.size } } := by
  have hcount := h.count F
    (fun r => { r with steps := x.context.glossary.size, tags := x.context.tags.size })
    (fun _ _ => rfl) (fun _ => rfl)
  rw [h.context] at hcount ⊢
  exact hcount

theorem skip (h : InStep Vb x y) (src : Path) :
    InStep Vb { x with log := x.log ++ [.skip src] } { y with log := y.log ++ [.skip src] } :=
  ⟨h.context, h.kept, h.report, F.skip src h.rel⟩

omit F in
theorem write {x' y' : Job} {doc : Document} {p : Path} (h : InStep Vb x y)
    (hx : Job.write cA x doc p = .ok x') (hy : Job.write cB y doc p = .ok y') (hV : Vb x' y') :
    InStep Vb x' y' := by
  obtain ⟨hxc, hxk, hxr⟩ := Job.write_frame hx
  obtain ⟨hyc, hyk, hyr⟩ := Job.write_frame hy
  refine ⟨by rw [hyc, hxc, h.context], by rw [hyk, hxk, h.kept], ?_, hV⟩
  rw [hyr, hxr, h.report]

omit F in
theorem copy {x' y' : Job} {src dst : Path} (h : InStep Vb x y)
    (hx : Job.copy cA x src dst = .ok x') (hy : Job.copy cB y src dst = .ok y') (hV : Vb x' y') :
    InStep Vb x' y' := by
  obtain ⟨hxc, hxk, hxr⟩ := Job.copy_frame hx
  obtain ⟨hyc, hyk, hyr⟩ := Job.copy_frame hy
  refine ⟨by rw [hyc, hxc, h.context], by rw [hyk, hxk, h.kept], ?_, hV⟩
  rw [hyr, hxr, h.report]

end InStep

namespace Follows

section Loop

variable {cA cB : BuildSettings} {v : Volume} {names out : Location} {L : List LogEntry}
  {Vb : Job → Job → Prop} (F : Follows cA cB v names L Vb)
  (hs : BuildsOutside cA v names out) (hreal : cA.dryRun = false)
  {page : PageSettings} {parser : FeatureParser}

section Directory

variable {dir : DirEntry} {p : List String} (hp : ValidLocation (names ++ p))
  (hdir : dir.absolutePath = Location.path (names ++ p))
  (hpl : dir.pathList ≠ [] ∧ ValidLocation dir.pathList)
include F hs hreal hp hdir hpl

/-- A file below the scanned directory, handled by both builds: both read the same feature from
it, and the second follows the first's write or copy. -/
theorem file {name : String} (hn : ValidName name) {x y x' : Job} {keep : Bool}
    (hxy : InStep Vb x y) (hu : Untouched names v x.volume)
    (h : Job.file cA page parser dir x name = .ok (x', keep)) (hL : x'.log <+: L) :
    ∃ y', Job.file cB page parser dir y name = .ok (y', keep) ∧ InStep Vb x' y' ∧
      Untouched names v x'.volume := by
  have hX : ValidLocation (names ++ p ++ [name]) := hp.append (.singleton hn)
  have hin : names <+: names ++ p ++ [name] := ⟨p ++ [name], by simp⟩
  have hsrc : dir.absolutePath.push name = Location.path (names ++ p ++ [name]) := by
    rw [hdir, push_path hp hn]
  have hread : parser.parse y.volume (dir.absolutePath.push name) =
      parser.parse x.volume (dir.absolutePath.push name) :=
    parser.reads_source _ _ _ (by rw [hdir]; exact hu.readFile_push_eq (F.reads hxy.rel hu) hp hn)
  -- what the file becomes is written directly in the output directory
  have hlong : 2 ≤ (dir.pathList ++ [name]).length := by
    rw [List.length_append, List.length_singleton]
    exact Nat.succ_le_succ (List.length_pos_of_ne_nil hpl.1)
  have hname : ∀ ext : Option String, (∀ e ∈ ext, '/' ∉ e.toList) →
      ValidName (flatName (dir.pathList ++ [name]) none false ext) := fun ext hext =>
    validName_flatName (hpl.2.append (.singleton hn)) (by simp) false hext (.inl hlong)
  cases Job.file_eq_ok.mp h with
  | skipped hf hfeat hrender =>
    -- nothing of the feature is left: both builds skip it
    refine ⟨_, Job.file_eq_ok.mpr (.skipped hf (hread.trans hfeat) (hxy.context ▸ hrender)),
      (hxy.skip F (dir.absolutePath.push name)).count F
        (fun r => { r with featuresSkipped := r.featuresSkipped + 1 }) (fun _ _ => rfl)
        (fun _ => rfl), hu⟩
  | @rendered feature doc ctx x₁ hf hfeat hrender hw =>
    -- the page is written by the first build, and the second follows
    have hxy₀ := hxy.withContext F ctx
    have hout : ValidName (flatName (dir.pathList ++ [name]) none false (some outputExtension)) :=
      hname (some outputExtension) fun e he => by cases he; decide
    obtain ⟨y₁, hw', hV₁⟩ := F.write hxy₀.rel (.inl hout) hw hL
    have hu₁ : Untouched names v x₁.volume :=
      Job.untouched_write hs hreal hout (j := { x with context := ctx }) hu hw
    refine ⟨_, Job.file_eq_ok.mpr (.rendered hf (hread.trans hfeat) (hxy.context ▸ hrender)
        (F.outputDir ▸ hw')), (hxy₀.write hw hw' hV₁).count F
        (fun r => { r with featuresRendered := r.featuresRendered + 1 })
        (fun _ _ => rfl) (fun _ => rfl), hu₁⟩
  | prose hf hr => exact ⟨y, Job.file_eq_ok.mpr (.prose hf hr), hxy, hu⟩
  | @copied x₁ hf hr hc =>
    -- any other file is copied by the first build, and the second follows
    have hout : ValidName (flatName (dir.pathList ++ [name]) none false none) :=
      hname none fun e he => by cases he
    obtain ⟨y₁, hc', hV₁⟩ := F.copy hxy.rel hu ⟨_, hX, hin, hsrc⟩ hout hc hL
    have hu₁ : Untouched names v x₁.volume := Job.untouched_copy hs hreal hout hu hc
    exact ⟨_, Job.file_eq_ok.mpr (.copied hf hr (F.outputDir ▸ hc')), (hxy.copy hc hc' hV₁).count F
      (fun r => { r with filesCopied := r.filesCopied + 1 }) (fun _ _ => rfl) (fun _ => rfl),
      hu₁⟩

/-- The files of a directory below the scanned one, handled in step by both builds: both list
the same files, all of the directory. -/
theorem files (hfiles : ∀ f ∈ dir.files, ValidName f) {x y x' : Job} {listed : List String}
    (hxy : InStep Vb x y) (hu : Untouched names v x.volume)
    (h : Job.files cA page parser dir x = .ok (x', listed)) (hL : x'.log <+: L) :
    ∃ y', Job.files cB page parser dir y = .ok (y', listed) ∧ InStep Vb x' y' ∧
      Untouched names v x'.volume ∧ ∀ f ∈ listed, f ∈ dir.files := by
  rw [Job.files_eq] at h ⊢
  -- the two folds keep the same list of files, all of the directory
  refine (foldlM_lockstep
    (R := fun a b => b.2 = a.2 ∧ InStep Vb a.1 b.1 ∧ Untouched names v a.1.volume ∧
      ∀ f ∈ a.2, f ∈ dir.files)
    (G := Job.fileStep cB page parser dir) (fun a => a.1.log) L dir.files
    (fun _ _ _ _ ha => Job.log_prefix_fileStep ha) (fun name hname a b a' hR ha haL => ?_)
    (x, []) (y, []) (x', listed) ⟨rfl, hxy, hu, by simp⟩ h hL).elim
    fun b hb => by
      obtain ⟨hfold, hl, hxy', hu', hsub⟩ := hb
      have hl' : b.2 = listed := hl
      exact ⟨b.1, by rw [← hl']; exact hfold, hxy', hu', hsub⟩
  obtain ⟨x₀, l⟩ := a
  obtain ⟨y₀, l'⟩ := b
  obtain ⟨hl, hxy₀, hu₀, hl₀⟩ := hR
  change l' = l at hl
  subst l'
  obtain ⟨keep, hfile, hl'⟩ := Job.fileStep_eq_ok.mp ha
  obtain ⟨y₁, hfile', hxy₁, hu₁⟩ :=
    F.file hs hreal hp hdir hpl (hfiles name hname) hxy₀ hu₀ hfile haL
  refine ⟨(y₁, a'.2), Job.fileStep_eq_ok.mpr ⟨keep, hfile', hl'⟩, rfl, hxy₁, hu₁, fun f hf => ?_⟩
  rw [hl'] at hf
  cases keep
  · exact hl₀ f hf
  · rcases List.mem_append.mp hf with hf | hf
    · exact hl₀ f hf
    · rw [List.mem_singleton.mp hf]
      exact hname

end Directory

section WorkList

variable {W : WorkList} (hW : W.Located names) {toc : TocBuilder}
  (htoc : toc.rootPath = W.rootPath)
include F hs hreal hW htoc

/-- A kept directory of the work list, handled in step by both builds: its table of contents
reads the same files in both, and is written directly in the output directory unless it is the
root's under a name that is not plain. -/
theorem document {dir : DirEntry} (hE : dir ∈ W.entries) {subs : List String} {isRoot : Bool}
    {x y x' : Job} (hxy : InStep Vb x y) (hu : Untouched names v x.volume)
    (h : Job.document cA page parser toc x dir subs isRoot = .ok x') (hL : x'.log <+: L) :
    ∃ y', Job.document cB page parser toc y dir subs isRoot = .ok y' ∧ InStep Vb x' y' ∧
      ((isRoot = true → ValidName (cA.tocName ++ outputExtension)) →
        Untouched names v x'.volume) := by
  obtain ⟨p, hp, hdir⟩ := hW.entry dir hE
  have hpl := hW.pathList dir hE
  obtain ⟨x₁, listed, doc, x₂, hfiles, hdoc, hw, rfl⟩ := Job.document_eq_ok.mp h
  -- the table of contents goes to the output directory, under a name given by `isRoot`
  have htarget : (if isRoot then cA.outputDir.push (cA.tocName ++ outputExtension)
      else cA.outputDir.push (flatName dir.pathList none true (some outputExtension))) =
      cA.outputDir.push (if isRoot then cA.tocName ++ outputExtension
        else flatName dir.pathList none true (some outputExtension)) := by
    cases isRoot <;> rfl
  have hflat : ValidName (flatName dir.pathList none true (some outputExtension)) :=
    validName_flatName hpl.2 hpl.1 true (fun e he => by cases he; decide) (.inr rfl)
  have hn : ValidName (if isRoot then cA.tocName ++ outputExtension
      else flatName dir.pathList none true (some outputExtension)) ∨
      (if isRoot then cA.tocName ++ outputExtension
        else flatName dir.pathList none true (some outputExtension)) =
        cA.tocName ++ outputExtension := by
    cases isRoot
    · exact .inl hflat
    · exact .inr rfl
  rw [htarget] at hw
  obtain ⟨o, hlog₂⟩ := Job.log_write hw
  obtain ⟨y₁, hfiles', hxy₁, hu₁, hsub⟩ := F.files hs hreal hp hdir hpl (hW.files dir hE)
    (hxy.withKept F dir.absolutePath) hu hfiles ((List.prefix_append _ _).trans (hlog₂ ▸ hL))
  -- the table of contents reads the listed files of the directory and its marker file
  have hat : dir.pathList.foldl Path.push toc.rootPath = Location.path (names ++ p) := by
    rw [htoc, hW.tocDir dir hE, hdir]
  have hmarker : ValidName displayNameFile := by decide
  have hreads := F.reads hxy₁.rel hu₁
  have hdocs : toc.build y₁.volume dir.pathList subs listed =
      toc.build x₁.volume dir.pathList subs listed := by
    refine TocBuilder.build_congr (fun n hn => ?_) ?_
    · have hn' : ValidName n := by
        rcases hn with hn | rfl
        · exact hW.files dir hE n (hsub n hn)
        · exact hmarker
      rw [hat]
      exact hu₁.readFile_push_eq hreads hp hn'
    · rw [hat]
      exact hu₁.isFile_push_eq hreads hp hmarker
  obtain ⟨y₂, hw', hV₂⟩ := F.write hxy₁.rel hn hw hL
  refine ⟨_, Job.document_eq_ok.mpr ⟨y₁, listed, doc, y₂, hfiles', hdocs.trans hdoc,
      by rw [F.outputDir, F.tocName, htarget]; exact hw', rfl⟩,
    (hxy₁.write hw hw' hV₂).count F (fun r => { r with tocs := r.tocs + 1 })
      (fun _ _ => rfl) (fun _ => rfl), fun hroot => ?_⟩
  -- a plain name puts the table of contents directly in the output directory
  have hplain : ValidName (if isRoot then cA.tocName ++ outputExtension
      else flatName dir.pathList none true (some outputExtension)) := by
    cases isRoot
    · exact hflat
    · exact hroot rfl
  have hu₂ : Untouched names v x₂.volume := Job.untouched_write hs hreal hplain hu₁ hw
  exact hu₂

theorem directory {dir : DirEntry} (hE : dir ∈ W.entries) {isRoot : Bool} {x y x' : Job}
    (hxy : InStep Vb x y) (hu : Untouched names v x.volume)
    (h : Job.directory cA page parser toc x dir isRoot = .ok x') (hL : x'.log <+: L) :
    ∃ y', Job.directory cB page parser toc y dir isRoot = .ok y' ∧ InStep Vb x' y' ∧
      ((isRoot = true → ValidName (cA.tocName ++ outputExtension)) →
        Untouched names v x'.volume) := by
  have hsubs : Job.subdirsAmong y.kept dir = Job.subdirsAmong x.kept dir := by rw [hxy.kept]
  rcases Job.directory_eq_ok.mp h with ⟨hprune, rfl⟩ | ⟨hkeep, hdoc⟩
  · exact ⟨y, Job.directory_eq_ok.mpr (.inl ⟨hsubs ▸ hprune, rfl⟩), hxy, fun _ => hu⟩
  · obtain ⟨y', hy', hxy', hu'⟩ := F.document hs hreal hW htoc hE hxy hu hdoc hL
    exact ⟨y', Job.directory_eq_ok.mpr (.inr ⟨hsubs ▸ hkeep, hsubs ▸ hy'⟩), hxy', hu'⟩

/-- The loop over the directories, in step: both builds handle every directory alike, and
before the root's the first has left the scanned directory as it was. -/
theorem directories {x y x' : Job} (hxy : InStep Vb x y) (hu : Untouched names v x.volume)
    (h : Job.directories cA page parser toc x W.entries = .ok x') (hL : x'.log <+: L) :
    ∃ y', Job.directories cB page parser toc y W.entries = .ok y' ∧ InStep Vb x' y' ∧
      (ValidName (cA.tocName ++ outputExtension) → Untouched names v x'.volume) := by
  rw [Job.directories_eq] at h ⊢
  cases hes : W.entries with
  | nil =>
    rw [hes] at h
    cases h
    exact ⟨y, rfl, hxy, fun _ => hu⟩
  | cons root rest =>
    have hmem : ∀ E ∈ root :: rest, E ∈ W.entries := fun E hE => hes ▸ hE
    rw [hes, fromTheEnd_cons, List.foldlM_append] at h
    rw [fromTheEnd_cons, List.foldlM_append]
    obtain ⟨x₁, h₁, h⟩ := bind_eq_ok.mp h
    obtain ⟨x₂, h₂, h⟩ := bind_eq_ok.mp h
    cases h
    have hL₁ : x₁.log <+: L := (Job.log_prefix_directory h₂).trans hL
    -- every directory but the root is handled without touching the scanned one
    obtain ⟨y₁, h₁', hxy₁, hu₁⟩ : ∃ y₁, (rest.reverse.map (·, false)).foldlM
        (fun j a => Job.directory cB page parser toc j a.1 a.2) y = .ok y₁ ∧
        InStep Vb x₁ y₁ ∧ Untouched names v x₁.volume := by
      refine (foldlM_lockstep (R := fun a b => InStep Vb a b ∧ Untouched names v a.volume)
        (G := fun j a => Job.directory cB page parser toc j a.1 a.2) Job.log L _
        (fun _ _ _ _ ha => Job.log_prefix_directory ha) (fun b hb a c a' hR ha haL => ?_)
        x y x₁ ⟨hxy, hu⟩ h₁ hL₁).elim fun c hc => ⟨c, hc.1, hc.2.1, hc.2.2⟩
      obtain ⟨E, hE, rfl⟩ := List.mem_map.mp hb
      obtain ⟨c', hc', hR', hu'⟩ := F.directory hs hreal hW htoc
        (hmem E (List.mem_cons_of_mem _ (List.mem_reverse.mp hE))) hR.1 hR.2 ha haL
      exact ⟨c', hc', hR', hu' fun h => by cases h⟩
    -- the root comes last
    obtain ⟨y₂, h₂', hxy₂, hu₂⟩ :=
      F.directory hs hreal hW htoc (hmem root List.mem_cons_self) hxy₁ hu₁ h₂ hL
    exact ⟨y₂, bind_eq_ok.mpr ⟨y₁, h₁', bind_eq_ok.mpr ⟨y₂, h₂', rfl⟩⟩, hxy₂,
      fun hplain => hu₂ fun _ => hplain⟩

end WorkList

end Loop

section Run

variable {cfg : BuildSettings} {v : Volume} {names out : Location} {L : List LogEntry}
  {Vb : Job → Job → Prop} (F : Follows cfg cfg v names L Vb)
  (hs : BuildsOutside cfg v names out) (hreal : cfg.dryRun = false)
  {page : PageSettings} {parser : FeatureParser}
include F hs hreal

theorem finish {name : Option String} {doc : Option Document}
    (hname : ∀ m, name = some m → ValidName (m ++ outputExtension)) {x y x' : Job} {o : Outcome}
    (hxy : InStep Vb x y) (hu : Untouched names v x.volume)
    (h : Job.finish cfg x name doc = .ok (x', o)) (hL : x'.log <+: L) :
    ∃ y', Job.finish cfg y name doc = .ok (y', o) ∧ InStep Vb x' y' ∧
      Untouched names v x'.volume := by
  cases Job.finish_eq_ok.mp h with
  | notRequested => exact ⟨y, Job.finish_eq_ok.mpr .notRequested, hxy, hu⟩
  | dry hd => simp [hreal] at hd
  | empty hd => exact ⟨y, Job.finish_eq_ok.mpr (.empty hd), hxy, hu⟩
  | @written m d x₁ hd hw =>
    obtain ⟨y₁, hw', hV⟩ := F.write hxy.rel (.inl (hname m rfl)) hw hL
    have hu₁ := Job.untouched_write hs hreal (hname m rfl) hu hw
    exact ⟨y₁, Job.finish_eq_ok.mpr (.written hd hw'), hxy.write hw hw' hV, hu₁⟩

/-- Two builds with the same settings of a work list whose directories lie below `names`, on the
volume `v` and on a volume `w` whose output directory, once made, the second holds as `Vb` asks:
when the first succeeds with a log within `L`, so does the second, in step with it. -/
theorem run {W : WorkList} (hW : W.Located names)
    (htoc : ValidName (cfg.tocName ++ outputExtension))
    (hglossary : ∀ m, cfg.glossaryName = some m → ValidName (m ++ outputExtension))
    (htags : ∀ m, cfg.tagListName = some m → ValidName (m ++ outputExtension)) {w : Volume}
    (hstart : ∀ v₁, prepareOutputDir v cfg.outputDir cfg.dryRun = .ok v₁ →
      (∀ q ∈ cfg.outputDir.entered v.cwd, v₁.lookup q = some .dir) →
      ∃ w₁, prepareOutputDir w cfg.outputDir cfg.dryRun = .ok w₁ ∧
        Vb { volume := v₁ } { volume := w₁ })
    {x : Job} (h : buildJob cfg page parser W v = .ok x) (hL : x.log <+: L) :
    ∃ y, buildJob cfg page parser W w = .ok y ∧ InStep Vb x y ∧ Untouched names v x.volume := by
  obtain ⟨v₁, x₁, x₂, g, x₃, t, hv₁, hx₁, hg, ht, rfl⟩ := buildJob_eq_ok.mp h
  obtain ⟨hu₁, hdirs₁⟩ := untouched_prepare hs hv₁
  obtain ⟨w₁, hw₁, hV₁⟩ := hstart v₁ hv₁ (hdirs₁ hreal)
  -- the log only grows through the glossary and the tag list
  obtain ⟨b₃, hb₃, -⟩ := Job.log_finish ht
  obtain ⟨b₂, hb₂, -⟩ := Job.log_finish hg
  have hL₃ : x₃.log <+: L := hL
  have hL₂ : x₂.log <+: L := List.IsPrefix.trans ⟨b₃, hb₃.symm⟩ hL₃
  have hL₁ : x₁.log <+: L := List.IsPrefix.trans ⟨b₂, hb₂.symm⟩ hL₂
  have hxy₀ : InStep Vb { volume := v₁ } { volume := w₁ } := ⟨rfl, rfl, rfl, hV₁⟩
  obtain ⟨y₁, hy₁, hxy₁, hu₁'⟩ := F.directories hs hreal hW rfl hxy₀ hu₁ hx₁ hL₁
  obtain ⟨y₂, hy₂, hxy₂, hu₂⟩ :=
    F.finish hs hreal hglossary (hxy₁.countSizes F) (hu₁' htoc) hg hL₂
  obtain ⟨y₃, hy₃, hxy₃, hu₃⟩ := F.finish hs hreal htags hxy₂ hu₂ ht hL₃
  -- the second build renders the glossary and the tag list of its own, equal, contexts
  simp only [← hxy₁.context] at hy₂
  simp only [← hxy₂.context] at hy₃
  exact ⟨_, buildJob_eq_ok.mpr ⟨w₁, y₁, y₂, g, y₃, t, hw₁, hy₁, hy₂, hy₃, rfl⟩,
    hxy₃.count F (fun r => { r with glossary := g, tagList := t }) (fun _ _ => rfl) (fun _ => rfl),
    hu₃⟩

end Run

end Follows

end FeatureDocs.Tree
