import FeatureDocs.Proofs.BuildsInStep

/-!
# A dry run reports what a build would do

A dry run goes through the work list as a build does, but writes, copies and creates nothing, and
tells the glossary and the tag list it would write as `dryRun`. What it reads it reads from the
volume as it was, where the build reads from the volume as its own writes have left it. The two
agree as long as the build writes only outside the scanned directory, and the two runs then go in
step (`InStep`): same context, same kept directories, same counts but for the files found
unchanged, which only a build can find. The dry run follows each write and copy of the build by
a line of its log alone (`follows_dry`).

With a link the agreement fails: a feature that is a link into the output directory reads, in the
build, the copy that the build has just written there, and in the dry run the file as it was
(`dry_run_reads_stale_link`).

* `LeavesAlone`, `follows_dry`: a dry run follows a build;
* `Job.finish_dry`, `buildJob_dry`: the glossary, the tag list and the whole build, followed by
  the dry run;
* **`dry_run_reports_build`**: on a volume without links and with the output directory outside
  the scanned one, a dry run succeeds when the build does, with the build's report but for the
  unchanged files and the outcomes, and leaves the volume as it was.
-/

namespace FeatureDocs.Tree

open FeatureDocs.Store FeatureDocs.Markup FeatureDocs.Feature FeatureDocs.Render

/-! ## A dry run follows a build -/

/-- What a dry run reports for the glossary or the tag list, given what the build reported:
nothing when it was not asked for, and that it would be written otherwise. -/
def Outcome.dry : Outcome → Outcome
  | .notRequested => .notRequested
  | _ => .dryRun

/-- A job `d` of a dry run, beside a job of a build: it has left the volume `v` as it was and
found no file unchanged. -/
def LeavesAlone (v : Volume) (_ d : Job) : Prop := d.volume = v ∧ d.report.unchanged = 0

/-- A dry run follows each write and copy of a build by a line of its log. -/
theorem follows_dry {cfg : BuildSettings} {v : Volume} {names out : Location}
    (hs : BuildsOutside { cfg with dryRun := false } v names out) (L : List LogEntry) :
    Follows { cfg with dryRun := false } { cfg with dryRun := true } v names L (LeavesAlone v) where
  outputDir := rfl
  tocName := rfl
  frame := fun h _ _ hy _ hyu => ⟨hy.trans h.1, hyu.trans h.2⟩
  reads := fun h _ => h.1 ▸ Untouched.refl hs.linkless names
  skip := fun _ h => h
  write := fun h _ _ _ => ⟨_, rfl, h⟩
  copy := fun h _ _ _ _ _ => ⟨_, rfl, h⟩

theorem InStep.leavesAlone_write {cfg : BuildSettings} {v : Volume} {j j' d : Job}
    (hd : InStep (LeavesAlone v) j d) {doc : Document} {p : Path}
    (h : Job.write cfg j doc p = .ok j') : InStep (LeavesAlone v) j' d := by
  obtain ⟨hc, hk, hr⟩ := Job.write_frame h
  refine ⟨by rw [hc, hd.context], by rw [hk, hd.kept], ?_, hd.rel⟩
  rw [hr, hd.report]

namespace Job

variable {cfg : BuildSettings} {v : Volume} {j j' d : Job}

theorem finish_dry {name : Option String} {doc : Option Document} {o : Outcome}
    (hd : InStep (LeavesAlone v) j d)
    (h : finish { cfg with dryRun := false } j name doc = .ok (j', o)) :
    finish { cfg with dryRun := true } d name doc = .ok (d, o.dry) ∧
      InStep (LeavesAlone v) j' d := by
  cases finish_eq_ok.mp h with
  | notRequested => exact ⟨finish_eq_ok.mpr .notRequested, hd⟩
  | dry hreal => cases hreal
  | empty _ => exact ⟨finish_eq_ok.mpr (.dry rfl), hd⟩
  | written _ hw => exact ⟨finish_eq_ok.mpr (.dry rfl), hd.leavesAlone_write hw⟩

end Job

/-! ## A dry run of a build -/

/-- A build and a dry run of the same work list on the same volume, in step: the dry run
succeeds when the build does, with the build's report but for the unchanged files and the
outcomes, and leaves the volume as it was. -/
theorem buildJob_dry {cfg : BuildSettings} {v : Volume} {names out : Location}
    (hs : BuildsOutside { cfg with dryRun := false } v names out) {W : WorkList}
    (hW : W.Located names) (page : PageSettings) (parser : FeatureParser) {j : Job}
    (h : buildJob { cfg with dryRun := false } page parser W v = .ok j) :
    ∃ d, buildJob { cfg with dryRun := true } page parser W v = .ok d ∧ d.volume = v ∧
      d.report = { j.report with
        unchanged := 0
        glossary := j.report.glossary.dry
        tagList := j.report.tagList.dry } := by
  obtain ⟨v₁, j₁, j₂, g, j₃, t, hv₁, hj₁, hg, ht, rfl⟩ := buildJob_eq_ok.mp h
  -- the build makes the output directory unless it is there, outside the scanned one
  have hu₁ : Untouched names v v₁ := (untouched_prepare hs hv₁).1
  have hd₀ : InStep (LeavesAlone v) { volume := v₁ } { volume := v } :=
    ⟨rfl, rfl, rfl, rfl, rfl⟩
  have F := follows_dry hs j₁.log
  obtain ⟨d₁, hd₁', hd₁, -⟩ := F.directories hs rfl hW rfl hd₀ hu₁ hj₁ (List.prefix_refl _)
  -- the dry run finishes the glossary and the tag list on its job after the loop, unchanged
  obtain ⟨hg', hd₃⟩ := Job.finish_dry (hd₁.countSizes F) hg
  obtain ⟨ht', hd₄⟩ := Job.finish_dry hd₃ ht
  simp only [← hd₁.context] at hg'
  simp only [← hd₃.context] at ht'
  refine ⟨_, buildJob_eq_ok.mpr ⟨v, d₁, _, g.dry, _, t.dry, rfl, hd₁', hg', ht', rfl⟩,
    hd₁.rel.1, ?_⟩
  -- the reports differ in the unchanged files and the outcomes only
  have hr := hd₄.report
  have h0 := hd₄.rel.2
  simp at hr h0 ⊢
  simp [hr, h0]

/-- **A dry run reports what a build would do.** On a volume without symbolic links, take the
work list of a scan of a directory and an output directory that is not inside it, on a path that
enters no directory inside it either, read against the working directory. When the build
succeeds with report `R`, a dry run of the same work list on the same volume succeeds too: its
report is `R` but that no file is found unchanged and that the glossary and the tag list are
reported as ones it would write (`Outcome.dry`), and it leaves the volume as it was. -/
theorem dry_run_reports_build (s : Scanner) {v : Volume} (hv : v.IsTree) (hlinks : v.Linkless)
    {root : Path} {names : Location} (hnames : Path.absoluteNames v.cwd root = .ok names)
    (hdir : v.isDir (Location.path names) = true) {W : WorkList} (hscan : s.scan v root = .ok W)
    (cfg : BuildSettings) {out : Location} (hout : Path.absoluteNames v.cwd cfg.outputDir = .ok out)
    (hpass : ∀ q ∈ cfg.outputDir.entered v.cwd, ¬ names <+: q) (houtside : ¬ names <+: out)
    (page : PageSettings) (parser : FeatureParser) {R : BuildReport} {V : Volume}
    (h : build { cfg with dryRun := false } page parser W v = .ok (R, V)) :
    build { cfg with dryRun := true } page parser W v =
      .ok ({ R with
        unchanged := 0
        glossary := R.glossary.dry
        tagList := R.tagList.dry }, v) := by
  have hne : names ≠ [] := by
    rintro rfl
    exact houtside List.nil_prefix
  have hX := validLocation_absoluteNames hv.cwd_valid hnames
  have hs : BuildsOutside { cfg with dryRun := false } v names out :=
    ⟨hout, hpass, houtside, hlinks, (Volume.isDir_path_iff hlinks hX).mp hdir⟩
  obtain ⟨j, hj, hRV⟩ := map_eq_ok.mp h
  obtain ⟨rfl, rfl⟩ := Prod.mk.inj hRV
  obtain ⟨d, hd, hvol, hrep⟩ :=
    buildJob_dry hs (scan_located s hv hnames hdir hne hscan) page parser hj
  rw [build, hd]
  show Except.ok (d.report, d.volume) = _
  rw [hvol, hrep]

/-- A feature in `work/specs`, built with a glossary into `../out` from the working directory
`work`, which the build has to make, meets every condition. -/
theorem dry_run_reports_build_docs :
    let v : Volume := { cwd := ["work"], entries := [(["work"], .dir), (["work", "specs"], .dir),
      (["work", "specs", "a.feature"], .file "Feature: A\n\n  Scenario: S\n    Given a\n")] }
    let W : WorkList := ⟨⟨"/work"⟩, [⟨⟨"/work/specs"⟩, ["specs"], [], ["a.feature"]⟩]⟩
    let cfg : BuildSettings :=
      ⟨⟨"../out"⟩, "gherkin", 4, "Specs", some "glossary", false, none, none, false⟩
    let page : PageSettings := { rootPath := ⟨"/"⟩ }
    v.IsTree ∧ v.Linkless ∧ Path.absoluteNames v.cwd ⟨"specs"⟩ = .ok ["work", "specs"] ∧
      v.isDir (Location.path ["work", "specs"]) = true ∧
      ({} : Scanner).scan v ⟨"specs"⟩ = .ok W ∧
      Path.absoluteNames v.cwd cfg.outputDir = .ok ["out"] ∧
      (∀ q ∈ cfg.outputDir.entered v.cwd, ¬ ["work", "specs"] <+: q) ∧
      ¬ ["work", "specs"] <+: ["out"] ∧
      ∃ R V, build { cfg with dryRun := false } page Dialect.gherkin.parser W v = .ok (R, V) ∧
        R.glossary ≠ .notRequested ∧
        build { cfg with dryRun := true } page Dialect.gherkin.parser W v =
          .ok ({ R with
            unchanged := 0
            glossary := R.glossary.dry
            tagList := R.tagList.dry }, v) := by
  intro v W cfg page
  have hv : v.IsTree := by decide
  have hlinks : v.Linkless := by decide
  have hnames : Path.absoluteNames v.cwd ⟨"specs"⟩ = .ok ["work", "specs"] := rfl
  have hdir : v.isDir (Location.path ["work", "specs"]) = true :=
    Volume.isDir_path_of_dirs (by decide) (by decide)
  have hscan : ({} : Scanner).scan v ⟨"specs"⟩ = .ok W := by decide +kernel
  have hout : Path.absoluteNames v.cwd cfg.outputDir = .ok ["out"] :=
    show Path.absoluteNames ["work"] ⟨"../out"⟩ = .ok ["out"] from rfl
  have hpass : ∀ q ∈ cfg.outputDir.entered v.cwd, ¬ ["work", "specs"] <+: q := by decide
  -- the build succeeds: it makes `out` and writes the page, the table of contents and the
  -- glossary there
  have hok : (build { cfg with dryRun := false } page Dialect.gherkin.parser W v).toOption.map
      (fun r => decide (r.1.glossary ≠ .notRequested)) = some true := by
    decide +kernel
  cases hb : build { cfg with dryRun := false } page Dialect.gherkin.parser W v with
  | error e => simp [hb, Except.toOption] at hok
  | ok RV =>
    simp only [hb, Except.toOption, Option.map_some, Option.some.injEq, decide_eq_true_eq] at hok
    exact ⟨hv, hlinks, hnames, hdir, hscan, hout, hpass, by decide, RV.1, RV.2, rfl, hok,
      dry_run_reports_build {} hv hlinks hnames hdir hscan cfg hout hpass (by decide) page
        Dialect.gherkin.parser hb⟩

/-- A feature that is a link into the output directory: the build first copies a Markdown file
over the link's target and then reads the feature through the link, so its page has two steps;
a dry run reads the target as it was, with one step. -/
theorem dry_run_reads_stale_link :
    let v : Volume := { entries := [(["specs"], .dir), (["specs", "a"], .dir),
      (["specs", "a", "m.md"], .file "Feature: Z\n\n  Scenario: S\n    Given a\n    Given b\n"),
      (["specs", "x.feature"], .link "../out/specs.a.m.md"), (["out"], .dir),
      (["out", "specs.a.m.md"], .file "Feature: Z\n\n  Scenario: S\n    Given a\n")] }
    let W : WorkList := ⟨⟨"/"⟩, [⟨⟨"/specs"⟩, ["specs"], ["a"], ["x.feature"]⟩,
      ⟨⟨"/specs/a"⟩, ["specs", "a"], [], ["m.md"]⟩]⟩
    let cfg : BuildSettings := ⟨⟨"/out"⟩, "gherkin", 4, "Specs", none, false, none, none, false⟩
    let page : PageSettings := { rootPath := ⟨"/"⟩ }
    ∃ R V R' V', build { cfg with dryRun := false } page Dialect.gherkin.parser W v = .ok (R, V) ∧
      build { cfg with dryRun := true } page Dialect.gherkin.parser W v = .ok (R', V') ∧
      R.steps = 2 ∧ R'.steps = 1 := by
  intro v W cfg page
  have h₁ : (build { cfg with dryRun := false } page Dialect.gherkin.parser W v).toOption.map
      (·.1.steps) = some 2 := by decide +kernel
  have h₂ : (build { cfg with dryRun := true } page Dialect.gherkin.parser W v).toOption.map
      (·.1.steps) = some 1 := by decide +kernel
  cases hb₁ : build { cfg with dryRun := false } page Dialect.gherkin.parser W v with
  | error e => simp [hb₁, Except.toOption] at h₁
  | ok r₁ =>
    cases hb₂ : build { cfg with dryRun := true } page Dialect.gherkin.parser W v with
    | error e => simp [hb₂, Except.toOption] at h₂
    | ok r₂ =>
      simp only [hb₁, hb₂, Except.toOption, Option.map_some, Option.some.injEq] at h₁ h₂
      exact ⟨r₁.1, r₁.2, r₂.1, r₂.2, rfl, rfl, h₁, h₂⟩

end FeatureDocs.Tree
