import FeatureDocs.Tree.Build

/-!
# What each step of a build can do

A build is a chain of steps that may stop on an error: it makes the output directory, handles
the directories of the work list from the end, each pruned or kept, and finishes the glossary and
the tag list. For each step this module says every way it can succeed, guards included, as an
inductive relation or an equation between successes. The modules about whole builds cite these
lemmas and never open a step again, so that a change to one step of a build is a change to one
lemma here.

* `bind_eq_ok`, `map_eq_ok`, `mapError_eq_ok`: a chain of steps succeeds when each step does;
* `Job.Writes`, `Job.Copies`: a write and a copy, real or dry;
* `Job.FileStep`: one file, skipped, rendered, listed or copied after its kind;
* `Job.fileStep_eq_ok`, `Job.document_eq_ok`, `Job.directory_eq_ok`, `Job.directories_eq`: the
  files of a directory, a kept directory, one directory of the loop and the whole loop;
* `Job.Finishes`: the glossary or the tag list;
* `buildJob_eq_ok`: a whole build.
-/

namespace FeatureDocs.Tree

open FeatureDocs.Store FeatureDocs.Markup FeatureDocs.Feature FeatureDocs.Render

/-! ## Chains of steps -/

theorem bind_eq_ok {ε α β : Type} {x : Except ε α} {f : α → Except ε β} {b : β} :
    x >>= f = .ok b ↔ ∃ a, x = .ok a ∧ f a = .ok b := by
  cases x <;> simp [bind, Except.bind]

theorem map_eq_ok {ε α β : Type} {x : Except ε α} {f : α → β} {b : β} :
    x.map f = .ok b ↔ ∃ a, x = .ok a ∧ f a = b := by
  cases x <;> simp [Except.map]

theorem mapError_ok {ε ε' α : Type} (f : ε → ε') (a : α) :
    (Except.ok a : Except ε α).mapError f = .ok a :=
  rfl

theorem mapError_eq_ok {ε ε' α : Type} {x : Except ε α} {f : ε → ε'} {a : α} :
    x.mapError f = .ok a ↔ x = .ok a := by
  cases x with
  | error e => exact ⟨nofun, nofun⟩
  | ok b => simp only [mapError_ok, Except.ok.injEq]

theorem bind_congr_ok {ε α β : Type} {x : Except ε α} {f g : α → Except ε β}
    (h : ∀ a, x = .ok a → f a = g a) : x >>= f = x >>= g := by
  cases x with
  | error e => rfl
  | ok a => exact h a rfl

namespace Job

variable {cfg : BuildSettings} {page : PageSettings} {parser : FeatureParser} {dir : DirEntry}
  {j j' : Job}

/-! ## Writes and copies -/

/-- The ways a write of the document `doc` to `p` can succeed. -/
inductive Writes (cfg : BuildSettings) (j : Job) (doc : Document) (p : Path) : Job → Prop
  /-- A dry run logs the document and writes nothing. -/
  | dry (hd : cfg.dryRun = true) : Writes cfg j doc p { j with log := j.log ++ [.write p doc none] }
  /-- The file already holds the document: nothing is written, and the file is counted. -/
  | unchanged {u : Volume} (hd : cfg.dryRun = false)
      (hw : doc.writeTo j.volume p = .ok (.unchanged, u)) :
      Writes cfg j doc p { j with
        volume := u
        report := { j.report with unchanged := j.report.unchanged + 1 }
        log := j.log ++ [.write p doc (some .unchanged)] }
  /-- Otherwise the document is written. -/
  | written {u : Volume} (hd : cfg.dryRun = false)
      (hw : doc.writeTo j.volume p = .ok (.written, u)) :
      Writes cfg j doc p { j with volume := u, log := j.log ++ [.write p doc (some .written)] }

theorem write_eq_ok {doc : Document} {p : Path} : write cfg j doc p = .ok j' ↔ Writes cfg j doc p j' := by
  constructor
  · intro h
    unfold write at h
    split at h
    · next hd =>
      cases h
      exact .dry hd
    · next hd =>
      have hd' : cfg.dryRun = false := by simpa using hd
      split at h
      · cases h
      · next u hw =>
        cases h
        exact .unchanged hd' hw
      · next u hw =>
        cases h
        exact .written hd' hw
  · intro h
    cases h <;> simp [write, *]

/-- The ways a copy of `src` to `dst` can succeed: a dry run only logs it. -/
inductive Copies (cfg : BuildSettings) (j : Job) (src dst : Path) : Job → Prop
  | dry (hd : cfg.dryRun = true) : Copies cfg j src dst { j with log := j.log ++ [.copy src dst] }
  | copied {u : Volume} (hd : cfg.dryRun = false) (hc : j.volume.copyFile src dst = .ok u) :
      Copies cfg j src dst { j with volume := u, log := j.log ++ [.copy src dst] }

theorem copy_eq_ok {src dst : Path} : copy cfg j src dst = .ok j' ↔ Copies cfg j src dst j' := by
  constructor
  · intro h
    unfold copy at h
    split at h
    · next hd =>
      cases h
      exact .dry hd
    · next hd =>
      split at h
      · cases h
      · next u hc =>
        cases h
        exact .copied (by simpa using hd) hc
  · intro h
    cases h <;> simp [copy, *]

/-! ## The files of a directory -/

/-- The ways one file `name` of the directory `dir` can be handled, with whether the table of
contents lists it. The page of a feature and the copy of any other file go directly into the
output directory, under the flat name of the file's path list. -/
inductive FileStep (cfg : BuildSettings) (page : PageSettings) (parser : FeatureParser) (dir : DirEntry)
    (j : Job) (name : String) : Job → Bool → Prop
  /-- A feature of which tag filtering leaves nothing is skipped, and not listed. -/
  | skipped {feature : FeatureFile} (hf : isFeatureFile name = true)
      (hread : parser.parse j.volume (dir.absolutePath.push name) = .ok feature)
      (hrender : page.render feature j.context = none) :
      FileStep cfg page parser dir j name
        { j with
          report := { j.report with featuresSkipped := j.report.featuresSkipped + 1 }
          log := j.log ++ [.skip (dir.absolutePath.push name)] } false
  /-- Any other feature is rendered into a page, which is written. -/
  | rendered {feature : FeatureFile} {doc : Document} {ctx : Context} {j₁ : Job}
      (hf : isFeatureFile name = true)
      (hread : parser.parse j.volume (dir.absolutePath.push name) = .ok feature)
      (hrender : page.render feature j.context = some (doc, ctx))
      (hw : write cfg { j with context := ctx } doc
        (cfg.outputDir.push (flatName (dir.pathList ++ [name]) none false (some outputExtension))) =
          .ok j₁) :
      FileStep cfg page parser dir j name
        { j₁ with report := { j₁.report with featuresRendered := j₁.report.featuresRendered + 1 } }
        true
  /-- Prose in reStructuredText is listed and left where it is. -/
  | prose (hf : isFeatureFile name = false) (hr : isRstFile name = true) :
      FileStep cfg page parser dir j name j true
  /-- Any other file is copied. -/
  | copied {j₁ : Job} (hf : isFeatureFile name = false) (hr : isRstFile name = false)
      (hc : copy cfg j (dir.absolutePath.push name)
        (cfg.outputDir.push (flatName (dir.pathList ++ [name]) none false none)) = .ok j₁) :
      FileStep cfg page parser dir j name
        { j₁ with report := { j₁.report with filesCopied := j₁.report.filesCopied + 1 } } true

theorem file_eq_ok {name : String} {keep : Bool} :
    file cfg page parser dir j name = .ok (j', keep) ↔ FileStep cfg page parser dir j name j' keep := by
  constructor
  · intro h
    unfold file at h
    by_cases hf : isFeatureFile name
    · simp only [hf, if_true, bind_eq_ok, mapError_eq_ok] at h
      obtain ⟨feature, hread, h⟩ := h
      split at h
      · next hrender =>
        cases h
        exact .skipped hf hread hrender
      · next doc ctx hrender =>
        obtain ⟨j₁, hw, h⟩ := bind_eq_ok.mp h
        cases h
        exact .rendered hf hread hrender hw
    · by_cases hr : isRstFile name
      · simp only [hf, hr, Bool.false_eq_true, if_false, Bool.not_true] at h
        cases h
        exact .prose (by simpa using hf) hr
      · simp only [hf, hr, Bool.false_eq_true, if_false, Bool.not_false, if_true, bind_eq_ok] at h
        obtain ⟨j₁, hc, h⟩ := h
        cases h
        exact .copied (by simpa using hf) (by simpa using hr) hc
  · intro h
    cases h with
    | skipped hf hread hrender =>
      simp [file, hf, hread, hrender, bind, Except.bind, mapError_ok, pure, Except.pure]
    | rendered hf hread hrender hw =>
      simp [file, hf, hread, hrender, hw, bind, Except.bind, mapError_ok, pure, Except.pure]
    | prose hf hr => simp [file, hf, hr, pure, Except.pure]
    | copied hf hr hc => simp [file, hf, hr, hc, bind, Except.bind, pure, Except.pure]

/-- One step of the loop over the files of a directory: the job after the file, and the files
listed so far. -/
def fileStep (cfg : BuildSettings) (page : PageSettings) (parser : FeatureParser) (dir : DirEntry)
    (x : Job × List String) (name : String) : Except Halted (Job × List String) := do
  let (j, keep) ← file cfg page parser dir x.1 name
  pure (j, if keep then x.2 ++ [name] else x.2)

theorem files_eq (cfg : BuildSettings) (page : PageSettings) (parser : FeatureParser)
    (dir : DirEntry) (j : Job) :
    files cfg page parser dir j = dir.files.foldlM (fileStep cfg page parser dir) (j, []) :=
  rfl

theorem fileStep_eq_ok {x x' : Job × List String} {name : String} :
    fileStep cfg page parser dir x name = .ok x' ↔
      ∃ keep, file cfg page parser dir x.1 name = .ok (x'.1, keep) ∧
        x'.2 = if keep then x.2 ++ [name] else x.2 := by
  obtain ⟨j₁, l₁⟩ := x'
  simp only [fileStep, bind_eq_ok]
  constructor
  · rintro ⟨⟨j₂, keep⟩, hfile, h⟩
    cases h
    exact ⟨keep, hfile, rfl⟩
  · rintro ⟨keep, hfile, rfl⟩
    exact ⟨(j₁, keep), hfile, rfl⟩

/-! ## Directories -/

/-- The subdirectories of `dir` among the directories `kept`: the ones its table of contents
lists. -/
def subdirsAmong (kept : List Path) (dir : DirEntry) : List String :=
  dir.subDirectories.filter fun sub => kept.any fun p => p.sameAs (dir.absolutePath.push sub)

theorem document_eq_ok {toc : TocBuilder} {subs : List String} {isRoot : Bool} :
    document cfg page parser toc j dir subs isRoot = .ok j' ↔
      ∃ j₁ listed doc j₂,
        files cfg page parser dir { j with kept := dir.absolutePath :: j.kept } = .ok (j₁, listed) ∧
        toc.build j₁.volume dir.pathList subs listed = .ok doc ∧
        write cfg j₁ doc (if isRoot then cfg.outputDir.push (cfg.tocName ++ outputExtension)
          else cfg.outputDir.push (flatName dir.pathList none true (some outputExtension))) =
            .ok j₂ ∧
        j' = { j₂ with report := { j₂.report with tocs := j₂.report.tocs + 1 } } := by
  simp only [document, bind_eq_ok, mapError_eq_ok]
  constructor
  · rintro ⟨⟨j₁, listed⟩, hfiles, doc, hdoc, j₂, hw, h⟩
    cases h
    exact ⟨j₁, listed, doc, j₂, hfiles, hdoc, hw, rfl⟩
  · rintro ⟨j₁, listed, doc, j₂, hfiles, hdoc, hw, rfl⟩
    exact ⟨(j₁, listed), hfiles, doc, hdoc, j₂, hw, rfl⟩

theorem directory_eq {toc : TocBuilder} {isRoot : Bool} :
    directory cfg page parser toc j dir isRoot =
      if dir.files.isEmpty && (subdirsAmong j.kept dir).isEmpty then .ok j
      else document cfg page parser toc j dir (subdirsAmong j.kept dir) isRoot :=
  rfl

theorem directory_eq_ok {toc : TocBuilder} {isRoot : Bool} :
    directory cfg page parser toc j dir isRoot = .ok j' ↔
      (dir.files.isEmpty && (subdirsAmong j.kept dir).isEmpty) = true ∧ j' = j ∨
      (dir.files.isEmpty && (subdirsAmong j.kept dir).isEmpty) = false ∧
        document cfg page parser toc j dir (subdirsAmong j.kept dir) isRoot = .ok j' := by
  rw [directory_eq]
  cases (dir.files.isEmpty && (subdirsAmong j.kept dir).isEmpty)
  · simp
  · simp [eq_comm]

theorem directories_eq (cfg : BuildSettings) (page : PageSettings) (parser : FeatureParser)
    (toc : TocBuilder) (j : Job) (es : List DirEntry) :
    directories cfg page parser toc j es =
      (fromTheEnd es).foldlM (fun j x => directory cfg page parser toc j x.1 x.2) j :=
  rfl

/-! ## The end of a build -/

/-- The ways the glossary or the tag list, asked for under `name`, can be finished. -/
inductive Finishes (cfg : BuildSettings) (j : Job) : Option String → Option Document → Job →
    Outcome → Prop
  | notRequested {doc : Option Document} : Finishes cfg j none doc j .notRequested
  | dry {n : String} {doc : Option Document} (hd : cfg.dryRun = true) :
      Finishes cfg j (some n) doc j .dryRun
  | empty {n : String} (hd : cfg.dryRun = false) : Finishes cfg j (some n) none j .empty
  | written {n : String} {d : Document} {j' : Job} (hd : cfg.dryRun = false)
      (hw : write cfg j d (cfg.outputDir.push (n ++ outputExtension)) = .ok j') :
      Finishes cfg j (some n) (some d) j' (.written (cfg.outputDir.push (n ++ outputExtension)))

theorem finish_eq_ok {name : Option String} {doc : Option Document} {o : Outcome} :
    finish cfg j name doc = .ok (j', o) ↔ Finishes cfg j name doc j' o := by
  constructor
  · intro h
    unfold finish at h
    split at h
    · cases h
      exact .notRequested
    · split at h
      · next hd =>
        cases h
        exact .dry hd
      · next hd =>
        have hd' : cfg.dryRun = false := by simpa using hd
        split at h
        · cases h
          exact .empty hd'
        · obtain ⟨j₁, hw, h⟩ := map_eq_ok.mp h
          cases h
          exact .written hd' hw
  · intro h
    cases h <;> simp [finish, *, Except.map]

end Job

/-- A build makes the output directory, handles the directories, counts the steps and the tags
its context recorded, and finishes the glossary and the tag list. -/
theorem buildJob_eq_ok {cfg : BuildSettings} {page : PageSettings} {parser : FeatureParser}
    {W : WorkList} {v : Volume} {j : Job} :
    buildJob cfg page parser W v = .ok j ↔
      ∃ v₁ j₁ j₂ g j₃ t, prepareOutputDir v cfg.outputDir cfg.dryRun = .ok v₁ ∧
        Job.directories cfg page parser ⟨W.rootPath, cfg.maxTocDepth, cfg.style⟩
          { volume := v₁ } W.entries = .ok j₁ ∧
        Job.finish cfg
          { j₁ with
            report := { j₁.report with
              steps := j₁.context.glossary.size
              tags := j₁.context.tags.size } }
          cfg.glossaryName (j₁.context.glossary.render cfg.projectName cfg.groupGlossary) =
            .ok (j₂, g) ∧
        Job.finish cfg j₂ cfg.tagListName (j₂.context.tags.render cfg.projectName) = .ok (j₃, t) ∧
        j = { j₃ with report := { j₃.report with glossary := g, tagList := t } } := by
  simp only [buildJob, bind_eq_ok, mapError_eq_ok]
  constructor
  · rintro ⟨v₁, hv₁, j₁, hj₁, ⟨j₂, g⟩, hg, ⟨j₃, t⟩, ht, h⟩
    cases h
    exact ⟨v₁, j₁, j₂, g, j₃, t, hv₁, hj₁, hg, ht, rfl⟩
  · rintro ⟨v₁, j₁, j₂, g, j₃, t, hv₁, hj₁, hg, ht, rfl⟩
    exact ⟨v₁, hv₁, j₁, hj₁, (j₂, g), hg, (j₃, t), ht, rfl⟩

end FeatureDocs.Tree
