import FeatureDocs.Proofs.BuildsInStep

/-!
# A second build finds every document unchanged

A build writes a document only when its file does not already hold the document's text, and
counts it as unchanged otherwise. Build the same work list twice, the scanned directory left as
it is: the second build reads the same features and tables of contents as the first, renders the
same documents, and finds each of them in its file, as long as the first build left it there. It
does not when two outputs of the first build go to one file: the later one overwrites the
earlier, and the second build finds the earlier document's file holding the later text. The
features `specs/a.b.feature` and `specs/a/b.feature` have one page name
(`rebuild_rewrites_shared_page`).

When no two outputs of the first build share a file, the first build leaves each of them in the
output directory (`buildJob_holds`), and the second follows the first step by step, finding
each document unchanged (`follows_rebuild`). Its count of unchanged files is then the number of
documents in its log, which is the number of its tables of contents, pages, glossary and tag
list (`countWrites_buildJob`).

* `LogEntry.isWrite`, `Job.CountsWrites`, `countWrites_buildJob`: every document in the log of
  a build is counted;
* `LogEntry.HeldIn`, `Holds`, `buildJob_holds`: what a build leaves in the output directory;
* `Rebuilt`, `follows_rebuild`: a second build follows the first;
* **`rebuild_finds_documents_unchanged`**: on a volume without links, with the output directory
  outside the scanned one, plain names for the root's table of contents, the glossary and the
  tag list, and no two outputs of the first build on one file, a second build of the same work
  list succeeds, leaves the volume as the first left it, and finds every document unchanged.
-/

namespace FeatureDocs.Tree

open FeatureDocs.Store FeatureDocs.Markup FeatureDocs.Feature FeatureDocs.Render

/-! ## Every document in the log of a build is counted -/

/-- The line is a document: one written or, on a dry run, one that would be. -/
def LogEntry.isWrite : LogEntry → Bool
  | .write .. => true
  | _ => false

/-- One for a glossary or a tag list that was written, none otherwise. -/
def Outcome.writtenCount : Outcome → Nat
  | .written _ => 1
  | _ => 0

/-- From `j` to `j'` a build adds as many documents to its log as tables of contents and pages to
its counts. -/
def Job.CountsWrites (j j' : Job) : Prop :=
  j'.log.countP LogEntry.isWrite + (j.report.tocs + j.report.featuresRendered) =
    j.log.countP LogEntry.isWrite + (j'.report.tocs + j'.report.featuresRendered)

namespace Job

variable {cfg : BuildSettings} {page : PageSettings} {parser : FeatureParser} {dir : DirEntry}
  {j j' : Job}

theorem CountsWrites.refl (j : Job) : CountsWrites j j := rfl

theorem CountsWrites.trans {j₁ j₂ j₃ : Job} (h₁ : CountsWrites j₁ j₂)
    (h₂ : CountsWrites j₂ j₃) : CountsWrites j₁ j₃ := by
  unfold CountsWrites at *
  omega

theorem countP_write {doc : Document} {p : Path} (h : write cfg j doc p = .ok j') :
    j'.log.countP LogEntry.isWrite = j.log.countP LogEntry.isWrite + 1 ∧
      j'.report.tocs = j.report.tocs ∧ j'.report.featuresRendered = j.report.featuresRendered := by
  obtain ⟨o, ho⟩ := log_write h
  obtain ⟨-, -, hr⟩ := write_frame h
  exact ⟨by simp [ho, LogEntry.isWrite], by rw [hr], by rw [hr]⟩

theorem countsWrites_copy {src dst : Path} (h : copy cfg j src dst = .ok j') : CountsWrites j j' := by
  obtain ⟨-, -, hr⟩ := copy_frame h
  simp [CountsWrites, log_copy h, hr, LogEntry.isWrite]

theorem countsWrites_file {name : String} {keep : Bool}
    (h : file cfg page parser dir j name = .ok (j', keep)) : CountsWrites j j' := by
  cases file_eq_ok.mp h with
  | skipped => simp [CountsWrites, LogEntry.isWrite]
  | rendered _ _ _ hw =>
    obtain ⟨hc, ht, hfr⟩ := countP_write hw
    simp only [CountsWrites] at hc ht hfr ⊢
    omega
  | prose => exact .refl j
  | copied _ _ hc =>
    have hcopy : CountsWrites j _ := countsWrites_copy hc
    exact hcopy

theorem countsWrites_files {listed : List String}
    (h : files cfg page parser dir j = .ok (j', listed)) : CountsWrites j j' := by
  rw [files_eq] at h
  refine foldlM_rel (fun a b : Job × List String => CountsWrites a.1 b.1) (fun a => .refl a.1)
    (fun h₁ h₂ => h₁.trans h₂) dir.files (fun _ _ x x' hx => ?_) _ _ h
  obtain ⟨keep, hfile, -⟩ := fileStep_eq_ok.mp hx
  exact countsWrites_file hfile

theorem countsWrites_document {toc : TocBuilder} {subs : List String} {isRoot : Bool}
    (h : document cfg page parser toc j dir subs isRoot = .ok j') : CountsWrites j j' := by
  obtain ⟨j₁, listed, doc, j₂, hfiles, -, hw, rfl⟩ := document_eq_ok.mp h
  have h₁ : CountsWrites { j with kept := dir.absolutePath :: j.kept } j₁ :=
    countsWrites_files hfiles
  obtain ⟨hc, ht, hfr⟩ := countP_write hw
  unfold CountsWrites at h₁ ⊢
  simp only at h₁ hc ht hfr ⊢
  omega

theorem countsWrites_directories {toc : TocBuilder} {es : List DirEntry}
    (h : directories cfg page parser toc j es = .ok j') : CountsWrites j j' := by
  rw [directories_eq] at h
  refine foldlM_rel CountsWrites CountsWrites.refl (fun h₁ h₂ => h₁.trans h₂) _
    (fun _ _ x x' hx => ?_) _ _ h
  rcases directory_eq_ok.mp hx with ⟨-, rfl⟩ | ⟨-, hdoc⟩
  · exact .refl _
  · exact countsWrites_document hdoc

theorem countP_finish {name : Option String} {doc : Option Document} {o : Outcome}
    (h : finish cfg j name doc = .ok (j', o)) :
    j'.log.countP LogEntry.isWrite = j.log.countP LogEntry.isWrite + o.writtenCount ∧
      j'.report.tocs = j.report.tocs ∧ j'.report.featuresRendered = j.report.featuresRendered := by
  cases finish_eq_ok.mp h with
  | written _ hw => exact countP_write hw
  | _ => exact ⟨rfl, rfl, rfl⟩

end Job

/-- **The log of a build holds a document for each table of contents and page it counts**, and
one for the glossary and for the tag list when they are written. -/
theorem countWrites_buildJob {cfg : BuildSettings} {page : PageSettings} {parser : FeatureParser}
    {W : WorkList} {v : Volume} {j : Job} (h : buildJob cfg page parser W v = .ok j) :
    j.log.countP LogEntry.isWrite = j.report.tocs + j.report.featuresRendered +
      j.report.glossary.writtenCount + j.report.tagList.writtenCount := by
  obtain ⟨v₁, j₁, j₂, g, j₃, t, -, hj₁, hg, ht, rfl⟩ := buildJob_eq_ok.mp h
  have h₁ := Job.countsWrites_directories hj₁
  obtain ⟨hc₂, ht₂, hfr₂⟩ := Job.countP_finish hg
  obtain ⟨hc₃, ht₃, hfr₃⟩ := Job.countP_finish ht
  unfold Job.CountsWrites at h₁
  simp only [List.countP_nil] at h₁ hc₂ ht₂ hfr₂ ⊢
  omega

/-! ## What a build leaves in the output directory -/

/-- What a line of the log of a build into the path `P`, at the location `out`, from the volume
`v` left in the volume `u`: a document's text, or the text of a file of `v`, in a file directly in
`out`. -/
def LogEntry.HeldIn (P : Path) (out : Location) (v u : Volume) : LogEntry → Prop
  | .write p doc _ => ∃ n, ValidName n ∧ p = P.push n ∧
      u.lookup (out ++ [n]) = some (.file doc.text)
  | .copy src dst => ∃ n t, ValidName n ∧ dst = P.push n ∧ v.readFile src = .ok t ∧
      u.lookup (out ++ [n]) = some (.file t)
  | .skip _ => True

/-- A job of a build into `P`, at `out`, from `v`: its volume, without links, read from the same
working directory and with the directories `P` enters, holds what every line of its log
wrote. -/
structure Holds (P : Path) (out : Location) (v : Volume) (j : Job) : Prop where
  linkless : j.volume.Linkless
  cwd : j.volume.cwd = v.cwd
  dirs : ∀ q ∈ P.entered v.cwd, j.volume.lookup q = some .dir
  entries : ∀ e ∈ j.log, e.HeldIn P out v j.volume

theorem LogEntry.HeldIn.set {P : Path} {out : Location} {v u : Volume} {e : LogEntry}
    (he : e.HeldIn P out v u) {n : String} (hne : e.target? ≠ some (P.push n)) (node : Node) :
    e.HeldIn P out v (u.set (out ++ [n]) node) := by
  cases e with
  | write p doc o =>
    obtain ⟨m, hm, rfl, hl⟩ := he
    have hmn : out ++ [m] ≠ out ++ [n] := fun h => hne (by simp at h; rw [h]; rfl)
    exact ⟨m, hm, rfl, by rw [Volume.lookup_set_ne hmn, hl]⟩
  | copy src dst =>
    obtain ⟨m, t, hm, rfl, ht, hl⟩ := he
    have hmn : out ++ [m] ≠ out ++ [n] := fun h => hne (by simp at h; rw [h]; rfl)
    exact ⟨m, t, hm, rfl, ht, by rw [Volume.lookup_set_ne hmn, hl]⟩
  | skip src => trivial

theorem target_fresh {L log : List LogEntry} (hnd : (L.filterMap LogEntry.target?).Nodup)
    {e : LogEntry} {p : Path} (hL : log ++ [e] <+: L) (he : e.target? = some p) :
    ∀ e' ∈ log, e'.target? ≠ some p := by
  intro e' he' hp
  have hnd' := hnd.sublist (hL.sublist.filterMap _)
  rw [List.filterMap_append, List.nodup_append] at hnd'
  exact hnd'.2.2 p (List.mem_filterMap.mpr ⟨e', he', hp⟩) p (by simp [he]) rfl

namespace Holds

variable {P : Path} {out : Location} {v : Volume} {j j' : Job}

theorem congr (hH : Holds P out v j) (hv : j'.volume = j.volume) (hl : j'.log = j.log) :
    Holds P out v j' :=
  ⟨hv ▸ hH.linkless, hv ▸ hH.cwd, hv ▸ hH.dirs, hv ▸ hl ▸ hH.entries⟩

theorem append {e : LogEntry} (hH : Holds P out v j) (hv : j'.volume = j.volume)
    (hl : j'.log = j.log ++ [e]) (he : e.HeldIn P out v j.volume) : Holds P out v j' := by
  refine ⟨hv ▸ hH.linkless, hv ▸ hH.cwd, hv ▸ hH.dirs, fun e' he' => ?_⟩
  rw [hl] at he'
  rw [hv]
  rcases List.mem_append.mp he' with he' | he'
  · exact hH.entries e' he'
  · rw [List.mem_singleton.mp he']
    exact he

theorem setFile {e : LogEntry} (hH : Holds P out v j) {n t : String}
    (hnd : j.volume.lookup (out ++ [n]) ≠ some .dir)
    (hfresh : ∀ e' ∈ j.log, e'.target? ≠ some (P.push n))
    (hv : j'.volume = j.volume.set (out ++ [n]) (.file t)) (hl : j'.log = j.log ++ [e])
    (he : e.HeldIn P out v j'.volume) : Holds P out v j' := by
  refine ⟨hv ▸ hH.linkless.set _ rfl, hv ▸ hH.cwd, fun q hq => ?_, fun e' he' => ?_⟩
  · -- the directories the path enters are not where the file is
    have hqn : q ≠ out ++ [n] := fun e => hnd (e ▸ hH.dirs q hq)
    rw [hv, Volume.lookup_set_ne hqn, hH.dirs q hq]
  · rw [hl] at he'
    rcases List.mem_append.mp he' with he' | he'
    · rw [hv]
      exact (hH.entries e' he').set (hfresh e' he') _
    · rw [List.mem_singleton.mp he']
      exact he

variable {cfg : BuildSettings} {names : Location} (hs : BuildsOutside cfg v names out)
  (hreal : cfg.dryRun = false)
include hs hreal

/-- A document written directly in `out`, where no line of the log wrote before, is held there
after the write, whether it was written or found unchanged. -/
theorem write (hH : Holds cfg.outputDir out v j) {doc : Document} {n : String} (hn : ValidName n)
    (h : Job.write cfg j doc (cfg.outputDir.push n) = .ok j')
    (hfresh : ∀ e ∈ j.log, e.target? ≠ some (cfg.outputDir.push n)) :
    Holds cfg.outputDir out v j' := by
  have hP : Path.absoluteNames j.volume.cwd cfg.outputDir = .ok out := hH.cwd ▸ hs.outputDir
  have hdirs := hH.cwd ▸ hH.dirs
  cases Job.write_eq_ok.mp h with
  | dry hd => simp [hreal] at hd
  | unchanged _ hwt =>
    -- the file already holds the document
    obtain ⟨hread, -, rfl⟩ | ⟨-, hne, -⟩ := Document.writeTo_eq_ok.mp hwt
    · exact hH.append rfl rfl
        ⟨n, hn, rfl, Volume.lookup_of_readFile_push hP hn hH.linkless hdirs hread⟩
    · cases hne
  | written _ hwt =>
    obtain ⟨-, hne, -⟩ | ⟨-, -, hw⟩ := Document.writeTo_eq_ok.mp hwt
    · cases hne
    · obtain ⟨-, rfl, hnd⟩ := Volume.writeFile_push hP hn hH.linkless hw
      exact hH.setFile hnd hfresh rfl rfl
        ⟨n, hn, rfl, by rw [Volume.lookup_set (by simp), if_pos rfl]⟩

theorem copy (hH : Holds cfg.outputDir out v j) (hu : Untouched names v j.volume) {src : Path}
    (hsrc : ∃ X, ValidLocation X ∧ names <+: X ∧ src = Location.path X) {n : String}
    (hn : ValidName n) (h : Job.copy cfg j src (cfg.outputDir.push n) = .ok j')
    (hfresh : ∀ e ∈ j.log, e.target? ≠ some (cfg.outputDir.push n)) :
    Holds cfg.outputDir out v j' := by
  cases Job.copy_eq_ok.mp h with
  | dry hd => simp [hreal] at hd
  | copied _ hc =>
    obtain ⟨t, hmeta, hw⟩ := Volume.copyFile_eq_ok.mp hc
    obtain ⟨X, hX, hin, rfl⟩ := hsrc
    -- the copy reads its source as the scanned directory holds it
    have hread : v.readFile (Location.path X) = .ok t := by
      rw [← hu.readFile_eq hX hin]
      simp only [Volume.readFile, hmeta]
    obtain ⟨-, rfl, hnd⟩ := Volume.writeFile_push (hH.cwd ▸ hs.outputDir) hn hH.linkless hw
    exact hH.setFile hnd hfresh rfl rfl
      ⟨n, t, hn, rfl, hread, by rw [Volume.lookup_set (by simp), if_pos rfl]⟩

end Holds

namespace Job

variable {cfg : BuildSettings} {x y x' : Job}

theorem write_congr {doc : Document} {p : Path} (hv : y.volume = x.volume) (hl : y.log = x.log)
    (h : write cfg x doc p = .ok x') :
    ∃ y', write cfg y doc p = .ok y' ∧ y'.volume = x'.volume ∧ y'.log = x'.log := by
  cases write_eq_ok.mp h with
  | dry hd => exact ⟨_, write_eq_ok.mpr (.dry hd), hv, by rw [hl]⟩
  | unchanged hd hw => exact ⟨_, write_eq_ok.mpr (.unchanged hd (hv ▸ hw)), rfl, by rw [hl]⟩
  | written hd hw => exact ⟨_, write_eq_ok.mpr (.written hd (hv ▸ hw)), rfl, by rw [hl]⟩

theorem copy_congr {src dst : Path} (hv : y.volume = x.volume) (hl : y.log = x.log)
    (h : copy cfg x src dst = .ok x') :
    ∃ y', copy cfg y src dst = .ok y' ∧ y'.volume = x'.volume ∧ y'.log = x'.log := by
  cases copy_eq_ok.mp h with
  | dry hd => exact ⟨_, copy_eq_ok.mpr (.dry hd), hv, by rw [hl]⟩
  | copied hd hc => exact ⟨_, copy_eq_ok.mpr (.copied hd (hv ▸ hc)), rfl, by rw [hl]⟩

end Job

section Self

variable {cfg : BuildSettings} {v : Volume} {names out : Location}
  (hs : BuildsOutside cfg v names out) (hreal : cfg.dryRun = false)
include hs hreal

/-- A build beside itself keeps what its log wrote, as long as no two lines of its log, bounded
by `L`, share a target, and the root's table of contents has a plain name. -/
theorem follows_self {L : List LogEntry} (hnd : (L.filterMap LogEntry.target?).Nodup)
    (htoc : ValidName (cfg.tocName ++ outputExtension)) :
    Follows cfg cfg v names L fun x y =>
      y.volume = x.volume ∧ y.log = x.log ∧ Holds cfg.outputDir out v x where
  outputDir := rfl
  tocName := rfl
  frame h hx hxl hy hyl _ :=
    ⟨by rw [hy, h.1, hx], by rw [hyl, h.2.1, hxl], h.2.2.congr hx hxl⟩
  reads h hu := h.1 ▸ hu
  skip src h := ⟨h.1, congrArg (· ++ [.skip src]) h.2.1, h.2.2.append rfl rfl trivial⟩
  write h hn hw hL := by
    obtain ⟨y', hy', hv', hl'⟩ := Job.write_congr h.1 h.2.1 hw
    obtain ⟨o, ho⟩ := Job.log_write hw
    have hn' := hn.elim id fun e => e ▸ htoc
    exact ⟨y', hy', hv', hl', h.2.2.write hs hreal hn' hw (target_fresh hnd (ho ▸ hL) rfl)⟩
  copy h hu hsrc hn hc hL := by
    obtain ⟨y', hy', hv', hl'⟩ := Job.copy_congr h.1 h.2.1 hc
    exact ⟨y', hy', hv', hl',
      h.2.2.copy hs hreal hu hsrc hn hc (target_fresh hnd (Job.log_copy hc ▸ hL) rfl)⟩

/-- A build into `out` under plain names, no two of whose outputs go to one file, leaves each
output of its log in the output directory, and the scanned directory as it was. -/
theorem buildJob_holds {W : WorkList} (hW : W.Located names)
    (htoc : ValidName (cfg.tocName ++ outputExtension))
    (hglossary : ∀ n, cfg.glossaryName = some n → ValidName (n ++ outputExtension))
    (htags : ∀ n, cfg.tagListName = some n → ValidName (n ++ outputExtension))
    {page : PageSettings} {parser : FeatureParser} {j : Job} (h : buildJob cfg page parser W v = .ok j)
    (hnd : (j.log.filterMap LogEntry.target?).Nodup) :
    Holds cfg.outputDir out v j ∧ Untouched names v j.volume := by
  obtain ⟨y, -, hxy, hu⟩ := (follows_self hs hreal hnd htoc).run hs hreal hW htoc hglossary htags
    (w := v) (fun v₁ hv₁ hdirs => ⟨v₁, hv₁, rfl, rfl,
      ⟨(untouched_prepare hs hv₁).1.linkless, (untouched_prepare hs hv₁).1.cwd, hdirs,
        fun _ he => absurd he List.not_mem_nil⟩⟩)
    h (List.prefix_refl _)
  exact ⟨hxy.rel.2.2, hu⟩

end Self

/-! ## A second build follows the first -/

namespace Job

variable {cfg : BuildSettings} {j : Job}

theorem write_unchanged (hreal : cfg.dryRun = false) {doc : Document} {p : Path}
    (h : j.volume.readFile p = .ok doc.text) :
    write cfg j doc p = .ok { j with
      report := { j.report with unchanged := j.report.unchanged + 1 }
      log := j.log ++ [.write p doc (some .unchanged)] } :=
  write_eq_ok.mpr (.unchanged hreal (Document.writeTo_eq_ok.mpr (.inl ⟨h, rfl, rfl⟩)))

theorem copy_ok (hreal : cfg.dryRun = false) {src dst : Path} {u : Volume}
    (h : j.volume.copyFile src dst = .ok u) :
    copy cfg j src dst = .ok { j with volume := u, log := j.log ++ [.copy src dst] } :=
  copy_eq_ok.mpr (.copied hreal h)

end Job

/-- A job of a second build, beside a first that left the volume `V`: its volume holds the
entries of `V` and has no links, it found every document it wrote unchanged, and it counted each
of them. -/
structure Rebuilt (V : Volume) (y : Job) : Prop where
  cwd : y.volume.cwd = V.cwd
  lookup : ∀ l, y.volume.lookup l = V.lookup l
  linkless : y.volume.Linkless
  unchanged : ∀ p doc o, LogEntry.write p doc o ∈ y.log → o = some .unchanged
  counted : y.report.unchanged = y.log.countP LogEntry.isWrite

theorem Rebuilt.untouched {names : Location} {v V : Volume} {y : Job} (h : Rebuilt V y)
    (hV : Untouched names v V) : Untouched names v y.volume :=
  ⟨h.linkless, h.cwd.trans hV.cwd, fun l hl => (h.lookup l).trans (hV.tree l hl)⟩

section Second

variable {cfg : BuildSettings} {v : Volume} {names out : Location}
  (hs : BuildsOutside cfg v names out) (hreal : cfg.dryRun = false)
include hs hreal

/-- A second build follows a first that left each output of its log in the output directory:
every document it writes it finds there unchanged, and every file it copies it copies over a file
that holds the same text. -/
theorem follows_rebuild {j₁ : Job} (hH : Holds cfg.outputDir out v j₁)
    (hu₁ : Untouched names v j₁.volume) :
    Follows cfg cfg v names j₁.log fun _ y => Rebuilt j₁.volume y where
  outputDir := rfl
  tocName := rfl
  frame h _ _ hy hyl hyu :=
    ⟨hy ▸ h.cwd, hy ▸ h.lookup, hy ▸ h.linkless, hyl ▸ h.unchanged,
      by rw [hyu, hyl]; exact h.counted⟩
  reads h _ := h.untouched hu₁
  skip src h := by
    refine ⟨h.cwd, h.lookup, h.linkless, fun p doc o he => h.unchanged p doc o ?_, ?_⟩
    · simpa using he
    · simp [h.counted, LogEntry.isWrite]
  write {x y x' doc n} h hn hw hL := by
    -- the first build left the document in its file, where the second finds it
    obtain ⟨o, ho⟩ := Job.log_write hw
    have hmem : LogEntry.write (cfg.outputDir.push n) doc o ∈ j₁.log :=
      hL.subset (by rw [ho]; simp)
    obtain ⟨n', hn', hp, hl⟩ := hH.entries _ hmem
    have hread : y.volume.readFile (cfg.outputDir.push n) = .ok doc.text := by
      rw [Volume.readFile_eq_of_lookup h.cwd h.lookup, hp]
      exact Volume.readFile_push (hH.cwd ▸ hs.outputDir) hn' (hH.cwd ▸ hH.dirs) hl
    refine ⟨_, Job.write_unchanged hreal hread, h.cwd, h.lookup, h.linkless,
      fun p' doc' o' he => ?_, ?_⟩
    · rcases List.mem_append.mp he with he | he
      · exact h.unchanged p' doc' o' he
      · cases List.mem_singleton.mp he
        rfl
    · simp [h.counted, LogEntry.isWrite]
  copy {x y x' src n} h _ hsrc hn hc hL := by
    -- the first build left a copy of the source in the target, which the second copies again
    have hmem : LogEntry.copy src (cfg.outputDir.push n) ∈ j₁.log :=
      hL.subset (by rw [Job.log_copy hc]; simp)
    obtain ⟨n', t, hn', hp, hread, hl⟩ := hH.entries _ hmem
    obtain ⟨X, hX, hin, rfl⟩ := hsrc
    have hu := h.untouched hu₁
    have hmeta : y.volume.metadata (Location.path X) = .ok (.file t) := by
      rw [hu.tree.metadata_eq hu.linkless hX hin]
      exact Volume.metadata_of_readFile hread
    -- the second build reads the output path from the same working directory
    have hcwd : y.volume.cwd = v.cwd := h.cwd.trans hH.cwd
    have hdirs : ∀ q ∈ cfg.outputDir.entered y.volume.cwd, y.volume.lookup q = some .dir :=
      fun q hq => (h.lookup q).trans (hH.dirs q (hcwd ▸ hq))
    have hw : y.volume.writeFile (cfg.outputDir.push n) t =
        .ok (y.volume.set (out ++ [n']) (.file t)) := by
      rw [hp]
      exact Volume.writeFile_push_of_file (hcwd ▸ hs.outputDir) hn' hdirs ((h.lookup _).trans hl)
    refine ⟨_, Job.copy_ok hreal (Volume.copyFile_eq_ok.mpr ⟨t, hmeta, hw⟩), h.cwd,
      fun k => ?_, h.linkless.set _ rfl, fun p doc o he => h.unchanged p doc o ?_, ?_⟩
    · by_cases hk : k = out ++ [n']
      · rw [hk, Volume.lookup_set (by simp), if_pos rfl, hl]
      · rw [Volume.lookup_set_ne hk, h.lookup]
    · simpa using he
    · simp [h.counted, LogEntry.isWrite]

end Second

/-- **A second build finds every document unchanged.** On a volume without symbolic links, take
the work list of a scan of a directory, an output directory that is not inside it, on a path that
enters no directory inside it either, read against the working directory, and plain names for
the root's table of contents, the glossary and the tag list. When a build succeeds and no two of
its outputs go to one file, a second build of the same work list, on the volume the first left,
succeeds: it leaves every entry of that volume as it was, finds every document it writes
unchanged, and so counts as unchanged its tables of contents, its pages, and the glossary and
the tag list when they are written. -/
theorem rebuild_finds_documents_unchanged (s : Scanner) {v : Volume} (hv : v.IsTree)
    (hlinks : v.Linkless) {root : Path} {names : Location}
    (hnames : Path.absoluteNames v.cwd root = .ok names)
    (hdir : v.isDir (Location.path names) = true) {W : WorkList} (hscan : s.scan v root = .ok W)
    (cfg : BuildSettings) (hreal : cfg.dryRun = false) {out : Location}
    (hout : Path.absoluteNames v.cwd cfg.outputDir = .ok out)
    (hpass : ∀ q ∈ cfg.outputDir.entered v.cwd, ¬ names <+: q) (houtside : ¬ names <+: out)
    (htoc : ValidName (cfg.tocName ++ outputExtension))
    (hglossary : ∀ n, cfg.glossaryName = some n → ValidName (n ++ outputExtension))
    (htags : ∀ n, cfg.tagListName = some n → ValidName (n ++ outputExtension))
    (page : PageSettings) (parser : FeatureParser) {j₁ : Job}
    (h₁ : buildJob cfg page parser W v = .ok j₁)
    (hnd : (j₁.log.filterMap LogEntry.target?).Nodup) :
    ∃ j₂, buildJob cfg page parser W j₁.volume = .ok j₂ ∧
      (∀ l, j₂.volume.lookup l = j₁.volume.lookup l) ∧
      (∀ p doc o, LogEntry.write p doc o ∈ j₂.log → o = some .unchanged) ∧
      j₂.report.unchanged = j₂.report.tocs + j₂.report.featuresRendered +
        j₂.report.glossary.writtenCount + j₂.report.tagList.writtenCount := by
  have hne : names ≠ [] := by
    rintro rfl
    exact houtside List.nil_prefix
  have hX := validLocation_absoluteNames hv.cwd_valid hnames
  have hs : BuildsOutside cfg v names out :=
    ⟨hout, hpass, houtside, hlinks, (Volume.isDir_path_iff hlinks hX).mp hdir⟩
  have hW := scan_located s hv hnames hdir hne hscan
  obtain ⟨hH, hu⟩ := buildJob_holds hs hreal hW htoc hglossary htags h₁ hnd
  -- the output directory is there for the second build, which starts from the first's volume
  have hstart : prepareOutputDir j₁.volume cfg.outputDir cfg.dryRun = .ok j₁.volume := by
    have hisdir : j₁.volume.isDir cfg.outputDir = true := by
      refine (Volume.isDir_iff_entered hH.linkless (Path.text_ne_of_absoluteNames hout)).mpr ?_
      rw [hH.cwd]
      exact hH.dirs
    simp [prepareOutputDir, hisdir]
  obtain ⟨j₂, hj₂, hxy, -⟩ := (follows_rebuild hs hreal hH hu).run hs hreal hW htoc hglossary
    htags (w := j₁.volume) (fun _ _ _ => ⟨j₁.volume, hstart, rfl, fun _ => rfl, hH.linkless,
      fun _ _ _ he => absurd he List.not_mem_nil, rfl⟩) h₁ (List.prefix_refl _)
  refine ⟨j₂, hj₂, hxy.rel.lookup, hxy.rel.unchanged, ?_⟩
  rw [hxy.rel.counted, countWrites_buildJob hj₂]

/-- A feature in `work/specs`, built with a glossary into `../out` from the working directory
`work`, which the first build has to make, meets every condition. -/
theorem rebuild_finds_documents_unchanged_docs :
    let v : Volume := { cwd := ["work"], entries := [(["work"], .dir), (["work", "specs"], .dir),
      (["work", "specs", "a.feature"], .file "Feature: A\n\n  Scenario: S\n    Given a\n")] }
    let W : WorkList := ⟨⟨"/work"⟩, [⟨⟨"/work/specs"⟩, ["specs"], [], ["a.feature"]⟩]⟩
    let cfg : BuildSettings :=
      ⟨⟨"../out"⟩, "gherkin", 4, "Specs", some "glossary", false, none, none, false⟩
    let page : PageSettings := { rootPath := ⟨"/"⟩ }
    v.IsTree ∧ v.Linkless ∧ Path.absoluteNames v.cwd ⟨"specs"⟩ = .ok ["work", "specs"] ∧
      v.isDir (Location.path ["work", "specs"]) = true ∧
      ({} : Scanner).scan v ⟨"specs"⟩ = .ok W ∧
      Path.absoluteNames v.cwd cfg.outputDir = .ok ["out"] ∧
      (∀ q ∈ cfg.outputDir.entered v.cwd, ¬ ["work", "specs"] <+: q) ∧
      ¬ ["work", "specs"] <+: ["out"] ∧ ValidName (cfg.tocName ++ outputExtension) ∧
      (∀ n, cfg.glossaryName = some n → ValidName (n ++ outputExtension)) ∧
      ∃ j₁, buildJob cfg page Dialect.gherkin.parser W v = .ok j₁ ∧
        (j₁.log.filterMap LogEntry.target?).Nodup ∧
        ∃ j₂, buildJob cfg page Dialect.gherkin.parser W j₁.volume = .ok j₂ ∧
          (∀ l, j₂.volume.lookup l = j₁.volume.lookup l) ∧
          (∀ p doc o, LogEntry.write p doc o ∈ j₂.log → o = some .unchanged) ∧
          j₂.report.unchanged = j₂.report.tocs + j₂.report.featuresRendered +
            j₂.report.glossary.writtenCount + j₂.report.tagList.writtenCount ∧
          j₂.report.glossary.writtenCount = 1 := by
  intro v W cfg page
  have hv : v.IsTree := by decide
  have hlinks : v.Linkless := by decide
  have hnames : Path.absoluteNames v.cwd ⟨"specs"⟩ = .ok ["work", "specs"] := rfl
  have hdir : v.isDir (Location.path ["work", "specs"]) = true :=
    Volume.isDir_path_of_dirs (by decide) (by decide)
  have hscan : ({} : Scanner).scan v ⟨"specs"⟩ = .ok W := by decide +kernel
  have hout : Path.absoluteNames v.cwd cfg.outputDir = .ok ["out"] :=
    show Path.absoluteNames ["work"] ⟨"../out"⟩ = .ok ["out"] from rfl
  have hpass : ∀ q ∈ cfg.outputDir.entered v.cwd, ¬ ["work", "specs"] <+: q := by decide
  have htoc : ValidName (cfg.tocName ++ outputExtension) := by decide
  have hglossary : ∀ n, cfg.glossaryName = some n → ValidName (n ++ outputExtension) := by
    rintro n ⟨⟩
    decide
  -- the first build succeeds: it makes `out` and writes the page, the table of contents and the
  -- glossary there, each to its own file; the second writes the glossary again
  have hok : (buildJob cfg page Dialect.gherkin.parser W v).toOption.bind (fun j₁ =>
      (buildJob cfg page Dialect.gherkin.parser W j₁.volume).toOption.map fun j₂ =>
        (decide (j₁.log.filterMap LogEntry.target?).Nodup, j₂.report.glossary.writtenCount)) =
      some (true, 1) := by
    decide +kernel
  cases hb : buildJob cfg page Dialect.gherkin.parser W v with
  | error e => simp [hb, Except.toOption] at hok
  | ok j₁ =>
    cases hb₂ : buildJob cfg page Dialect.gherkin.parser W j₁.volume with
    | error e => simp [hb, hb₂, Except.toOption] at hok
    | ok j₂ =>
      simp only [hb, hb₂, Except.toOption, Option.bind_some, Option.map_some, Option.some.injEq,
        Prod.mk.injEq, decide_eq_true_eq] at hok
      obtain ⟨j₂', hj₂', hlookup, hunchanged, hcount⟩ :=
        rebuild_finds_documents_unchanged {} hv hlinks hnames hdir hscan cfg rfl hout hpass
          (by decide) htoc hglossary (fun _ h => by cases h) page Dialect.gherkin.parser hb hok.1
      obtain rfl : j₂' = j₂ := Except.ok.inj (hj₂'.symm.trans hb₂)
      exact ⟨hv, hlinks, hnames, hdir, hscan, hout, hpass, by decide, htoc, hglossary, j₁, rfl,
        hok.1, j₂', hj₂', hlookup, hunchanged, hcount, hok.2⟩

/-- Two features with one page name, `specs/a.b.feature` and `specs/a/b.feature`: the first
build writes the page of the second and then overwrites it with that of the first, so the second
build finds the second's page file holding the first's text, and writes both pages again. Only
its two tables of contents are found unchanged. -/
theorem rebuild_rewrites_shared_page :
    let v : Volume := { entries := [(["specs"], .dir),
      (["specs", "a.b.feature"], .file "Feature: One\n\n  Scenario: S\n    Given a user\n"),
      (["specs", "a"], .dir),
      (["specs", "a", "b.feature"], .file "Feature: Two\n\n  Scenario: S\n    Given a user\n")] }
    let W : WorkList := ⟨⟨"/"⟩, [⟨⟨"/specs"⟩, ["specs"], ["a"], ["a.b.feature"]⟩,
      ⟨⟨"/specs/a"⟩, ["specs", "a"], [], ["b.feature"]⟩]⟩
    let cfg : BuildSettings := ⟨⟨"/out"⟩, "gherkin", 4, "Specs", none, false, none, none, false⟩
    let page : PageSettings := { rootPath := ⟨"/"⟩ }
    ∃ j₁ j₂, buildJob cfg page Dialect.gherkin.parser W v = .ok j₁ ∧
      buildJob cfg page Dialect.gherkin.parser W j₁.volume = .ok j₂ ∧ j₂.report.unchanged = 2 ∧
      j₂.report.tocs + j₂.report.featuresRendered + j₂.report.glossary.writtenCount +
        j₂.report.tagList.writtenCount = 4 := by
  intro v W cfg page
  have hk : ((buildJob cfg page Dialect.gherkin.parser W v).toOption.bind fun j₁ =>
      (buildJob cfg page Dialect.gherkin.parser W j₁.volume).toOption.map fun j₂ =>
        (j₂.report.unchanged, j₂.report.tocs + j₂.report.featuresRendered +
          j₂.report.glossary.writtenCount + j₂.report.tagList.writtenCount)) = some (2, 4) := by
    decide +kernel
  cases hb₁ : buildJob cfg page Dialect.gherkin.parser W v with
  | error e => simp [hb₁, Except.toOption] at hk
  | ok j₁ =>
    cases hb₂ : buildJob cfg page Dialect.gherkin.parser W j₁.volume with
    | error e => simp [hb₁, hb₂, Except.toOption] at hk
    | ok j₂ =>
      simp only [hb₁, hb₂, Except.toOption, Option.bind_some, Option.map_some, Option.some.injEq,
        Prod.mk.injEq] at hk
      exact ⟨j₁, j₂, rfl, hb₂, hk.1, hk.2⟩

end FeatureDocs.Tree
