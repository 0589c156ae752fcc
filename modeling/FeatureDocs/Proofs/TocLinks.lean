import FeatureDocs.Proofs.BuildPlan

/-!
# Tables of contents link to what the build writes

Every table of contents ends in a toctree that names, by their flat names, the files of its
directory that were neither skipped nor inlined, then its kept subdirectories. The names of the
files a build writes are formed apart from those entries, with other arguments to `flatName`.
This module reads both off the log of a build and shows that they match: each entry names a page,
a copy or a table of contents of the same build (`.rst` added unless the entry is Markdown), and
each of these but the root's table of contents is named by an entry.

* `lowerFrom_variant`, `hasSuffix_iff`: lowercasing writes each character on its own, but for
  the form of the small sigma, so a name keeps the kind of its last segment;
* `outputName`, `tocTarget`, `fileEntry`, `subEntry`, `entryFile`: the names on both sides, and
  `entryFile_fileEntry`, `entryFile_subEntry`: an entry names the file written for it;
* `TocBuilder.build_fragments`: a table of contents ends in its toctree;
* `FilesLog`, `DirLog`: what handling the files of a directory, and a kept directory, logs;
* `Job.log_documents`, `log_buildJob`: the log of a build, one piece per kept directory;
* **`toc_entries_match_written_files`**: the tables of contents of a build list exactly what it
  writes.
-/

namespace FeatureDocs.Text

/-- The lowercase form of a character on its own, a capital sigma written `σ`. -/
def lowerPlain (c : Char) : List Char := if c = 'Σ' then ['σ'] else lowerOf c

/-- The same character, or two forms of the small sigma. -/
def SigmaVariant (a b : Char) : Prop := a = b ∨ (a ∈ ['σ', 'ς'] ∧ b ∈ ['σ', 'ς'])

theorem SigmaVariant.symm {a b : Char} (h : SigmaVariant a b) : SigmaVariant b a := by
  rcases h with rfl | ⟨ha, hb⟩
  · exact Or.inl rfl
  · exact Or.inr ⟨hb, ha⟩

/-- Lowercasing writes each character as it would on its own, up to the form of the small
sigma. -/
theorem lowerFrom_variant (xs : List Char) : ∀ before : List Char,
    List.Forall₂ SigmaVariant (lowerFrom before xs) (xs.flatMap lowerPlain) := by
  induction xs with
  | nil => intro before; exact List.Forall₂.nil
  | cons c xs ih =>
    intro before
    rw [lowerFrom, List.flatMap_cons]
    refine List.rel_append ?_ (ih _)
    by_cases hc : c = 'Σ'
    · -- a capital sigma becomes one of the two small ones, whatever its neighbours
      simp only [hc, if_true, lowerPlain]
      exact List.Forall₂.cons (Or.inr ⟨by split <;> simp, by simp⟩) List.Forall₂.nil
    · simp only [hc, if_false, lowerPlain]
      exact List.forall₂_same.mpr fun x _ => Or.inl rfl

theorem eq_of_forall₂_variant {l t : List Char} (h : List.Forall₂ SigmaVariant l t)
    (ht : 'σ' ∉ t ∧ 'ς' ∉ t) : l = t := by
  induction h with
  | nil => rfl
  | cons hab _ ih =>
    simp only [List.mem_cons, not_or] at ht
    obtain ⟨⟨hb1, ht1⟩, hb2, ht2⟩ := ht
    rcases hab with rfl | ⟨-, hb⟩
    · rw [ih ⟨ht1, ht2⟩]
    · simp only [List.mem_cons, List.not_mem_nil, or_false] at hb
      rcases hb with rfl | rfl
      · exact absurd rfl hb1
      · exact absurd rfl hb2

theorem suffix_iff_of_variant {xs ys s : List Char} (h : List.Forall₂ SigmaVariant xs ys)
    (hs : 'σ' ∉ s ∧ 'ς' ∉ s) : s <:+ xs ↔ s <:+ ys := by
  have hdrop := List.forall₂_drop (xs.length - s.length) h
  rw [h.length_eq] at hdrop
  rw [List.suffix_iff_eq_drop, List.suffix_iff_eq_drop, h.length_eq]
  constructor
  · intro hx
    rw [← hx] at hdrop
    have hflip : List.Forall₂ SigmaVariant (ys.drop (ys.length - s.length)) s :=
      List.Forall₂.flip (hdrop.imp fun _ _ hab => hab.symm)
    exact (eq_of_forall₂_variant hflip hs).symm
  · intro hy
    rw [← hy] at hdrop
    exact (eq_of_forall₂_variant hdrop hs).symm

end FeatureDocs.Text

namespace FeatureDocs.Tree

open FeatureDocs.Store FeatureDocs.Data FeatureDocs.Render FeatureDocs.Feature FeatureDocs.Markup
  FeatureDocs.Text

/-! ## The kind of a flat name -/

theorem hasSuffix_iff {n s : String} (hs : 'σ' ∉ s.toList ∧ 'ς' ∉ s.toList) :
    hasSuffix n s = true ↔ s.toList <:+ n.toList.flatMap lowerPlain := by
  rw [hasSuffix, List.isSuffixOf_iff_suffix, lower, String.toList_ofList]
  exact suffix_iff_of_variant (lowerFrom_variant _ []) hs

theorem isMarkdownFile_append {a f : String} (hf : isMarkdownFile f = true) :
    isMarkdownFile (a ++ f) = true := by
  have hs : 'σ' ∉ ".md".toList ∧ 'ς' ∉ ".md".toList := by decide
  rw [isMarkdownFile, hasSuffix_iff hs] at hf ⊢
  rw [String.toList_append, List.flatMap_append]
  exact hf.trans (List.suffix_append _ _)

theorem not_isMarkdownFile_append_of_lower {a m : String}
    (hlow : m.toList.flatMap lowerPlain = m.toList) (hlen : 3 ≤ m.toList.length)
    (hm : ¬ ".md".toList <:+ m.toList) : isMarkdownFile (a ++ m) = false := by
  have hs : 'σ' ∉ ".md".toList ∧ 'ς' ∉ ".md".toList := by decide
  rw [Bool.eq_false_iff, ne_eq, isMarkdownFile, hasSuffix_iff hs, String.toList_append,
    List.flatMap_append, hlow]
  -- the marker is longer than the suffix, so the suffix would end the marker
  exact fun h => hm (List.suffix_of_suffix_length_le h (List.suffix_append _ _) hlen)

theorem not_isMarkdownFile_append {a m : String} (hm : m ∈ ["-file", "-toc", outputExtension]) :
    isMarkdownFile (a ++ m) = false := by
  simp only [List.mem_cons, List.not_mem_nil, or_false] at hm
  rcases hm with rfl | rfl | rfl <;>
    exact not_isMarkdownFile_append_of_lower (by decide +kernel) (by decide) (by decide)

/-! ## The names on both sides -/

/-- The name under which a build writes a file of a directory that it lists and does not
inline: the page of a feature, or the copy of any other file. -/
def outputName (pathList : List String) (name : String) : String :=
  flatName (pathList ++ [name]) none false (if isFeatureFile name then some outputExtension else none)

/-- Where a table of contents is written: under the chosen name for the root, under its flat
name otherwise. -/
def tocTarget (cfg : BuildSettings) (pathList : List String) (isRoot : Bool) : Path :=
  if isRoot then cfg.outputDir.push (cfg.tocName ++ outputExtension)
  else cfg.outputDir.push (flatName pathList none true (some outputExtension))

/-- The toctree entry of a listed file; Markdown keeps its extension. -/
def fileEntry (pathList : List String) (file : String) : String :=
  flatName pathList (some file) false (if isMarkdownFile file then none else some "")

/-- The toctree entry of a subdirectory. -/
def subEntry (pathList : List String) (sub : String) : String :=
  flatName pathList (some sub) true (some "")

/-- The toctree entries of the given files and subdirectories, in the order given: the files
that are not inlined, then the subdirectories. -/
def toctreeEntries (pathList subdirs files : List String) : List String :=
  (files.filter fun f => !isRstFile f).map (fileEntry pathList) ++ subdirs.map (subEntry pathList)

/-- The toctree block that ends a table of contents: the directive, its depth and one line per
entry. -/
def toctree (maxDepth : Nat) (entries : List String) : List String :=
  [Document.fragment ".. toctree::" 1 0,
    Document.fragment (":maxdepth: " ++ toString maxDepth) 2 indentDepth] ++
    entries.map fun e => Document.fragment e 1 indentDepth

/-- The file a toctree entry refers to: a Markdown entry names its file, the others leave out
the extension of generated documents. -/
def entryFile (e : String) : String := if isMarkdownFile e then e else e ++ outputExtension

theorem flatName_leaf (pathList : List String) (leaf : String) (isDir : Bool) (ext : Option String) :
    flatName pathList (some leaf) isDir ext = flatName (pathList ++ [leaf]) none isDir ext := by
  simp [flatName]

theorem flatName_concat_none (pathList : List String) (leaf : String) :
    ∃ pre, flatName (pathList ++ [leaf]) none false none = pre ++ leaf := by
  rcases List.eq_nil_or_concat pathList with rfl | ⟨p, n, rfl⟩
  · exact ⟨"", by simp [flatName, String.intercalate_singleton]⟩
  · refine ⟨".".intercalate (p.concat n) ++ ".", ?_⟩
    simp only [flatName, Option.toList, List.append_nil]
    rw [String.intercalate_append_of_ne_nil (by simp) (by simp), String.intercalate_singleton]

/-- The entry of a listed source file that is not inlined refers to the file written for it. -/
theorem entryFile_fileEntry {pathList : List String} {f : String} (hsrc : isSourceFile f = true)
    (hrst : isRstFile f = false) : entryFile (fileEntry pathList f) = outputName pathList f := by
  by_cases hmd : isMarkdownFile f = true
  · -- a Markdown file is no feature, and its entry is its copy's name
    have hfeat : isFeatureFile f = false := by
      have := copied_iff_isMarkdownFile hsrc
      rw [hmd, hrst] at this
      simpa using this
    obtain ⟨pre, hpre⟩ := flatName_concat_none pathList f
    have hentry : fileEntry pathList f = flatName (pathList ++ [f]) none false none := by
      simp [fileEntry, hmd, flatName_leaf]
    rw [entryFile, hentry, hpre, if_pos (isMarkdownFile_append hmd), ← hpre]
    simp [outputName, hfeat]
  · -- the other listed source files are features, whose entries are their pages' names
    have hfeat : isFeatureFile f = true := by
      have := copied_iff_isMarkdownFile hsrc
      rw [hrst] at this
      simpa [hmd] using this
    rw [Bool.not_eq_true] at hmd
    have hentry : fileEntry pathList f = flatName (pathList ++ [f]) none false none ++ "-file" := by
      simp [fileEntry, hmd, flatName]
    rw [entryFile, hentry, if_neg (by rw [not_isMarkdownFile_append (by simp)]; decide),
      outputName, if_pos hfeat]
    simp [flatName, String.append_assoc]

theorem entryFile_subEntry (pathList : List String) (sub : String) :
    entryFile (subEntry pathList sub) = flatName (pathList ++ [sub]) none true (some outputExtension) := by
  have hentry : subEntry pathList sub = flatName (pathList ++ [sub]) none false none ++ "-toc" := by
    simp [subEntry, flatName]
  rw [entryFile, hentry, if_neg (by rw [not_isMarkdownFile_append (by simp)]; decide)]
  simp [flatName, String.append_assoc]

/-! ## The toctree of a table of contents -/

/-- A table of contents ends in its toctree: the files that are not inlined, then the
subdirectories, each group in name order. -/
theorem TocBuilder.build_fragments {t : TocBuilder} {v : Volume} {pathList subdirs files : List String}
    {doc : Document} (h : t.build v pathList subdirs files = .ok doc) :
    ∃ head, doc.fragments = head ++
      toctree t.maxTocDepth (toctreeEntries pathList (sortNames subdirs) (sortNames files)) := by
  unfold TocBuilder.build at h
  simp only [bind_eq_ok] at h
  obtain ⟨⟨doc₁, inlined⟩, -, h⟩ := h
  -- whichever heading the table gets, the toctree is added after it
  have tail : ∀ d : Document, ∃ head, ((sortNames subdirs).foldl
      (fun d sub => d.addOutput (flatName pathList (some sub) true (some "")) 1 indentDepth)
      (((sortNames files).filter fun f => !isRstFile f).foldl
        (fun d file => d.addOutput
          (flatName pathList (some file) false
            (if isMarkdownFile file = true then none else some "")) 1 indentDepth)
        ((d.add ".. toctree::").addOutput (":maxdepth: " ++ toString t.maxTocDepth) 2
          indentDepth))).fragments =
      head ++ toctree t.maxTocDepth
        (toctreeEntries pathList (sortNames subdirs) (sortNames files)) := by
    intro d
    refine ⟨d.fragments, ?_⟩
    rw [Document.fragments_foldl_addOutput, Document.fragments_foldl_addOutput]
    simp [toctree, toctreeEntries, fileEntry, subEntry, Document.add, Document.addOutput,
      Function.comp_def]
  split at h
  · cases h
    exact tail _
  · split at h
    · cases h
      exact tail _
    · cases h

theorem sortNames_of_pairwise {names : List String}
    (h : names.Pairwise fun a b => compareText a b = .lt) : sortNames names = names :=
  List.mergeSort_of_pairwise (h.imp fun hab => by simp [hab])

/-! ## Reading the log -/

/-- The path a line of the log writes to: a document's path or a copy's target. -/
def LogEntry.target? : LogEntry → Option Path
  | .write p _ _ => some p
  | .copy _ t => some t
  | .skip _ => none

/-- The source of a skipped feature. -/
def LogEntry.skipped? : LogEntry → Option Path
  | .skip p => some p
  | _ => none

/-- What handling the files `names` of a directory logs, given the ones it lists: only features
are left out, each of them logged as skipped, and each listed file that is not inlined is
written or copied under its output name. -/
structure FilesLog (cfg : BuildSettings) (dir : DirEntry) (names listed : List String)
    (a : List LogEntry) : Prop where
  sublist : List.Sublist listed names
  feature : ∀ f ∈ names, f ∉ listed → isFeatureFile f = true
  skips : a.filterMap LogEntry.skipped? = (names.filter fun f => f ∉ listed).map dir.absolutePath.push
  targets : a.filterMap LogEntry.target? =
    (listed.filter fun f => !isRstFile f).map fun f => cfg.outputDir.push (outputName dir.pathList f)

namespace FilesLog

variable {cfg : BuildSettings} {dir : DirEntry}

theorem nil : FilesLog cfg dir [] [] [] := ⟨List.Sublist.slnil, by simp, rfl, rfl⟩

/-- The logs of two groups of files with no name in common make the log of both. -/
theorem append {ns₁ ns₂ l₁ l₂ : List String} {a₁ a₂ : List LogEntry}
    (h₁ : FilesLog cfg dir ns₁ l₁ a₁) (h₂ : FilesLog cfg dir ns₂ l₂ a₂)
    (hdis : ∀ f ∈ ns₁, f ∉ ns₂) : FilesLog cfg dir (ns₁ ++ ns₂) (l₁ ++ l₂) (a₁ ++ a₂) where
  sublist := h₁.sublist.append h₂.sublist
  feature f hf hl := by
    rcases List.mem_append.mp hf with hf | hf
    · exact h₁.feature f hf fun h => hl (List.mem_append_left _ h)
    · exact h₂.feature f hf fun h => hl (List.mem_append_right _ h)
  skips := by
    -- a name of one group is listed, if at all, among that group's files
    have hleft : (ns₁.filter fun f => f ∉ l₁ ++ l₂) = ns₁.filter fun f => f ∉ l₁ :=
      List.filter_congr fun f hf => by
        have : f ∉ l₂ := fun h => hdis f hf (h₂.sublist.subset h)
        simp [this]
    have hright : (ns₂.filter fun f => f ∉ l₁ ++ l₂) = ns₂.filter fun f => f ∉ l₂ :=
      List.filter_congr fun f hf => by
        have : f ∉ l₁ := fun h => hdis f (h₁.sublist.subset h) hf
        simp [this]
    rw [List.filterMap_append, h₁.skips, h₂.skips, List.filter_append, hleft, hright, List.map_append]
  targets := by rw [List.filterMap_append, h₁.targets, h₂.targets, List.filter_append, List.map_append]

end FilesLog

/-- What handling a kept directory logs, given the files it lists: its files, then its table of
contents, written where tables of contents go and ending in the toctree of the listed files and
the given subdirectories. -/
def DirLog (cfg : BuildSettings) (maxDepth : Nat) (dir : DirEntry) (subs : List String)
    (isRoot : Bool) (listed : List String) (seg : List LogEntry) : Prop :=
  ∃ a doc o head, seg = a ++ [.write (tocTarget cfg dir.pathList isRoot) doc o] ∧
    FilesLog cfg dir dir.files listed a ∧
    doc.fragments = head ++ toctree maxDepth (toctreeEntries dir.pathList (sortNames subs) (sortNames listed))

theorem DirLog.targets {cfg : BuildSettings} {maxDepth : Nat} {dir : DirEntry} {subs : List String}
    {isRoot : Bool} {listed : List String} {seg : List LogEntry}
    (h : DirLog cfg maxDepth dir subs isRoot listed seg) :
    (if isRoot then seg.dropLast else seg).filterMap LogEntry.target? =
      ((listed.filter fun f => !isRstFile f).map fun f => cfg.outputDir.push (outputName dir.pathList f)) ++
        if isRoot then [] else [tocTarget cfg dir.pathList false] := by
  obtain ⟨a, doc, o, head, rfl, ha, -⟩ := h
  cases isRoot
  · simp [ha.targets, LogEntry.target?]
  · simp [ha.targets]

/-! ## The log of a build -/

namespace Job

variable {cfg : BuildSettings} {page : PageSettings} {parser : FeatureParser}

theorem log_write {j j' : Job} {doc : Document} {p : Path} (h : write cfg j doc p = .ok j') :
    ∃ o, j'.log = j.log ++ [.write p doc o] := by
  cases write_eq_ok.mp h <;> exact ⟨_, rfl⟩

theorem log_copy {j j' : Job} {src dst : Path} (h : copy cfg j src dst = .ok j') :
    j'.log = j.log ++ [.copy src dst] := by
  cases copy_eq_ok.mp h <;> rfl

section Directory

variable {dir : DirEntry}

/-- One file is logged as written, copied or skipped after its kind, and listed unless
skipped. -/
theorem log_file {j j' : Job} {name : String} {keep : Bool}
    (h : file cfg page parser dir j name = .ok (j', keep)) :
    ∃ b, j'.log = j.log ++ b ∧ FilesLog cfg dir [name] (if keep then [name] else []) b := by
  have hrst : isFeatureFile name = true → isRstFile name = false :=
    hasSuffix_exclusive (by decide) (by decide)
  cases file_eq_ok.mp h with
  | skipped hf =>
    exact ⟨[.skip (dir.absolutePath.push name)], rfl,
      ⟨by simp, by simp [hf], by simp [LogEntry.skipped?], by simp [LogEntry.target?]⟩⟩
  | rendered hf _ _ hw =>
    obtain ⟨o, ho⟩ := log_write hw
    refine ⟨_, ho, ⟨by simp, by simp, by simp [LogEntry.skipped?], ?_⟩⟩
    simp [LogEntry.target?, hrst hf, outputName, hf]
  | prose hf hr =>
    -- prose in reStructuredText is listed and inlined, not written
    exact ⟨[], by simp, ⟨by simp, by simp, by simp, by simp [hr]⟩⟩
  | copied hf hr hc =>
    have hlog : _ = j.log ++ _ := log_copy hc
    refine ⟨_, hlog, ⟨by simp, by simp, by simp [LogEntry.skipped?], ?_⟩⟩
    simp [LogEntry.target?, hr, outputName, hf]

/-- A fold whose every step handles one file handles them all, when no file comes twice. -/
theorem log_foldlM_files (cfg : BuildSettings) (dir : DirEntry)
    {F : Job × List String → String → Except Halted (Job × List String)}
    (hF : ∀ x name y, F x name = .ok y → ∃ (keep : Bool) (b : List LogEntry),
      y.2 = x.2 ++ (if keep then [name] else []) ∧ y.1.log = x.1.log ++ b ∧
        FilesLog cfg dir [name] (if keep then [name] else []) b)
    (names : List String) (hnd : names.Nodup) : ∀ x y, names.foldlM F x = .ok y →
      ∃ listed a, y.2 = x.2 ++ listed ∧ y.1.log = x.1.log ++ a ∧ FilesLog cfg dir names listed a := by
  induction names with
  | nil =>
    intro x y h
    cases h
    exact ⟨[], [], by simp, by simp, FilesLog.nil⟩
  | cons name names ih =>
    intro x y h
    rw [List.foldlM_cons, bind_eq_ok] at h
    obtain ⟨z, hz, h⟩ := h
    obtain ⟨hname, hnd⟩ := List.nodup_cons.mp hnd
    obtain ⟨keep, b, hz₂, hz₁, hb⟩ := hF x name z hz
    obtain ⟨listed, a, hy₂, hy₁, ha⟩ := ih hnd z y h
    refine ⟨(if keep then [name] else []) ++ listed, b ++ a, by rw [hy₂, hz₂, List.append_assoc],
      by rw [hy₁, hz₁, List.append_assoc], ?_⟩
    exact hb.append ha fun f hf => by rw [List.mem_singleton.mp hf]; exact hname

theorem log_files {j j' : Job} {listed : List String} (hnd : dir.files.Nodup)
    (h : files cfg page parser dir j = .ok (j', listed)) :
    ∃ a, j'.log = j.log ++ a ∧ FilesLog cfg dir dir.files listed a := by
  rw [files_eq] at h
  refine (log_foldlM_files cfg dir (fun x name y hy => ?_) dir.files hnd
    (j, []) (j', listed) h).elim ?_
  · obtain ⟨keep, hfile, hy⟩ := fileStep_eq_ok.mp hy
    obtain ⟨b, hb, hlog⟩ := log_file hfile
    exact ⟨keep, b, by cases keep <;> simp [hy], hb, hlog⟩
  · rintro listed' ⟨a, hl, hlog, ha⟩
    simp only [List.nil_append] at hl
    exact ⟨a, hlog, hl ▸ ha⟩

theorem log_document {toc : TocBuilder} {j j' : Job} {subs : List String} {isRoot : Bool}
    (hnd : dir.files.Nodup) (h : document cfg page parser toc j dir subs isRoot = .ok j') :
    ∃ listed seg, j'.log = j.log ++ seg ∧ DirLog cfg toc.maxTocDepth dir subs isRoot listed seg := by
  obtain ⟨j₁, listed, doc, j₂, hfiles, hdoc, hw, rfl⟩ := document_eq_ok.mp h
  obtain ⟨a, ha, hlog⟩ := log_files hnd hfiles
  obtain ⟨o, ho⟩ := log_write hw
  obtain ⟨head, hhead⟩ := TocBuilder.build_fragments hdoc
  refine ⟨listed, a ++ [.write (tocTarget cfg dir.pathList isRoot) doc o], ?_,
    a, doc, o, head, rfl, hlog, hhead⟩
  calc _ = j₁.log ++ [.write (tocTarget cfg dir.pathList isRoot) doc o] := ho
    _ = j.log ++ a ++ [.write (tocTarget cfg dir.pathList isRoot) doc o] :=
        congrArg (· ++ [.write (tocTarget cfg dir.pathList isRoot) doc o]) ha
    _ = _ := List.append_assoc _ _ _

end Directory

/-- Kept directories handled in turn, none twice, log one piece each. -/
theorem log_documents {toc : TocBuilder} {subs : DirEntry → List String} (P : List (DirEntry × Bool))
    (hnd : (P.map Prod.fst).Nodup) (hfiles : ∀ x ∈ P, x.1.files.Nodup) : ∀ j j' : Job,
    P.foldlM (fun j x => document cfg page parser toc j x.1 (subs x.1) x.2) j = .ok j' →
    ∃ (listed : DirEntry → List String) (seg : DirEntry → List LogEntry),
      j'.log = j.log ++ P.flatMap (fun x => seg x.1) ∧
      ∀ x ∈ P, DirLog cfg toc.maxTocDepth x.1 (subs x.1) x.2 (listed x.1) (seg x.1) := by
  induction P with
  | nil =>
    intro j j' h
    cases h
    exact ⟨fun _ => [], fun _ => [], by simp, by simp⟩
  | cons x P ih =>
    intro j j' h
    rw [List.foldlM_cons, bind_eq_ok] at h
    obtain ⟨j₁, h₁, h⟩ := h
    rw [List.map_cons, List.nodup_cons] at hnd
    obtain ⟨listed₀, seg₀, hlog₀, hdir₀⟩ := log_document (hfiles x List.mem_cons_self) h₁
    obtain ⟨listed, seg, hlog, hdir⟩ :=
      ih hnd.2 (fun y hy => hfiles y (List.mem_cons_of_mem x hy)) j₁ j' h
    -- the other directories of the plan keep their pieces
    have hother : ∀ y ∈ P, y.1 ≠ x.1 := fun y hy e => hnd.1 (e ▸ List.mem_map_of_mem hy)
    refine ⟨fun E => if E = x.1 then listed₀ else listed E,
      fun E => if E = x.1 then seg₀ else seg E, ?_, ?_⟩
    · have hrest : (P.flatMap fun y => if y.1 = x.1 then seg₀ else seg y.1) =
          P.flatMap fun y => seg y.1 :=
        List.flatMap_congr fun y hy => if_neg (hother y hy)
      simp [hlog, hlog₀, hrest]
    · intro y hy
      rcases List.mem_cons.mp hy with rfl | hy
      · simpa using hdir₀
      · simpa [hother y hy] using hdir y hy

theorem log_finish {j j' : Job} {name : Option String} {doc : Option Document} {o : Outcome}
    (h : finish cfg j name doc = .ok (j', o)) :
    ∃ b, j'.log = j.log ++ b ∧
      ∀ a ∈ b, ∃ n, name = some n ∧ a.target? = some (cfg.outputDir.push (n ++ outputExtension)) := by
  cases finish_eq_ok.mp h with
  | written _ hw =>
    obtain ⟨o, ho⟩ := log_write hw
    exact ⟨_, ho, by simp [LogEntry.target?]⟩
  | _ => exact ⟨[], by simp, by simp⟩

end Job

/-- A build logs its loop over the directories, then the glossary and the tag list. -/
theorem log_buildJob {cfg : BuildSettings} {page : PageSettings} {parser : FeatureParser} {W : WorkList}
    {v : Volume} {j : Job} (h : buildJob cfg page parser W v = .ok j) :
    ∃ v₁ j₁ fin, Job.directories cfg page parser ⟨W.rootPath, cfg.maxTocDepth, cfg.style⟩
        { volume := v₁ } W.entries = .ok j₁ ∧ j.log = j₁.log ++ fin ∧
      ∀ a ∈ fin, ∃ n, (cfg.glossaryName = some n ∨ cfg.tagListName = some n) ∧
        a.target? = some (cfg.outputDir.push (n ++ outputExtension)) := by
  obtain ⟨v₁, j₁, j₂, g, j₃, t, -, hj, hg, ht, rfl⟩ := buildJob_eq_ok.mp h
  obtain ⟨b₁, hb₁, hfin₁⟩ := Job.log_finish hg
  obtain ⟨b₂, hb₂, hfin₂⟩ := Job.log_finish ht
  refine ⟨v₁, j₁, b₁ ++ b₂, hj, ?_, fun a ha => ?_⟩
  · calc _ = j₂.log ++ b₂ := hb₂
      _ = j₁.log ++ b₁ ++ b₂ := congrArg (· ++ b₂) hb₁
      _ = j₁.log ++ (b₁ ++ b₂) := List.append_assoc _ _ _
  rcases List.mem_append.mp ha with ha | ha
  · obtain ⟨n, hn, hp⟩ := hfin₁ a ha
    exact ⟨n, .inl hn, hp⟩
  · obtain ⟨n, hn, hp⟩ := hfin₂ a ha
    exact ⟨n, .inr hn, hp⟩

/-! ## Entries and written files over a whole work list -/

theorem scan_names_sorted (s : Scanner) {v : Volume} (hv : v.IsTree) {root : Path} {names : Location}
    (hnames : Path.absoluteNames v.cwd root = .ok names) (hdir : v.isDir (Location.path names) = true)
    {W : WorkList} (hscan : s.scan v root = .ok W) :
    ∀ E ∈ W.entries, E.subDirectories.Pairwise (fun a b => compareText a b = .lt) ∧
      E.files.Pairwise (fun a b => compareText a b = .lt) := by
  obtain ⟨L, hmem, -, -⟩ := Scanner.scan_entries s hv hnames hdir hscan
  intro E hE
  obtain ⟨p, -, rfl⟩ := (hmem E).mp hE
  exact Scanner.record_pairwise hv p

theorem nodup_of_pairwise_lt {names : List String}
    (h : names.Pairwise fun a b => compareText a b = .lt) : names.Nodup :=
  h.imp fun hab e => by
    rw [compareText_eq_eq_iff.mpr e] at hab
    cases hab

namespace WorkList

variable {W : WorkList} {rootName : String} (hW : W.WellFormed rootName)
include hW

theorem WellFormed.nodup_tocPlan : (W.tocPlan.map Prod.fst).Nodup := by
  have hnd : W.entries.reverse.Nodup := List.nodup_reverse.mpr (hW.nodup.of_map _)
  rw [← map_fst_fromTheEnd] at hnd
  exact hnd.sublist (List.filter_sublist.map _)

/-- The kept entries below the root are exactly the kept subdirectories of kept entries. -/
theorem WellFormed.kept_child_iff (pl : List String) :
    (∃ x ∈ W.tocPlan, x.2 = false ∧ x.1.pathList = pl) ↔
      ∃ x ∈ W.tocPlan, ∃ sub ∈ W.keptSubs x.1, x.1.pathList ++ [sub] = pl := by
  constructor
  · rintro ⟨⟨E, b⟩, hx, rfl, rfl⟩
    obtain ⟨hE, hk, hb⟩ := hW.mem_tocPlan.mp hx
    obtain ⟨q, hq⟩ := hW.rooted E hE
    -- below the root, the path list splits off a last name, whose parent is kept
    rcases List.eq_nil_or_concat q with rfl | ⟨q', sub, rfl⟩
    · exact absurd (hb.mpr hq) (by simp)
    have hsplit : E.pathList = (rootName :: q') ++ [sub] := by simp [hq]
    obtain ⟨E₀, hE₀, hpath₀, hsub⟩ := hW.parent E hE _ sub hsplit (by simp)
    have hk₀ : W.Kept E₀ := by
      obtain ⟨E', hE', hpre, hfiles⟩ := hk
      exact ⟨E', hE', (hpath₀ ▸ hsplit ▸ List.prefix_append _ _).trans hpre, hfiles⟩
    refine ⟨(E₀, decide (E₀.pathList = [rootName])), hW.mem_tocPlan.mpr ⟨hE₀, hk₀, by simp⟩,
      sub, List.mem_filter.mpr ⟨hsub, decide_eq_true ⟨E, hE, by rw [hpath₀, hsplit], hk⟩⟩, ?_⟩
    rw [hpath₀, hsplit]
  · rintro ⟨⟨E, b⟩, hx, sub, hsub, rfl⟩
    obtain ⟨hE, -, -⟩ := hW.mem_tocPlan.mp hx
    obtain ⟨-, hsub⟩ := List.mem_filter.mp hsub
    obtain ⟨E', hE', hpath, hk'⟩ := of_decide_eq_true hsub
    obtain ⟨q, hq⟩ := hW.rooted E hE
    -- the subdirectory's path list is longer than the root's
    have hne : E'.pathList ≠ [rootName] := by
      intro h
      have := congrArg List.length (hpath.symm.trans h)
      simp [hq] at this
    exact ⟨(E', false), hW.mem_tocPlan.mpr ⟨hE', hk', by simp [hne]⟩, rfl, hpath⟩

/-- Over the whole plan, the files named by the toctree entries are the listed files that are
not inlined and the tables of contents below the root. -/
theorem WellFormed.links_iff (cfg : BuildSettings) {listed : DirEntry → List String}
    (hsrc : ∀ x ∈ W.tocPlan, ∀ f ∈ listed x.1, isSourceFile f = true) (p : Path) :
    (∃ x ∈ W.tocPlan, p ∈ ((listed x.1).filter fun f => !isRstFile f).map
        (fun f => cfg.outputDir.push (outputName x.1.pathList f)) ++
        (if x.2 then [] else [tocTarget cfg x.1.pathList false])) ↔
      ∃ x ∈ W.tocPlan, ∃ e ∈ toctreeEntries x.1.pathList (W.keptSubs x.1) (listed x.1),
        p = cfg.outputDir.push (entryFile e) := by
  constructor
  · rintro ⟨x, hx, hp⟩
    rcases List.mem_append.mp hp with hp | hp
    · -- a written file is named by the entry of its directory
      obtain ⟨f, hf, rfl⟩ := List.mem_map.mp hp
      obtain ⟨hfl, hr⟩ := List.mem_filter.mp hf
      refine ⟨x, hx, fileEntry x.1.pathList f, List.mem_append_left _ (List.mem_map_of_mem hf), ?_⟩
      rw [entryFile_fileEntry (hsrc x hx f hfl) (by simpa using hr)]
    · -- a table of contents below the root is named by the entry of its parent
      obtain ⟨E, b⟩ := x
      cases b
      · obtain rfl : p = tocTarget cfg E.pathList false := List.mem_singleton.mp hp
        obtain ⟨x₀, hx₀, sub, hsub, hpl⟩ := (hW.kept_child_iff E.pathList).mp ⟨_, hx, rfl, rfl⟩
        refine ⟨x₀, hx₀, subEntry x₀.1.pathList sub,
          List.mem_append_right _ (List.mem_map_of_mem hsub), ?_⟩
        rw [entryFile_subEntry, hpl]
        rfl
      · simp at hp
  · -- the path is the one an entry names; rewriting with it is far cheaper than substituting it
    rintro ⟨x, hx, e, he, hpe⟩
    rw [hpe]
    rcases List.mem_append.mp he with he | he
    · obtain ⟨f, hf, rfl⟩ := List.mem_map.mp he
      obtain ⟨hfl, hr⟩ := List.mem_filter.mp hf
      refine ⟨x, hx, List.mem_append_left _ (List.mem_map.mpr ⟨f, hf, ?_⟩)⟩
      rw [entryFile_fileEntry (hsrc x hx f hfl) (by simpa using hr)]
    · obtain ⟨sub, hsub, rfl⟩ := List.mem_map.mp he
      obtain ⟨x', hx', hb, hpl⟩ := (hW.kept_child_iff _).mpr ⟨x, hx, sub, hsub, rfl⟩
      refine ⟨x', hx', List.mem_append_right _ ?_⟩
      rw [hb, entryFile_subEntry, ← hpl]
      exact List.mem_singleton.mpr rfl

end WorkList

/-! ## The tables of contents of a build -/

/-- How the log of a build of the work list `W` is made, given the files each kept directory
lists (`listed`), the piece of the log for each kept directory (`seg`) and the writes of the
glossary and the tag list at the end (`fin`). -/
structure TocsMatchWrites (cfg : BuildSettings) (W : WorkList) (log : List LogEntry)
    (listed : DirEntry → List String) (seg : DirEntry → List LogEntry) (fin : List LogEntry) :
    Prop where
  /-- One piece per kept directory, in the order of the plan, then the glossary and tag list. -/
  pieces : log = W.tocPlan.flatMap (fun x => seg x.1) ++ fin
  finish : ∀ a ∈ fin, ∃ n, (cfg.glossaryName = some n ∨ cfg.tagListName = some n) ∧
    a.target? = some (cfg.outputDir.push (n ++ outputExtension))
  /-- The listed files and the kept subdirectories are each in name order. -/
  sorted : ∀ x ∈ W.tocPlan, (listed x.1).Pairwise (fun a b => compareText a b = .lt) ∧
    (W.keptSubs x.1).Pairwise (fun a b => compareText a b = .lt)
  /-- A kept directory logs its files, skipping only features, then writes its table of
  contents, whose toctree lists the listed files that are not inlined and then the kept
  subdirectories. -/
  directory : ∀ x ∈ W.tocPlan, ∃ a doc o head,
    seg x.1 = a ++ [.write (tocTarget cfg x.1.pathList x.2) doc o] ∧
    FilesLog cfg x.1 x.1.files (listed x.1) a ∧
    doc.fragments = head ++ toctree cfg.maxTocDepth
      (toctreeEntries x.1.pathList (W.keptSubs x.1) (listed x.1))
  /-- The files the entries name are the files the build writes before the glossary and tag
  list, but the root's table of contents. -/
  links : ∀ p, p ∈ (W.tocPlan.flatMap fun x => if x.2 then (seg x.1).dropLast else seg x.1).filterMap
      LogEntry.target? ↔
    ∃ x ∈ W.tocPlan, ∃ e ∈ toctreeEntries x.1.pathList (W.keptSubs x.1) (listed x.1),
      p = cfg.outputDir.push (entryFile e)

/-- **The tables of contents of a build list exactly what it writes.** On the work list of a
scan of a directory tree, the log of a build that succeeds, dry or not, is one piece per kept
directory, children before parents, then the glossary and the tag list. The table of contents of
a kept directory lists, in name order, the entries of the files it did not skip, a feature's
entry being its page's name without `.rst` and a Markdown file's the name of its copy, then, in
name order, the entries of its kept subdirectories, each the name of the subdirectory's table of
contents without `.rst`. A skipped feature is listed nowhere. Across the build, the files these
entries name (`.rst` added to the non-Markdown ones) are exactly the pages, copies and tables of
contents it writes, but the root's table of contents. -/
theorem toc_entries_match_written_files (s : Scanner) {v : Volume} (hv : v.IsTree) {root : Path}
    {names : Location} (hnames : Path.absoluteNames v.cwd root = .ok names)
    (hdir : v.isDir (Location.path names) = true) {W : WorkList} (hscan : s.scan v root = .ok W) :
    ∀ (cfg : BuildSettings) (page : PageSettings) (parser : FeatureParser) (v₀ : Volume) (j : Job),
      buildJob cfg page parser W v₀ = .ok j →
      ∃ listed seg fin, TocsMatchWrites cfg W j.log listed seg fin := by
  intro cfg page parser v₀ j hbuild
  have hW := scan_wellFormed s hv hnames hdir hscan
  have hsorted := scan_names_sorted s hv hnames hdir hscan
  obtain ⟨v₁, j₁, fin, hloop, hlog, hfin⟩ := log_buildJob hbuild
  rw [directories_eq_plan cfg page parser _ hW rfl] at hloop
  obtain ⟨listed, seg, hlog₁, hdirs⟩ := Job.log_documents W.tocPlan hW.nodup_tocPlan
    (fun x hx => nodup_of_pairwise_lt (hsorted x.1 (hW.mem_tocPlan.mp hx).1).2) _ _ hloop
  -- the listed files and the kept subdirectories come in the order of the scan
  have hordered : ∀ x ∈ W.tocPlan, (listed x.1).Pairwise (fun a b => compareText a b = .lt) ∧
      (W.keptSubs x.1).Pairwise (fun a b => compareText a b = .lt) := by
    intro x hx
    obtain ⟨a, doc, o, head, -, ha, -⟩ := hdirs x hx
    have hs := hsorted x.1 (hW.mem_tocPlan.mp hx).1
    exact ⟨hs.2.sublist ha.sublist, hs.1.sublist List.filter_sublist⟩
  refine ⟨listed, seg, fin, ⟨by rw [hlog, hlog₁, List.nil_append], hfin, hordered, ?_, ?_⟩⟩
  · intro x hx
    obtain ⟨a, doc, o, head, hseg, ha, hdoc⟩ := hdirs x hx
    rw [sortNames_of_pairwise (hordered x hx).2, sortNames_of_pairwise (hordered x hx).1] at hdoc
    exact ⟨a, doc, o, head, hseg, ha, hdoc⟩
  · intro p
    have hsrc : ∀ x ∈ W.tocPlan, ∀ f ∈ listed x.1, isSourceFile f = true := by
      intro x hx f hf
      obtain ⟨a, doc, o, head, -, ha, -⟩ := hdirs x hx
      exact hW.source x.1 (hW.mem_tocPlan.mp hx).1 f (ha.sublist.subset hf)
    rw [← hW.links_iff cfg hsrc p, List.filterMap_flatMap, List.mem_flatMap]
    exact exists_congr fun x => and_congr_right fun hx => by rw [(hdirs x hx).targets]

/-- A root holding a feature file and a subdirectory meets every condition of the theorem. -/
theorem toc_entries_match_written_files_docs :
    let v : Volume :=
      { entries := [(["docs"], .dir), (["docs", "a.feature"], .file ""), (["docs", "sub"], .dir)] }
    let s : Scanner := {}
    v.IsTree ∧ Path.absoluteNames v.cwd ⟨"/docs"⟩ = .ok ["docs"] ∧
      v.isDir (Location.path ["docs"]) = true ∧
      ∃ W : WorkList, s.scan v ⟨"/docs"⟩ = .ok W ∧
      ∀ (cfg : BuildSettings) (page : PageSettings) (parser : FeatureParser) (v₀ : Volume) (j : Job),
        buildJob cfg page parser W v₀ = .ok j →
        ∃ listed seg fin, TocsMatchWrites cfg W j.log listed seg fin := by
  intro v s
  have hv : v.IsTree := by decide
  have hnames : Path.absoluteNames v.cwd ⟨"/docs"⟩ = .ok ["docs"] := rfl
  have hdir : v.isDir (Location.path ["docs"]) = true :=
    Volume.isDir_path_of_dirs (by decide) (by decide)
  obtain ⟨-, W, hscan, -⟩ := Scanner.scan_spec s hv hnames hdir
  exact ⟨hv, hnames, hdir, W, hscan, toc_entries_match_written_files s hv hnames hdir hscan⟩

end FeatureDocs.Tree
