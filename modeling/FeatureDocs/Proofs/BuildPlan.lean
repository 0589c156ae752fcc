import Mathlib.Data.List.Induction
import FeatureDocs.Proofs.BuildSteps
import FeatureDocs.Proofs.ScanOrder

/-!
# Which directories a build documents

A build takes the directories of a scan from the end and gives a table of contents to every
directory that has files or a subdirectory that got one. This module states that choice on the
work list alone: an entry is kept exactly when it or an entry below it lists a file
(`WorkList.Kept`), and the build writes the tables of contents of `WorkList.tocPlan`, children
before parents, each listing its kept subdirectories, the root last and alone under the chosen
name. The counts of a successful build follow from what each step adds to them (`Tally`).

* `Tally`, `tally_document`: what handling one directory adds to the counts;
* `WorkList.WellFormed`, `scan_wellFormed`: what a build relies on in a scan's work list;
* `directories_eq_plan`: the loop over the directories is the loop over the plan;
* `kept_directories`, `tally_build_plan`: the paths the loop keeps, and the counts of a build;
* **`build_documents_kept_directories`**: which tables of contents a build writes, and its counts.
-/

namespace FeatureDocs.Tree

open FeatureDocs.Store FeatureDocs.Data FeatureDocs.Render FeatureDocs.Feature FeatureDocs.Markup

/-! ## What each step adds to the counts -/

/-- What a build has done so far: the directories it kept, and its counts of tables of
contents, of features read (rendered or skipped) and of files copied. -/
structure Tally where
  kept : List Path
  tocs : Nat
  features : Nat
  copied : Nat

/-- The tally after the given files: each feature is read, each other file but prose in
reStructuredText is copied. -/
def Tally.add (t : Tally) (names : List String) : Tally :=
  { t with
    features := t.features + names.countP isFeatureFile
    copied := t.copied + names.countP fun n => !isFeatureFile n && !isRstFile n }

theorem Tally.add_append (t : Tally) (a b : List String) : (t.add a).add b = t.add (a ++ b) := by
  simp only [add, List.countP_append, Nat.add_assoc]

namespace Job

/-- The tally of a job. -/
def tally (j : Job) : Tally :=
  ⟨j.kept, j.report.tocs, j.report.featuresRendered + j.report.featuresSkipped,
    j.report.filesCopied⟩

variable (cfg : BuildSettings)

theorem tally_write {j j' : Job} {doc : Document} {p : Path} (h : write cfg j doc p = .ok j') :
    j'.tally = j.tally := by
  cases write_eq_ok.mp h <;> rfl

theorem tally_copy {j j' : Job} {src dst : Path} (h : copy cfg j src dst = .ok j') :
    j'.tally = j.tally := by
  cases copy_eq_ok.mp h <;> rfl

variable {cfg} {page : PageSettings} {parser : FeatureParser} {dir : DirEntry}

theorem tally_file {j j' : Job} {name : String} {keep : Bool}
    (h : file cfg page parser dir j name = .ok (j', keep)) : j'.tally = j.tally.add [name] := by
  cases file_eq_ok.mp h with
  | skipped hf => simp [tally, Tally.add, hf, Nat.add_assoc]
  | rendered hf _ _ hw =>
    have hw' := tally_write cfg hw
    simp only [tally, Tally.mk.injEq] at hw'
    simp [tally, Tally.add, hf, hw', Nat.add_right_comm]
  | prose hf hr => simp [tally, Tally.add, hf, hr]
  | copied hf hr hc =>
    have hc' := tally_copy cfg hc
    simp only [tally, Tally.mk.injEq] at hc'
    simp [tally, Tally.add, hf, hr, hc']

theorem tally_foldlM {α : Type} {F : Job × α → String → Except Halted (Job × α)}
    (hF : ∀ x name y, F x name = .ok y → y.1.tally = x.1.tally.add [name])
    (names : List String) : ∀ (x y : Job × α), names.foldlM F x = .ok y →
      y.1.tally = x.1.tally.add names := by
  induction names with
  | nil =>
    intro x y h
    cases h
    simp [Tally.add]
  | cons name names ih =>
    intro x y h
    rw [List.foldlM_cons, bind_eq_ok] at h
    obtain ⟨z, hz, h⟩ := h
    rw [ih z y h, hF x name z hz, Tally.add_append, List.singleton_append]

theorem tally_files {j j' : Job} {listed : List String}
    (h : files cfg page parser dir j = .ok (j', listed)) : j'.tally = j.tally.add dir.files := by
  rw [files_eq] at h
  refine tally_foldlM (fun x name y hy => ?_) dir.files (j, []) (j', listed) h
  obtain ⟨keep, hfile, -⟩ := fileStep_eq_ok.mp hy
  exact tally_file hfile

/-- A kept directory adds its table of contents, its path among the kept ones and its files. -/
theorem tally_document {toc : TocBuilder} {j j' : Job} {subs : List String} {isRoot : Bool}
    (h : document cfg page parser toc j dir subs isRoot = .ok j') :
    j'.tally = { j.tally.add dir.files with
      kept := dir.absolutePath :: j.kept, tocs := j.tally.tocs + 1 } := by
  obtain ⟨j₁, listed, doc, j₂, hfiles, -, hw, rfl⟩ := document_eq_ok.mp h
  have h₁ := tally_files hfiles
  have h₂ := tally_write cfg hw
  simp only [tally, Tally.add, Tally.mk.injEq] at h₁ h₂ ⊢
  obtain ⟨hk₁, ht₁, hf₁, hc₁⟩ := h₁
  obtain ⟨hk₂, ht₂, hf₂, hc₂⟩ := h₂
  exact ⟨hk₂.trans hk₁, by omega, by omega, by omega⟩

/-- Tables of contents written in turn are each counted, their directories kept, and all their
files handled. -/
theorem tally_documents {toc : TocBuilder} {subs : DirEntry → List String}
    (P : List (DirEntry × Bool)) : ∀ (j j' : Job),
      P.foldlM (fun j x => document cfg page parser toc j x.1 (subs x.1) x.2) j = .ok j' →
        j'.tally = { j.tally.add (P.flatMap fun x => x.1.files) with
          kept := (P.map fun x => x.1.absolutePath).reverse ++ j.kept,
          tocs := j.tally.tocs + P.length } := by
  induction P with
  | nil =>
    intro j j' h
    cases h
    simp [Tally.add, tally]
  | cons x P ih =>
    intro j j' h
    rw [List.foldlM_cons, bind_eq_ok] at h
    obtain ⟨j₁, h₁, h⟩ := h
    have step := tally_document h₁
    rw [ih j₁ j' h]
    simp only [tally, Tally.add, Tally.mk.injEq] at step ⊢
    obtain ⟨hk, ht, hf, hc⟩ := step
    simp only [hk, List.map_cons, List.reverse_cons, List.append_assoc, List.singleton_append,
      List.length_cons, List.flatMap_cons, List.countP_append]
    exact ⟨trivial, by omega, by omega, by omega⟩

theorem tally_finish {j j' : Job} {name : Option String} {doc : Option Document} {o : Outcome}
    (h : finish cfg j name doc = .ok (j', o)) : j'.tally = j.tally := by
  cases finish_eq_ok.mp h with
  | written _ hw => exact tally_write cfg hw
  | _ => rfl

end Job

theorem tally_build {cfg : BuildSettings} {page : PageSettings} {parser : FeatureParser}
    {W : WorkList} {v v' : Volume} {r : BuildReport} (h : build cfg page parser W v = .ok (r, v')) :
    ∃ v₁ j, Job.directories cfg page parser ⟨W.rootPath, cfg.maxTocDepth, cfg.style⟩
        { volume := v₁ } W.entries = .ok j ∧
      r.tocs = j.tally.tocs ∧ r.featuresRendered + r.featuresSkipped = j.tally.features ∧
        r.filesCopied = j.tally.copied := by
  obtain ⟨jf, hjf, hr⟩ := map_eq_ok.mp h
  obtain ⟨rfl, rfl⟩ := Prod.mk.inj hr
  obtain ⟨v₁, j, j₁, g, j₂, t, -, hj, hg, ht, rfl⟩ := buildJob_eq_ok.mp hjf
  have hg' := Job.tally_finish hg
  have ht' := Job.tally_finish ht
  simp only [Job.tally, Tally.mk.injEq] at hg' ht'
  refine ⟨v₁, j, hj, ?_, ?_, ?_⟩ <;> simp only [Job.tally] <;> omega

/-! ## Kinds of listed files -/

theorem hasSuffix_exclusive {n a b : String} (hab : ¬ a.toList <:+ b.toList)
    (hba : ¬ b.toList <:+ a.toList) (ha : hasSuffix n a = true) : hasSuffix n b = false := by
  rw [hasSuffix, List.isSuffixOf_iff_suffix] at ha
  rw [Bool.eq_false_iff, ne_eq, hasSuffix, List.isSuffixOf_iff_suffix]
  intro hb
  rcases List.suffix_or_suffix_of_suffix ha hb with h | h
  · exact hab h
  · exact hba h

theorem copied_iff_isMarkdownFile {n : String} (h : isSourceFile n = true) :
    (!isFeatureFile n && !isRstFile n) = isMarkdownFile n := by
  have hfeature : isMarkdownFile n = true → isFeatureFile n = false :=
    hasSuffix_exclusive (by decide) (by decide)
  have hrst : isMarkdownFile n = true → isRstFile n = false :=
    hasSuffix_exclusive (by decide) (by decide)
  unfold isSourceFile at h
  cases hm : isMarkdownFile n
  · -- a source file that is not Markdown is a feature or prose in reStructuredText
    simp only [hm, Bool.or_false, Bool.or_eq_true] at h
    rcases h with h | h <;> simp [h]
  · simp [hfeature hm, hrst hm]

/-! ## What a build relies on in a work list -/

/-- The facts about a work list that a build relies on; a scan of a directory tree establishes
them all (`scan_wellFormed`). -/
structure WorkList.WellFormed (W : WorkList) (rootName : String) : Prop where
  /-- Path lists increase strictly, so an entry comes before the entries below it. -/
  sorted : W.entries.Pairwise fun a b => Data.compareLex compareText a.pathList b.pathList = .lt
  rooted : ∀ E ∈ W.entries, ∃ p, E.pathList = rootName :: p
  /-- The path a build forms for a subdirectory names the entry one name further down. -/
  child_iff : ∀ E ∈ W.entries, ∀ E' ∈ W.entries, ∀ sub ∈ E.subDirectories,
    E'.absolutePath.sameAs (E.absolutePath.push sub) = true ↔ E'.pathList = E.pathList ++ [sub]
  /-- An entry below the root has an entry for its parent, which lists it. -/
  parent : ∀ E ∈ W.entries, ∀ pl sub, E.pathList = pl ++ [sub] → pl ≠ [] →
    ∃ E₀ ∈ W.entries, E₀.pathList = pl ∧ sub ∈ E₀.subDirectories
  root : W.entries ≠ [] → ∃ E ∈ W.entries, E.pathList = [rootName]
  source : ∀ E ∈ W.entries, ∀ n ∈ E.files, isSourceFile n = true

section Scanned

variable (s : Scanner) {v : Volume} (hv : v.IsTree) {root : Path} {names : Location}
  (hnames : Path.absoluteNames v.cwd root = .ok names)
  (hdir : v.isDir (Location.path names) = true)
include hv hnames hdir

/-- A scan of a directory tree gives a work list a build can rely on. -/
theorem scan_wellFormed {W : WorkList} (hscan : s.scan v root = .ok W) :
    W.WellFormed (names.getLast?.getD "") := by
  obtain ⟨L, hmem, hsorted, hat⟩ := Scanner.scan_entries s hv hnames hdir hscan
  refine ⟨hsorted, ?_, ?_, ?_, ?_, ?_⟩
  · intro E hE
    obtain ⟨p, -, rfl⟩ := (hmem E).mp hE
    exact ⟨p, rfl⟩
  · intro E hE E' hE' sub hsub
    obtain ⟨p, hp, rfl⟩ := (hmem E).mp hE
    obtain ⟨p', hp', rfl⟩ := (hmem E').mp hE'
    have hn := ((Scanner.mem_record_subDirectories hv (hat p hp)).mp hsub).1
    refine (sameAs_push_path_iff (hat p hp).valid (hat p' hp').valid hn).trans ?_
    simp [Scanner.record]
  · intro E hE pl sub hpl hne
    obtain ⟨p', hp', rfl⟩ := (hmem E).mp hE
    rcases List.eq_nil_or_concat p' with rfl | ⟨p, n, rfl⟩
    · -- the root's parent is not in the work list
      have hlen := congrArg List.length hpl
      simp only [Scanner.record, List.length_singleton, List.length_append] at hlen
      exact absurd (List.length_eq_zero_iff.mp (by omega)) hne
    · rw [List.concat_eq_append] at hp' hpl
      have hsplit : (names.getLast?.getD "" :: p) ++ [n] = pl ++ [sub] := by
        simpa [Scanner.record] using hpl
      obtain ⟨rfl, hsub⟩ := List.append_inj' hsplit rfl
      obtain rfl : n = sub := List.singleton_inj.mp hsub
      obtain ⟨hp, hd⟩ := hp'.of_concat
      exact ⟨_, (hmem _).mpr ⟨p, hp, rfl⟩, rfl,
        (Scanner.mem_record_subDirectories hv (hat p hp)).mpr (by simpa using hd)⟩
  · intro hne
    obtain ⟨E, hE⟩ := List.exists_mem_of_ne_nil _ hne
    obtain ⟨p, hp, -⟩ := (hmem E).mp hE
    exact ⟨_, (hmem _).mpr ⟨[], .here hp.entered, rfl⟩, rfl⟩
  · intro E hE n hn
    obtain ⟨p, hp, rfl⟩ := (hmem E).mp hE
    exact ((Scanner.mem_record_files hv (hat p hp)).mp hn).2.2.2.1

end Scanned

/-! ## Handling the directories from the end -/

theorem fromTheEnd_nil : fromTheEnd [] = [] := rfl

theorem fromTheEnd_cons (a : DirEntry) (rest : List DirEntry) :
    fromTheEnd (a :: rest) = rest.reverse.map (·, false) ++ [(a, true)] := by
  simp only [fromTheEnd, List.reverse_cons, List.zipIdx_append, List.map_append, List.length_append]
  congr 1
  · calc _ = rest.reverse.zipIdx.map fun x => (x.1, false) := List.map_congr_left fun x hx => by
            have := List.snd_lt_of_mem_zipIdx hx
            simp only [List.length_singleton, Prod.mk.injEq, true_and, beq_eq_false_iff_ne, ne_eq]
            omega
      _ = _ := by
            conv => rhs; rw [← List.zipIdx_map_fst 0 rest.reverse]
            rw [List.map_map]
            rfl
  · simp

theorem map_fst_fromTheEnd (l : List DirEntry) : (fromTheEnd l).map Prod.fst = l.reverse := by
  simp [fromTheEnd, List.map_map, Function.comp_def]

/-! ## The plan of a build -/

namespace WorkList

variable (W : WorkList)

/-- An entry is kept when it, or an entry below it, lists a file. -/
def Kept (E : DirEntry) : Prop :=
  ∃ E' ∈ W.entries, E.pathList <+: E'.pathList ∧ E'.files ≠ []

instance (E : DirEntry) : Decidable (W.Kept E) :=
  inferInstanceAs (Decidable (∃ E' ∈ W.entries, E.pathList <+: E'.pathList ∧ E'.files ≠ []))

/-- The subdirectories of an entry whose own entries are kept. -/
def keptSubs (E : DirEntry) : List String :=
  E.subDirectories.filter fun sub =>
    decide (∃ E' ∈ W.entries, E'.pathList = E.pathList ++ [sub] ∧ W.Kept E')

/-- The tables of contents a build writes, in order: the kept entries from the end of the work
list, each with whether it is the first entry of the list. -/
def tocPlan : List (DirEntry × Bool) :=
  (fromTheEnd W.entries).filter fun x => decide (W.Kept x.1)

variable {W} {rootName : String} (hW : W.WellFormed rootName)
include hW

theorem WellFormed.nodup : (W.entries.map DirEntry.pathList).Nodup :=
  nodup_map_of_pairwise_lt hW.sorted

theorem WellFormed.eq_of_pathList_eq {E E' : DirEntry} (hE : E ∈ W.entries)
    (hE' : E' ∈ W.entries) (h : E.pathList = E'.pathList) : E = E' :=
  List.inj_on_of_nodup_map hW.nodup hE hE' h

theorem WellFormed.exists_of_prefix {E' : DirEntry} (hE' : E' ∈ W.entries) {pl : List String}
    (hpl : pl <+: E'.pathList) (hne : pl ≠ []) : ∃ E ∈ W.entries, E.pathList = pl := by
  obtain ⟨t, ht⟩ := hpl
  induction t using List.reverseRecOn generalizing E' with
  | nil => exact ⟨E', hE', by simpa using ht.symm⟩
  | append_singleton t x ih =>
    -- climb to the parent of `E'`
    have hsplit : E'.pathList = (pl ++ t) ++ [x] := by rw [← ht, List.append_assoc]
    obtain ⟨E₀, hE₀, hpath, -⟩ := hW.parent E' hE' (pl ++ t) x hsplit (by simp [hne])
    exact ih hE₀ hpath.symm

theorem WellFormed.mem_of_below {done rest : List DirEntry} {E E' : DirEntry}
    (hsplit : W.entries.reverse = done ++ E :: rest) (hE' : E' ∈ W.entries)
    (hpre : E.pathList <+: E'.pathList) (hne : E' ≠ E) : E' ∈ done := by
  have hentries : W.entries = rest.reverse ++ E :: done.reverse := by
    rw [← List.reverse_reverse W.entries, hsplit]
    simp
  have hsorted := hW.sorted
  rw [hentries, List.pairwise_append] at hsorted
  rw [hentries] at hE'
  rcases List.mem_append.mp hE' with h | h
  · -- an entry listed before `E` would come before it in the order of path lists
    obtain ⟨t, ht⟩ := hpre
    have hlt := hsorted.2.2 E' h E List.mem_cons_self
    rw [← ht] at hlt
    exact absurd hlt (compareLex_append_ne_lt _ _)
  · rcases List.mem_cons.mp h with rfl | h
    · exact absurd rfl hne
    · exact List.mem_reverse.mp h

/-- An entry is kept exactly when it lists a file or one of its subdirectories is kept. -/
theorem WellFormed.kept_iff {E : DirEntry} (hE : E ∈ W.entries) :
    W.Kept E ↔ E.files ≠ [] ∨ W.keptSubs E ≠ [] := by
  constructor
  · rintro ⟨E', hE', ⟨t, ht⟩, hfiles⟩
    cases t with
    | nil =>
      rw [List.append_nil] at ht
      exact .inl (hW.eq_of_pathList_eq hE hE' ht ▸ hfiles)
    | cons sub t =>
      -- the entry one name below `E` on the way to `E'` is kept, and `E` lists it
      right
      obtain ⟨p, hp⟩ := hW.rooted E hE
      have hpre : E.pathList ++ [sub] <+: E'.pathList :=
        ⟨t, by rw [← ht, List.append_assoc, List.singleton_append]⟩
      obtain ⟨Es, hEs, hpath⟩ := hW.exists_of_prefix hE' hpre (by simp)
      obtain ⟨E₀, hE₀, hpath₀, hsub⟩ := hW.parent Es hEs E.pathList sub hpath (by simp [hp])
      obtain rfl := hW.eq_of_pathList_eq hE₀ hE hpath₀
      refine List.ne_nil_of_mem (a := sub) (List.mem_filter.mpr ⟨hsub, decide_eq_true ?_⟩)
      exact ⟨Es, hEs, hpath, E', hE', ⟨t, by rw [hpath, ← ht, List.append_assoc,
        List.singleton_append]⟩, hfiles⟩
  · rintro (hfiles | hsubs)
    · exact ⟨E, hE, List.prefix_refl _, hfiles⟩
    · obtain ⟨sub, hsub⟩ := List.exists_mem_of_ne_nil _ hsubs
      obtain ⟨-, hsub⟩ := List.mem_filter.mp hsub
      obtain ⟨Es, -, hpath, E', hE', hpre, hfiles⟩ := of_decide_eq_true hsub
      exact ⟨E', hE', (List.prefix_append _ _).trans (hpath ▸ hpre), hfiles⟩

theorem WellFormed.head_pathList {a : DirEntry} {rest : List DirEntry}
    (h : W.entries = a :: rest) : a.pathList = [rootName] := by
  obtain ⟨E₀, hE₀, hroot⟩ := hW.root (by simp [h])
  rw [h] at hE₀
  rcases List.mem_cons.mp hE₀ with rfl | hE₀
  · exact hroot
  · -- the root's path list is a prefix of every other, so no entry comes before it
    have hsorted := hW.sorted
    rw [h, List.pairwise_cons] at hsorted
    have hlt := hsorted.1 E₀ hE₀
    obtain ⟨p, hp⟩ := hW.rooted a (by simp [h])
    rw [hroot, hp] at hlt
    exact absurd hlt (compareLex_append_ne_lt [rootName] p)

/-- A table of contents is planned for each kept entry, and only the root's carries the flag. -/
theorem WellFormed.mem_tocPlan {E : DirEntry} {b : Bool} :
    (E, b) ∈ W.tocPlan ↔ E ∈ W.entries ∧ W.Kept E ∧ (b = true ↔ E.pathList = [rootName]) := by
  rcases h : W.entries with _ | ⟨a, rest⟩
  · simp [tocPlan, h, fromTheEnd_nil]
  · have ha := hW.head_pathList h
    -- every other entry comes after the root in the order of path lists
    have hrest : ∀ E ∈ rest, E.pathList ≠ [rootName] := by
      intro E hE heq
      have hsorted := hW.sorted
      rw [h, List.pairwise_cons] at hsorted
      have hlt := hsorted.1 E hE
      have hrefl : Data.compareLex compareText [rootName] [rootName] = .eq :=
        Std.ReflCmp.compare_self
      rw [ha, heq, hrefl] at hlt
      cases hlt
    simp only [tocPlan, h, fromTheEnd_cons, List.filter_append, List.mem_append, List.mem_filter,
      List.mem_map, List.mem_reverse, Prod.mk.injEq, decide_eq_true_eq, List.mem_cons,
      List.not_mem_nil, or_false]
    constructor
    · rintro (⟨⟨E', hE', rfl, rfl⟩, hk⟩ | ⟨⟨rfl, rfl⟩, hk⟩)
      · exact ⟨.inr hE', hk, by simp [hrest E' hE']⟩
      · exact ⟨.inl rfl, hk, by simp [ha]⟩
    · rintro ⟨rfl | hE, hk, hb⟩
      · exact .inr ⟨⟨rfl, hb.mpr ha⟩, hk⟩
      · refine .inl ⟨⟨E, hE, rfl, ?_⟩, hk⟩
        cases b
        · rfl
        · exact absurd (hb.mp rfl) (hrest E hE)

theorem WellFormed.tocPlan_pairwise :
    W.tocPlan.Pairwise fun x y => ¬ x.1.pathList <+: y.1.pathList := by
  have hrev : W.entries.reverse.Pairwise
      fun a b => Data.compareLex compareText b.pathList a.pathList = .lt :=
    List.pairwise_reverse.mpr hW.sorted
  rw [← map_fst_fromTheEnd, List.pairwise_map] at hrev
  refine (hrev.sublist List.filter_sublist).imp fun {x y} hlt ⟨t, ht⟩ => ?_
  rw [← ht] at hlt
  exact compareLex_append_ne_lt _ _ hlt

omit hW in
theorem getLast_tocPlan {E : DirEntry} (h : (E, true) ∈ W.tocPlan) :
    W.tocPlan.getLast? = some (E, true) := by
  rcases hentries : W.entries with _ | ⟨a, rest⟩
  · simp [tocPlan, hentries, fromTheEnd_nil] at h
  · simp only [tocPlan, hentries, fromTheEnd_cons, List.filter_append, List.mem_append,
      List.mem_filter, List.mem_map, Prod.mk.injEq, List.mem_singleton, decide_eq_true_eq] at h ⊢
    rcases h with ⟨⟨_, _, _, hb⟩, _⟩ | ⟨⟨rfl, -⟩, hk⟩
    · cases hb
    · simp [hk]

omit hW in
theorem length_tocPlan : W.tocPlan.length = W.entries.countP fun E => decide (W.Kept E) := by
  rw [tocPlan, ← List.countP_eq_length_filter]
  calc _ = ((fromTheEnd W.entries).map Prod.fst).countP (fun E => decide (W.Kept E)) := by
        rw [List.countP_map]
        rfl
    _ = _ := by rw [map_fst_fromTheEnd, List.countP_reverse]

omit hW in
/-- Planning leaves out only entries without files, so the plan handles every listed file. -/
theorem countP_tocPlan_files (q : String → Bool) :
    (W.tocPlan.flatMap fun x => x.1.files).countP q = (W.entries.flatMap DirEntry.files).countP q := by
  have hdrop : ∀ (l : List (DirEntry × Bool)), (∀ x ∈ l, x.1 ∈ W.entries) →
      (l.filter fun x => decide (W.Kept x.1)).flatMap (fun x => x.1.files) =
        l.flatMap fun x => x.1.files := by
    intro l hl
    induction l with
    | nil => rfl
    | cons x l ih =>
      have ih := ih fun y hy => hl y (List.mem_cons_of_mem x hy)
      by_cases hk : W.Kept x.1
      · simp [hk, ih]
      · -- an entry that is not kept lists no file
        have hfiles : x.1.files = [] := by
          by_contra hne
          exact hk ⟨x.1, hl x List.mem_cons_self, List.prefix_refl _, hne⟩
        simp [hk, ih, hfiles]
  have hmem : ∀ x ∈ fromTheEnd W.entries, x.1 ∈ W.entries := by
    intro x hx
    rw [← List.mem_reverse, ← map_fst_fromTheEnd]
    exact List.mem_map_of_mem hx
  rw [tocPlan, hdrop _ hmem, ← List.flatMap_map Prod.fst, map_fst_fromTheEnd]
  exact ((List.reverse_perm _).flatMap_right _).countP_eq q

/-- Handling entries from the end, the subdirectories of an entry found among the kept paths of
the entries already handled are its kept subdirectories. -/
theorem WellFormed.subdirsAmong_eq_keptSubs {done rest : List DirEntry} {E : DirEntry}
    {kept : List Path} (hsplit : W.entries.reverse = done ++ E :: rest)
    (hkept : ∀ p, p ∈ kept ↔ ∃ E' ∈ done, W.Kept E' ∧ E'.absolutePath = p) :
    Job.subdirsAmong kept E = W.keptSubs E := by
  have hmem : ∀ {E'}, E' ∈ done → E' ∈ W.entries := fun h => by
    rw [← List.mem_reverse, hsplit]
    exact List.mem_append_left _ h
  have hE : E ∈ W.entries := by
    rw [← List.mem_reverse, hsplit]
    simp
  refine List.filter_congr fun sub hsub => ?_
  rw [Bool.eq_iff_iff, List.any_eq_true, decide_eq_true_iff]
  constructor
  · rintro ⟨p, hp, hsame⟩
    obtain ⟨E', hE', hk, rfl⟩ := (hkept p).mp hp
    exact ⟨E', hmem hE', (hW.child_iff E hE E' (hmem hE') sub hsub).mp hsame, hk⟩
  · -- a kept child comes after `E` in the work list, so it was handled before `E`
    rintro ⟨E', hE', hpath, hk⟩
    have hne : E' ≠ E := by
      rintro rfl
      simpa using congrArg List.length hpath
    have hdone := hW.mem_of_below hsplit hE' ⟨[sub], hpath.symm⟩ hne
    exact ⟨E'.absolutePath, (hkept _).mpr ⟨E', hdone, hk, rfl⟩,
      (hW.child_iff E hE E' hE' sub hsub).mpr hpath⟩

omit hW in
/-- Recording the path of one more entry exactly when it is kept keeps the recorded paths those
of the kept entries handled. -/
theorem keptPaths_concat {done : List DirEntry} {kept : List Path} (E : DirEntry)
    (hkept : ∀ p, p ∈ kept ↔ ∃ E' ∈ done, W.Kept E' ∧ E'.absolutePath = p) (p : Path) :
    p ∈ (if W.Kept E then E.absolutePath :: kept else kept) ↔
      ∃ E' ∈ done ++ [E], W.Kept E' ∧ E'.absolutePath = p := by
  simp only [List.mem_append, List.mem_singleton]
  by_cases hk : W.Kept E
  · rw [if_pos hk, List.mem_cons, hkept]
    constructor
    · rintro (rfl | ⟨E', hE', hk', rfl⟩)
      · exact ⟨E, .inr rfl, hk, rfl⟩
      · exact ⟨E', .inl hE', hk', rfl⟩
    · rintro ⟨E', hE' | rfl, hk', rfl⟩
      · exact .inr ⟨E', hE', hk', rfl⟩
      · exact .inl rfl
  · rw [if_neg hk, hkept]
    constructor
    · rintro ⟨E', hE', hk', rfl⟩
      exact ⟨E', .inl hE', hk', rfl⟩
    · rintro ⟨E', hE' | rfl, hk', rfl⟩
      · exact ⟨E', hE', hk', rfl⟩
      · exact absurd hk' hk

end WorkList

/-! ## The loop over the directories -/

section Loop

variable (cfg : BuildSettings) (page : PageSettings) (parser : FeatureParser) (toc : TocBuilder)
  {W : WorkList} {rootName : String} (hW : W.WellFormed rootName)
include hW

/-- Handling directories from the end, with the kept ones among those already handled recorded,
is writing the tables of contents of the kept ones among them. -/
theorem foldlM_directory_eq (P : List (DirEntry × Bool)) : ∀ (done : List DirEntry) (j : Job),
    done ++ P.map Prod.fst = W.entries.reverse →
    (∀ p, p ∈ j.kept ↔ ∃ E ∈ done, W.Kept E ∧ E.absolutePath = p) →
    P.foldlM (fun j x => Job.directory cfg page parser toc j x.1 x.2) j =
      (P.filter fun x => decide (W.Kept x.1)).foldlM
        (fun j x => Job.document cfg page parser toc j x.1 (W.keptSubs x.1) x.2) j := by
  induction P with
  | nil =>
    intros
    rfl
  | cons x P ih =>
    obtain ⟨E, b⟩ := x
    intro done j hsplit hkept
    simp only [List.map_cons] at hsplit
    have hE : E ∈ W.entries := by
      rw [← List.mem_reverse, ← hsplit]
      simp
    have hsplit' : (done ++ [E]) ++ P.map Prod.fst = W.entries.reverse := by
      simpa using hsplit
    have hnext := WorkList.keptPaths_concat E hkept
    simp only [List.foldlM_cons, List.filter_cons, Job.directory_eq,
      hW.subdirsAmong_eq_keptSubs hsplit.symm hkept]
    by_cases hk : W.Kept E
    · have hdoc : (E.files.isEmpty && (W.keptSubs E).isEmpty) = false := by
        simpa [List.isEmpty_iff, or_iff_not_imp_left] using (hW.kept_iff hE).mp hk
      simp only [hk, decide_true, if_true, hdoc, Bool.false_eq_true, if_false, List.foldlM_cons]
      refine bind_congr_ok fun j' hj' => ih _ _ hsplit' fun p => ?_
      have hkept' : j'.kept = E.absolutePath :: j.kept := by
        simpa [Job.tally] using congrArg Tally.kept (Job.tally_document hj')
      rw [hkept', ← hnext p, if_pos hk]
    · have hskip : (E.files.isEmpty && (W.keptSubs E).isEmpty) = true := by
        simpa [List.isEmpty_iff] using mt (hW.kept_iff hE).mpr hk
      simp only [hk, decide_false, Bool.false_eq_true, if_false, hskip, if_true]
      exact ih _ _ hsplit' fun p => by rw [← hnext p, if_neg hk]

theorem directories_eq_plan {j₀ : Job} (hj₀ : j₀.kept = []) :
    Job.directories cfg page parser toc j₀ W.entries =
      W.tocPlan.foldlM (fun j x => Job.document cfg page parser toc j x.1 (W.keptSubs x.1) x.2) j₀ :=
  foldlM_directory_eq cfg page parser toc hW (fromTheEnd W.entries) [] j₀
    (by simp [map_fst_fromTheEnd]) (by simp [hj₀])

/-- The loop of a build ends having kept the paths of the kept entries. -/
theorem kept_directories {j₀ j : Job} (hj₀ : j₀.kept = [])
    (hj : Job.directories cfg page parser toc j₀ W.entries = .ok j) (p : Path) :
    p ∈ j.kept ↔ ∃ E ∈ W.entries, W.Kept E ∧ E.absolutePath = p := by
  rw [directories_eq_plan cfg page parser toc hW hj₀] at hj
  have hk : j.kept = (W.tocPlan.map fun x => x.1.absolutePath).reverse ++ j₀.kept := by
    simpa [Job.tally] using congrArg Tally.kept (Job.tally_documents W.tocPlan j₀ j hj)
  rw [hk, hj₀, List.append_nil, List.mem_reverse, List.mem_map]
  constructor
  · rintro ⟨⟨E, b⟩, hx, rfl⟩
    obtain ⟨hE, hkept, -⟩ := hW.mem_tocPlan.mp hx
    exact ⟨E, hE, hkept, rfl⟩
  · rintro ⟨E, hE, hkept, rfl⟩
    exact ⟨(E, decide (E.pathList = [rootName])), hW.mem_tocPlan.mpr ⟨hE, hkept, by simp⟩, rfl⟩

omit toc in
/-- A build that succeeds counts the planned tables of contents, reads every listed feature and
copies every listed Markdown file. -/
theorem tally_build_plan {v₀ v' : Volume} {r : BuildReport}
    (h : build cfg page parser W v₀ = .ok (r, v')) :
    r.tocs = W.entries.countP (fun E => decide (W.Kept E)) ∧
      r.featuresRendered + r.featuresSkipped =
        (W.entries.flatMap DirEntry.files).countP isFeatureFile ∧
      r.filesCopied = (W.entries.flatMap DirEntry.files).countP isMarkdownFile := by
  obtain ⟨v₁, j, hj, htocs, hfeatures, hcopied⟩ := tally_build h
  rw [directories_eq_plan cfg page parser _ hW rfl] at hj
  have ht := Job.tally_documents W.tocPlan _ j hj
  rw [ht] at htocs hfeatures hcopied
  simp only [Job.tally, Tally.add] at htocs hfeatures hcopied
  refine ⟨by rw [htocs, WorkList.length_tocPlan]; simp, ?_, ?_⟩
  · rw [hfeatures, WorkList.countP_tocPlan_files]
    simp
  · -- a listed file is copied exactly when it is Markdown
    rw [hcopied, WorkList.countP_tocPlan_files]
    simp only [Nat.zero_add]
    refine List.countP_congr fun n hn => ?_
    obtain ⟨E, hE, hn⟩ := List.mem_flatMap.mp hn
    rw [copied_iff_isMarkdownFile (hW.source E hE n hn)]

end Loop

/-! ## Which tables of contents a build writes -/

/-- **A build documents exactly the directories that hold files.** On the work list of a scan
of a directory tree, the loop of a build writes the tables of contents of `WorkList.tocPlan`:
those of the entries that list a file themselves or below them, from the end of the list, so
that children come before their parents and the root, flagged to be written under the chosen
name, comes last. Each lists the subdirectories that got one, and the loop ends having kept the
paths of those entries. A build that succeeds counts these tables of contents, reads every
listed feature and copies every listed Markdown file. -/
theorem build_documents_kept_directories (s : Scanner) {v : Volume} (hv : v.IsTree) {root : Path}
    {names : Location} (hnames : Path.absoluteNames v.cwd root = .ok names)
    (hdir : v.isDir (Location.path names) = true) {W : WorkList} (hscan : s.scan v root = .ok W)
    (cfg : BuildSettings) (page : PageSettings) (parser : FeatureParser) :
    (∀ (toc : TocBuilder) (j₀ : Job), j₀.kept = [] →
      Job.directories cfg page parser toc j₀ W.entries =
          W.tocPlan.foldlM
            (fun j x => Job.document cfg page parser toc j x.1 (W.keptSubs x.1) x.2) j₀ ∧
        ∀ j, Job.directories cfg page parser toc j₀ W.entries = .ok j →
          ∀ p, p ∈ j.kept ↔ ∃ E ∈ W.entries, W.Kept E ∧ E.absolutePath = p) ∧
    (∀ E isRoot, (E, isRoot) ∈ W.tocPlan ↔
      E ∈ W.entries ∧ W.Kept E ∧ (isRoot = true ↔ E.pathList = [names.getLast?.getD ""])) ∧
    W.tocPlan.Pairwise (fun x y => ¬ x.1.pathList <+: y.1.pathList) ∧
    (∀ E, (E, true) ∈ W.tocPlan → W.tocPlan.getLast? = some (E, true)) ∧
    ∀ v₀ r v', build cfg page parser W v₀ = .ok (r, v') →
      r.tocs = W.entries.countP (fun E => decide (W.Kept E)) ∧
      r.featuresRendered + r.featuresSkipped =
        (W.entries.flatMap DirEntry.files).countP isFeatureFile ∧
      r.filesCopied = (W.entries.flatMap DirEntry.files).countP isMarkdownFile := by
  have hW := scan_wellFormed s hv hnames hdir hscan
  exact ⟨fun toc j₀ hj₀ => ⟨directories_eq_plan cfg page parser toc hW hj₀,
      fun j hj => kept_directories cfg page parser toc hW hj₀ hj⟩,
    fun E b => hW.mem_tocPlan, hW.tocPlan_pairwise, fun E h => WorkList.getLast_tocPlan h,
    fun v₀ r v' h => tally_build_plan cfg page parser hW h⟩

/-- A root holding a feature file and a subdirectory meets every condition of the build. -/
theorem build_documents_kept_directories_docs :
    let v : Volume :=
      { entries := [(["docs"], .dir), (["docs", "a.feature"], .file ""), (["docs", "sub"], .dir)] }
    let s : Scanner := {}
    let cfg : BuildSettings := ⟨⟨"/out"⟩, "index", 2, "Docs", none, false, none, none, true⟩
    let page : PageSettings := { rootPath := ⟨"/"⟩ }
    v.IsTree ∧ Path.absoluteNames v.cwd ⟨"/docs"⟩ = .ok ["docs"] ∧
      v.isDir (Location.path ["docs"]) = true ∧
      ∃ W : WorkList, s.scan v ⟨"/docs"⟩ = .ok W ∧
      (∀ (toc : TocBuilder) (j₀ : Job), j₀.kept = [] →
        Job.directories cfg page Dialect.gherkin.parser toc j₀ W.entries =
            W.tocPlan.foldlM
              (fun j x => Job.document cfg page Dialect.gherkin.parser toc j x.1 (W.keptSubs x.1) x.2) j₀ ∧
          ∀ j, Job.directories cfg page Dialect.gherkin.parser toc j₀ W.entries = .ok j →
            ∀ p, p ∈ j.kept ↔ ∃ E ∈ W.entries, W.Kept E ∧ E.absolutePath = p) ∧
      (∀ E isRoot, (E, isRoot) ∈ W.tocPlan ↔
        E ∈ W.entries ∧ W.Kept E ∧ (isRoot = true ↔ E.pathList = [["docs"].getLast?.getD ""])) ∧
      W.tocPlan.Pairwise (fun x y => ¬ x.1.pathList <+: y.1.pathList) ∧
      (∀ E, (E, true) ∈ W.tocPlan → W.tocPlan.getLast? = some (E, true)) ∧
      ∀ v₀ r v', build cfg page Dialect.gherkin.parser W v₀ = .ok (r, v') →
        r.tocs = W.entries.countP (fun E => decide (W.Kept E)) ∧
        r.featuresRendered + r.featuresSkipped =
          (W.entries.flatMap DirEntry.files).countP isFeatureFile ∧
        r.filesCopied = (W.entries.flatMap DirEntry.files).countP isMarkdownFile := by
  intro v s cfg page
  have hv : v.IsTree := by decide
  have hnames : Path.absoluteNames v.cwd ⟨"/docs"⟩ = .ok ["docs"] := rfl
  have hdir : v.isDir (Location.path ["docs"]) = true :=
    Volume.isDir_path_of_dirs (by decide) (by decide)
  obtain ⟨-, W, hscan, -⟩ := Scanner.scan_spec s hv hnames hdir
  exact ⟨hv, hnames, hdir, W, hscan,
    build_documents_kept_directories s hv hnames hdir hscan cfg page Dialect.gherkin.parser⟩

end FeatureDocs.Tree
