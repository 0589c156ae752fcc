import FeatureDocs.Proofs.TocLinks

/-!
# When two outputs of a build share a name

A build names each file it writes for its work list after the path of its source, the segments
joined by dots: a feature's page adds `-file.rst`, the copy of a Markdown file nothing, the table
of contents of a directory below the root `-toc.rst`. A dot of the join cannot be told from a dot
inside a name, so `specs/a.b.feature` and `specs/a/b.feature` both have the page
`specs.a.b.feature-file.rst`, and a build of a tree holding both writes one over the other. This
is the only way two outputs meet: the kind of an output can be read back from its name, and two
names of one kind coincide exactly when their sources read the same with `.` for `/`.

* `OutputKind`, `Source`, `Source.outputFile`, `Source.dotted`: the outputs and their names;
* `Source.outputFile_eq_dotted_append`: a name is the dotted source, then the marker of its kind;
* `Source.ofName_outputFile`: the kind of an output is read back from its name;
* **`Source.outputFile_eq_iff`**: two names coincide exactly when the kinds and the dotted sources
  do;
* `validName_flatName`: every output is written directly in the output directory;
* `scanned_features_share_page_name`: a scanned tree with two features of one page name.
-/

namespace FeatureDocs.Tree

open FeatureDocs.Store FeatureDocs.Data FeatureDocs.Text

/-- The kinds of file a build writes for its work list. -/
inductive OutputKind
  | page
  | copy
  | toc
deriving DecidableEq, Repr

namespace OutputKind

/-- What follows the dotted source in the name of an output of the kind. -/
def marker : OutputKind → String
  | .page => "-file" ++ outputExtension
  | .copy => ""
  | .toc => "-toc" ++ outputExtension

/-- The kind of output a name is of: Markdown names are copies, names that end with the marker
of a table of contents are tables of contents, the others pages. -/
def ofName (n : String) : OutputKind :=
  if isMarkdownFile n then .copy
  else if toc.marker.toList.isSuffixOf n.toList then .toc
  else .page

theorem not_isMarkdownFile_append_marker {k : OutputKind} (hk : k ≠ .copy) (x : String) :
    isMarkdownFile (x ++ k.marker) = false := by
  cases k with
  | page =>
    rw [marker, ← String.append_assoc]
    exact not_isMarkdownFile_append (by simp)
  | copy => exact absurd rfl hk
  | toc =>
    rw [marker, ← String.append_assoc]
    exact not_isMarkdownFile_append (by simp)

/-- A page's name does not end with the marker of a table of contents: the shorter marker would
end the longer one. -/
theorem not_toc_suffix_page (x : String) :
    ¬ toc.marker.toList <:+ (x ++ page.marker).toList := by
  intro h
  rw [String.toList_append] at h
  exact absurd (List.suffix_of_suffix_length_le h (List.suffix_append _ _) (by decide +kernel))
    (by decide +kernel)

theorem ofName_append_marker {k : OutputKind} (hk : k ≠ .copy) (x : String) :
    ofName (x ++ k.marker) = k := by
  rw [ofName, not_isMarkdownFile_append_marker hk, if_neg Bool.false_ne_true]
  cases k with
  | page => exact if_neg fun h => not_toc_suffix_page x (List.isSuffixOf_iff_suffix.mp h)
  | copy => exact absurd rfl hk
  | toc =>
    rw [String.toList_append]
    exact if_pos (List.isSuffixOf_iff_suffix.mpr (List.suffix_append _ _))

end OutputKind

/-- A source of the work list that a build writes a file for: a file of a directory, by the
directory's path list and the file's name, or a directory below the root, by its path list. -/
inductive Source
  | file (pathList : List String) (name : String)
  | dir (pathList : List String)
deriving DecidableEq, Repr

namespace Source

/-- The sources a build writes for: features, Markdown files and directories. -/
def Written : Source → Prop
  | .file _ f => isFeatureFile f = true ∨ isMarkdownFile f = true
  | .dir _ => True

instance decidableWritten : DecidablePred Written := fun a => by
  cases a <;> unfold Written <;> infer_instance

/-- The kind of output written for the source. -/
def kind : Source → OutputKind
  | .file _ f => if isFeatureFile f then .page else .copy
  | .dir _ => .toc

/-- The name of the file written for the source: `outputName` for a file, the name of
`tocTarget` for a directory below the root. -/
def outputFile : Source → String
  | .file P f => outputName P f
  | .dir P => flatName P none true (some outputExtension)

/-- The segments of the source, from the root's name on, joined by dots: its path with `.` for
`/`. -/
def dotted : Source → String
  | .file P f => ".".intercalate (P ++ [f])
  | .dir P => ".".intercalate P

theorem outputFile_eq_dotted_append (a : Source) : a.outputFile = a.dotted ++ a.kind.marker := by
  cases a with
  | file P f =>
    cases hf : isFeatureFile f <;>
      simp [outputFile, dotted, kind, outputName, flatName, hf, OutputKind.marker,
        String.append_assoc]
  | dir P => simp [outputFile, dotted, kind, flatName, OutputKind.marker, String.append_assoc]

theorem ofName_outputFile {a : Source} (ha : a.Written) : OutputKind.ofName a.outputFile = a.kind := by
  cases a with
  | file P f =>
    by_cases hf : isFeatureFile f = true
    · have hk : (file P f).kind = .page := by simp [kind, hf]
      rw [outputFile_eq_dotted_append, hk]
      exact OutputKind.ofName_append_marker (by simp) _
    · -- a copy ends with the name of its Markdown file
      have hmd : isMarkdownFile f = true := ha.resolve_left hf
      have hk : (file P f).kind = .copy := by simp [kind, hf]
      obtain ⟨pre, hpre⟩ := flatName_concat_none P f
      have hname : (file P f).outputFile = pre ++ f := by
        rw [← hpre]
        simp [outputFile, outputName, hf]
      rw [hname, hk, OutputKind.ofName, if_pos (isMarkdownFile_append hmd)]
  | dir P =>
    rw [outputFile_eq_dotted_append]
    exact OutputKind.ofName_append_marker (by simp [kind]) _

/-- **Two outputs share a name exactly when they are of one kind and their sources read the same
with `.` for `/`.** A page, a copy and a table of contents never share a name; two pages, two
copies or two tables of contents do exactly when the segments of their sources, joined by dots,
coincide. -/
theorem outputFile_eq_iff {a b : Source} (ha : a.Written) (hb : b.Written) :
    a.outputFile = b.outputFile ↔ a.kind = b.kind ∧ a.dotted = b.dotted := by
  constructor
  · intro h
    have hkind : a.kind = b.kind := by
      rw [← ofName_outputFile ha, ← ofName_outputFile hb, h]
    refine ⟨hkind, ?_⟩
    -- with the kinds equal, so are the markers, which leaves the dotted sources
    rw [outputFile_eq_dotted_append, outputFile_eq_dotted_append, hkind] at h
    exact (String.append_left_inj _).mp h
  · rintro ⟨hkind, hdotted⟩
    rw [outputFile_eq_dotted_append, outputFile_eq_dotted_append, hkind, hdotted]

/-- A feature in `specs` and one in `specs/a`, whose sources read `specs.a.b.feature` both, have
one page. -/
theorem outputFile_eq_iff_nested_features :
    (file ["specs"] "a.b.feature").Written ∧ (file ["specs", "a"] "b.feature").Written ∧
      ((file ["specs"] "a.b.feature").outputFile = (file ["specs", "a"] "b.feature").outputFile ↔
        (file ["specs"] "a.b.feature").kind = (file ["specs", "a"] "b.feature").kind ∧
          (file ["specs"] "a.b.feature").dotted = (file ["specs", "a"] "b.feature").dotted) :=
  ⟨by decide +kernel, by decide +kernel, outputFile_eq_iff (by decide +kernel) (by decide +kernel)⟩

end Source

/-- The page names of features are not distinct across a work list: the scan of a tree holding
`specs/a.b.feature` and `specs/a/b.feature` records both, in two directories, and the two have
one page name. -/
theorem scanned_features_share_page_name :
    let v : Volume := { entries := [(["specs"], .dir), (["specs", "a"], .dir),
      (["specs", "a", "b.feature"], .file ""), (["specs", "a.b.feature"], .file "")] }
    ∃ W : WorkList, ({} : Scanner).scan v ⟨"/specs"⟩ = .ok W ∧
      ∃ x ∈ W.entries, ∃ y ∈ W.entries, "a.b.feature" ∈ x.files ∧ "b.feature" ∈ y.files ∧
        Source.file x.pathList "a.b.feature" ≠ Source.file y.pathList "b.feature" ∧
        (Source.file x.pathList "a.b.feature").outputFile =
          (Source.file y.pathList "b.feature").outputFile := by
  intro v
  have hv : v.IsTree := by decide
  have hnames : Path.absoluteNames v.cwd ⟨"/specs"⟩ = .ok ["specs"] := rfl
  have hwalk : v.walk true linkBudget [] ["specs"] = .ok (.entry ["specs"] .dir) :=
    (Volume.walk_dir true linkBudget [] (by decide) (by decide) (by decide)).trans
      (Volume.walk_nil v _ _ _)
  obtain ⟨L, W, hscan, hmem, -, hat⟩ :=
    Scanner.scan_spec {} hv hnames (Volume.isDir_path (by decide) hwalk)
  -- the scan goes down from the root into `a`, the only subdirectory
  have hroot : ({} : Scanner).Reaches v ["specs"] [] [] := .here rfl
  have hdown : ({} : Scanner).Reaches v ["specs"] [] ["a"] :=
    .down rfl ⟨by decide, (Volume.linkMetadata_path_concat (by decide) hwalk (by decide)).mpr
      (by decide), by decide, .inr (by decide)⟩ (.here rfl)
  -- both features are files where the scan looks for them
  have hw₀ : v.walk true linkBudget [] ["specs", "a.b.feature"] =
      .ok (.entry (["specs"] ++ ["a.b.feature"]) (.file "")) :=
    (Volume.walk_dir true linkBudget ["a.b.feature"] (by decide) (by decide) (by decide)).trans
      ((Volume.walk_file true linkBudget [] (by decide) (by decide) (by decide)).trans (if_pos rfl))
  have hw₁ : v.walk true linkBudget [] ["specs", "a", "b.feature"] =
      .ok (.entry (["specs", "a"] ++ ["b.feature"]) (.file "")) :=
    (Volume.walk_dir true linkBudget ["a", "b.feature"] (by decide) (by decide) (by decide)).trans
      ((Volume.walk_dir true linkBudget ["b.feature"] (by decide) (by decide) (by decide)).trans
        ((Volume.walk_file true linkBudget [] (by decide) (by decide) (by decide)).trans
          (if_pos rfl)))
  refine ⟨W, hscan, _, (hmem _).mpr ⟨[], hroot, rfl⟩, _, (hmem _).mpr ⟨["a"], hdown, rfl⟩,
    (Scanner.mem_record_files hv (hat [] hroot)).mpr
      ⟨by decide, by decide, Volume.isFile_path (by decide) hw₀, by decide +kernel, rfl⟩,
    (Scanner.mem_record_files hv (hat ["a"] hdown)).mpr
      ⟨by decide, by decide, Volume.isFile_path (by decide) hw₁, by decide +kernel, rfl⟩,
    fun h => absurd (Source.file.inj h).2 (by decide), ?_⟩
  show (Source.file ["specs"] "a.b.feature").outputFile =
    (Source.file ["specs", "a"] "b.feature").outputFile
  decide +kernel

/-! ## Outputs are written directly in the output directory -/

theorem validName_of_three_le {x : String} (hsep : '/' ∉ x.toList) (hlen : 3 ≤ x.toList.length) :
    ValidName x where
  ne_empty := by rintro rfl; simp at hlen
  ne_dot := by rintro rfl; simp at hlen
  ne_dotdot := by rintro rfl; simp at hlen
  no_sep := hsep

theorem intercalate_dot {a : String} {P : List String} (hP : ValidLocation (a :: P)) :
    '/' ∉ (".".intercalate (a :: P)).toList ∧
      a.toList.length ≤ (".".intercalate (a :: P)).toList.length := by
  induction P generalizing a with
  | nil => simpa using (hP a List.mem_cons_self).no_sep
  | cons b rest ih =>
    have ha : ValidName a := hP a List.mem_cons_self
    obtain ⟨hsep, -⟩ := ih (a := b) fun n hn => hP n (List.mem_cons_of_mem a hn)
    rw [String.intercalate_cons_cons]
    simp only [String.toList_append, List.mem_append, not_or, List.length_append]
    exact ⟨⟨⟨ha.no_sep, by decide⟩, hsep⟩, by omega⟩

/-- The flat name of a source below the root is a valid name, so that its output is written
directly in the output directory: a file's name joins two segments or more, and a marker follows
the segments of a table of contents. -/
theorem validName_flatName {segs : List String} (hsegs : ValidLocation segs) (hne : segs ≠ [])
    (isDir : Bool) {ext : Option String} (hext : ∀ e ∈ ext, '/' ∉ e.toList)
    (hlong : 2 ≤ segs.length ∨ ext.isSome) : ValidName (flatName segs none isDir ext) := by
  obtain ⟨a, P, rfl⟩ := List.exists_cons_of_ne_nil hne
  obtain ⟨hsep, hhead⟩ := intercalate_dot hsegs
  have ha := List.length_pos_of_ne_nil (hsegs a List.mem_cons_self).toList_ne_nil
  cases ext with
  | none =>
    -- two segments or more, joined by a dot
    obtain ⟨b, rest, rfl⟩ : ∃ b rest, P = b :: rest := by
      cases P with
      | nil => simp at hlong
      | cons b rest => exact ⟨b, rest, rfl⟩
    have hb := (intercalate_dot (a := b) (P := rest) fun n hn =>
      hsegs n (List.mem_cons_of_mem a hn)).2
    have hb' := List.length_pos_of_ne_nil (hsegs b (by simp)).toList_ne_nil
    refine validName_of_three_le (by simpa [flatName] using hsep) ?_
    have hdot : ".".toList.length = 1 := rfl
    simp only [flatName, Option.toList, List.append_nil, String.intercalate_cons_cons,
      String.toList_append, List.length_append, hdot]
    omega
  | some e =>
    -- the marker alone has three characters or more
    have hm : '/' ∉ (if isDir then "-toc" else "-file").toList ∧
        3 ≤ (if isDir then "-toc" else "-file").toList.length := by
      cases isDir <;> decide
    refine validName_of_three_le ?_ ?_
    · simp only [flatName, Option.toList, List.append_nil, String.toList_append, List.mem_append,
        not_or]
      exact ⟨⟨hsep, hm.1⟩, hext e rfl⟩
    · simp only [flatName, Option.toList, List.append_nil, String.toList_append, List.length_append]
      omega

end FeatureDocs.Tree
