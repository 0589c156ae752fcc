import FeatureDocs.Proofs.GlossaryLayout

/-!
# The glossary grouped by step kind

Grouped by step kind, the glossary document is its title followed by one section per kind of
step that its entries have: `Given`, `When` and `Then` first, in that order, when present, then
every other kind, the empty one included, in byte order. Each section holds the term list and the
glossary block of the entries of its kind, in the display order. Each kind has one section, so
every entry is written in one section, and the blocks of the grouped document are those of the
ungrouped one, in another order.

* `Glossary.sectionLines`, `Glossary.render_grouped`: the document as its sections;
* `Glossary.mem_stepTypes`, `Glossary.sortedBy_stepTypes`: the kinds of the entries, in byte order;
* `Glossary.groupOrder_eq`, `Glossary.nodup_groupOrder`, `Glossary.mem_groupOrder`: the order of
  the sections;
* `Glossary.perm_flatMap_entriesOfType`, `Glossary.mem_termsOf_entriesOfType`: the sections share
  out the entries;
* `Glossary.GroupedLayout`: the sections of the grouped document and what each holds;
* **`Glossary.Reachable.grouped_layout`**: the grouped document of every glossary a run builds.
-/

namespace FeatureDocs.Markup.Document

attribute [ext] Document

theorem fragments_createSection (d : Document) (level : Nat) (title : String) :
    (d.createSection level title).fragments =
      d.fragments ++ (Document.empty.createSection level title).fragments := by
  simp [createSection, add, addOutput, empty]

end FeatureDocs.Markup.Document

namespace FeatureDocs.Render.Glossary

open FeatureDocs.Data FeatureDocs.Markup Std

/-! ## The document as its sections -/

/-- The lines of the section of one step kind: its heading, then the term list and the glossary
block of the entries of that kind. -/
def sectionLines (g : Glossary) (t : String) : List String :=
  (Document.empty.createSection 2 t).fragments ++ (termsOf (g.entriesOfType t)).map termLine ++
    [Document.fragment "" 1 0, Document.fragment ".. glossary::" 1 0] ++
    (blocksOf (g.entriesOfType t)).flatMap GlossaryEntry.blockLines

theorem render_grouped (g : Glossary) (project : String) :
    g.render project true =
      if g.entries = [] then none
      else some ⟨(Document.empty.createSection 1 (project ++ " Glossary")).fragments ++
        g.groupOrder.flatMap g.sectionLines⟩ := by
  unfold render
  by_cases h : g.entries = []
  · simp [h]
  · simp only [h, List.isEmpty_iff, if_false, if_true]
    congr 1
    ext1
    rw [Document.fragments_foldl _ g.sectionLines]
    intro d t
    rw [renderEntries_fragments, Document.fragments_createSection, sectionLines]
    simp only [List.append_assoc]

/-! ## The kinds and their order -/

theorem mem_foldl_insertBy_stepType {es : List (String × GlossaryEntry)} {acc : List String}
    {t : String} :
    t ∈ es.foldl (fun acc (_, e) => insertBy compareText e.stepType acc) acc ↔
      (∃ p ∈ es, p.2.stepType = t) ∨ t ∈ acc := by
  induction es generalizing acc with
  | nil => simp
  | cons p es ih =>
    obtain ⟨k, e⟩ := p
    rw [List.foldl_cons, ih, mem_insertBy]
    simp only [List.mem_cons, exists_eq_or_imp]
    constructor
    · rintro (h | rfl | h)
      · exact .inl (.inr h)
      · exact .inl (.inl rfl)
      · exact .inr h
    · rintro ((rfl | h) | h)
      · exact .inr (.inl rfl)
      · exact .inl h
      · exact .inr (.inr h)

theorem sortedBy_foldl_insertBy_stepType (es : List (String × GlossaryEntry)) {acc : List String}
    (hacc : SortedBy compareText acc) :
    SortedBy compareText
      (es.foldl (fun acc (_, e) => insertBy compareText e.stepType acc) acc) := by
  induction es generalizing acc with
  | nil => exact hacc
  | cons p es ih => exact ih (sortedBy_insertBy _ hacc)

theorem mem_stepTypes (g : Glossary) (t : String) :
    t ∈ g.stepTypes ↔ ∃ p ∈ g.entries, p.2.stepType = t := by
  rw [stepTypes, mem_foldl_insertBy_stepType]
  simp

theorem sortedBy_stepTypes (g : Glossary) : SortedBy compareText g.stepTypes :=
  sortedBy_foldl_insertBy_stepType _ List.Pairwise.nil

/-- **The order of the sections**: the main kinds that are present, in their order, then the other
kinds that are present, in byte order. -/
theorem groupOrder_eq (g : Glossary) :
    ∃ rest, g.groupOrder =
        ["Given", "When", "Then"].filter (fun t => ∃ p ∈ g.entries, p.2.stepType = t) ++
          rest ∧
      SortedBy compareText rest ∧
      ∀ t, t ∈ rest ↔
        (∃ p ∈ g.entries, p.2.stepType = t) ∧ t ∉ ["Given", "When", "Then"] := by
  refine ⟨g.stepTypes.filter fun t => !mainStepTypes.contains t, ?_,
    (sortedBy_stepTypes g).filter _, fun t => ?_⟩
  · rw [groupOrder]
    congr 1
    refine List.filter_congr fun t _ => ?_
    simp [mem_stepTypes]
  · simp [mem_stepTypes, mainStepTypes]

example :
    (((((({} : Glossary).addReference "it works" "Then" ⟨"a.feature"⟩ 3).addReference "a thing"
      "Given" ⟨"a.feature"⟩ 1).addReference "I act" "When" ⟨"a.feature"⟩ 2).addReference
      "cleanup" "Cleanup" ⟨"a.feature"⟩ 4).addReference "also" "Another" ⟨"a.feature"⟩
      5).groupOrder = ["Given", "When", "Then", "Another", "Cleanup"] := by
  decide +kernel

theorem mem_groupOrder (g : Glossary) (t : String) :
    t ∈ g.groupOrder ↔ ∃ p ∈ g.entries, p.2.stepType = t := by
  obtain ⟨rest, hg, -, hrest⟩ := groupOrder_eq g
  rw [hg, List.mem_append, hrest, List.mem_filter]
  by_cases hmain : t ∈ ["Given", "When", "Then"]
  · simp [hmain]
  · simp [hmain]

theorem nodup_groupOrder (g : Glossary) : g.groupOrder.Nodup := by
  obtain ⟨rest, hg, hsorted, hrest⟩ := groupOrder_eq g
  rw [hg]
  refine List.nodup_append.mpr ⟨List.filter_sublist.nodup (by decide), hsorted.nodup,
    fun a ha b hb hab => ?_⟩
  -- the first sections are main kinds, the others are not
  subst hab
  exact ((hrest a).mp hb).2 (List.mem_filter.mp ha).1

/-! ## The sections share out the entries -/

theorem entriesOfType_eq (g : Glossary) (t : String) :
    g.entriesOfType t = (g.entries.map Prod.snd).filter fun e => e.stepType = t := by
  rw [entriesOfType, List.filter_map]
  congr 1

theorem entriesOfType_sublist (g : Glossary) (t : String) :
    (g.entriesOfType t).Sublist (g.entries.map Prod.snd) := by
  rw [entriesOfType_eq]
  exact List.filter_sublist

/-- **The sections share out the entries**: when distinct entries are distinct values, the entries
of the kinds in the order of the groups are the entries of the glossary, in another order. -/
theorem perm_flatMap_entriesOfType {g : Glossary} (hnodup : (g.entries.map Prod.snd).Nodup) :
    (g.groupOrder.flatMap g.entriesOfType).Perm (g.entries.map Prod.snd) := by
  refine (List.perm_ext_iff_of_nodup ?_ hnodup).mpr fun e => ?_
  · -- each kind's entries are distinct, and two kinds share no entry
    refine List.nodup_flatMap.mpr ⟨fun t _ => hnodup.sublist (entriesOfType_sublist g t), ?_⟩
    refine (nodup_groupOrder g).imp fun {t u} htu e he he' => htu ?_
    rw [entriesOfType_eq, List.mem_filter] at he he'
    exact (of_decide_eq_true he.2).symm.trans (of_decide_eq_true he'.2)
  · simp only [List.mem_flatMap, entriesOfType_eq, List.mem_filter, decide_eq_true_eq]
    constructor
    · rintro ⟨t, -, he, -⟩
      exact he
    · intro he
      obtain ⟨p, hp, rfl⟩ := List.mem_map.mp he
      exact ⟨p.2.stepType, (mem_groupOrder g _).mpr ⟨p, hp, rfl⟩, he, rfl⟩

theorem mem_termsOf_entriesOfType (g : Glossary) (t n : String) :
    n ∈ termsOf (g.entriesOfType t) ↔
      ∃ p ∈ g.entries, p.2.stepType = t ∧ n ∈ p.2.names := by
  simp only [termsOf, mem_foldl_insertAllBy, List.not_mem_nil, or_false, entriesOfType_eq,
    List.mem_filter, List.mem_map, decide_eq_true_eq]
  constructor
  · rintro ⟨e, ⟨⟨p, hp, rfl⟩, rfl⟩, hn⟩
    exact ⟨p, hp, rfl, hn⟩
  · rintro ⟨p, hp, rfl, hn⟩
    exact ⟨p.2, ⟨⟨p, hp, rfl⟩, rfl⟩, hn⟩

/-! ## The grouped document of a glossary a run builds -/

/-- The layout of the grouped document of a glossary: its sections, their order, and what each
holds. -/
structure GroupedLayout (g : Glossary) (project : String) : Prop where
  /-- The document: the title, then the sections in the order of `groupOrder`. -/
  render : g.render project true =
    if g.entries = [] then none
    else some ⟨(Document.empty.createSection 1 (project ++ " Glossary")).fragments ++
      g.groupOrder.flatMap g.sectionLines⟩
  /-- `Given`, `When` and `Then` come first, when present, then the other kinds in byte order. -/
  main_first : ∃ rest, g.groupOrder =
      ["Given", "When", "Then"].filter (fun t => ∃ p ∈ g.entries, p.2.stepType = t) ++ rest ∧
    SortedBy compareText rest ∧
    ∀ t, t ∈ rest ↔ (∃ p ∈ g.entries, p.2.stepType = t) ∧ t ∉ ["Given", "When", "Then"]
  order_nodup : g.groupOrder.Nodup
  mem_order : ∀ t, t ∈ g.groupOrder ↔ ∃ p ∈ g.entries, p.2.stepType = t
  /-- The blocks of a section are the entries of its kind, in strictly increasing display order. -/
  section_blocks : ∀ t, (blocksOf (g.entriesOfType t)).Perm
    ((g.entries.map Prod.snd).filter fun e => e.stepType = t)
  section_sorted : ∀ t, (blocksOf (g.entriesOfType t)).Pairwise GlossaryEntry.Precedes
  section_terms_sorted : ∀ t, SortedBy compareText (termsOf (g.entriesOfType t))
  mem_section_terms : ∀ t n, n ∈ termsOf (g.entriesOfType t) ↔
    ∃ p ∈ g.entries, p.2.stepType = t ∧ n ∈ p.2.names
  /-- Each entry is written in exactly one section. -/
  count_sections : ∀ p ∈ g.entries,
    (g.groupOrder.flatMap fun t => blocksOf (g.entriesOfType t)).count p.2 = 1
  /-- The blocks of the sections are those of the ungrouped document. -/
  blocks_perm : (g.groupOrder.flatMap fun t =>
      (blocksOf (g.entriesOfType t)).map GlossaryEntry.blockLines).Perm
    (g.blocks.map GlossaryEntry.blockLines)

/-- **The grouped glossary.** For every glossary a run builds, the grouped document is the title
and one section per kind of step of its entries, each kind once: `Given`, `When` and `Then` first,
in that order, when present, then the other kinds, the empty one included, in byte order. The
section of a kind lists the spellings of the entries of that kind in byte order, and their blocks
in strictly increasing display order. So every entry is written in exactly one section, and the
blocks of the grouped document are those of the ungrouped one. -/
theorem Reachable.grouped_layout {g : Glossary} (hg : g.Reachable) (project : String) :
    g.GroupedLayout project := by
  have hs := hg.sound
  -- the blocks of the sections, one after the other, are the entries in another order
  have hperm : (g.groupOrder.flatMap fun t => blocksOf (g.entriesOfType t)).Perm
      (g.entries.map Prod.snd) :=
    ((List.Perm.flatMap_left _ fun t _ => List.mergeSort_perm _ _).trans
      (perm_flatMap_entriesOfType hs.nodup_values))
  refine ⟨render_grouped g project, groupOrder_eq g, nodup_groupOrder g, mem_groupOrder g,
    fun t => ?_, fun t => hs.blocksOf_pairwise (entriesOfType_sublist g t),
    fun t => sortedBy_foldl_insertAllBy _ List.Pairwise.nil, mem_termsOf_entriesOfType g,
    fun p hp => ?_, ?_⟩
  · rw [← entriesOfType_eq]
    exact List.mergeSort_perm _ _
  · exact List.count_eq_one_of_mem (hperm.nodup_iff.mpr hs.nodup_values)
      (hperm.mem_iff.mpr (List.mem_map_of_mem hp))
  · rw [← List.map_flatMap]
    exact (hperm.trans (blocks_perm g).symm).map _

/-- Five steps of five kinds, the three main ones recorded out of order. -/
theorem grouped_layout_five_kinds :
    let g : Glossary :=
      ((((({} : Glossary).addReference "it works" "Then" ⟨"a.feature"⟩ 3).addReference "a thing"
        "Given" ⟨"a.feature"⟩ 1).addReference "I act" "When" ⟨"a.feature"⟩ 2).addReference
        "cleanup" "Cleanup" ⟨"a.feature"⟩ 4).addReference "also" "Another" ⟨"a.feature"⟩ 5
    g.Reachable ∧ g.GroupedLayout "P" := by
  intro g
  have hg : g.Reachable :=
    .addReference _ _ _ _ (.addReference _ _ _ _ (.addReference _ _ _ _
      (.addReference _ _ _ _ (.addReference _ _ _ _ .empty))))
  exact ⟨hg, hg.grouped_layout "P"⟩

end FeatureDocs.Render.Glossary
